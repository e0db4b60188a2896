import Dossier.Json.Value
import Dossier.Text.Words

/-!
# Entities as text

A registry holds one renderer for each kind of business entity that it knows.  A renderer makes a
title and a body from the state of an entity, or nothing when the state lacks what the title needs.
-/

namespace Dossier.Entity

/-- An entity as text. -/
structure Rendered where
  title : String
  body : String
deriving DecidableEq

/-- A function that makes text from the state of an entity. -/
abbrev Renderer := Json → Option Rendered

/-- Why an entity cannot be rendered. -/
inductive RenderError where
  | unknownKind (kind : String)
  | invalidState (kind : String)
deriving DecidableEq

/-- The wording of a render error. -/
def RenderError.message : RenderError → String
  | unknownKind kind => "No renderer registered for entity kind " ++ kind ++ "."
  | invalidState kind => "Entity state for " ++ kind ++ " is missing required fields."

/-- A field of a state as text: trimmed text that is not blank, a number or a truth value. -/
def field? (state : Json) (name : String) : Option String :=
  match state.field? name with
  | some (.str s) =>
    let cs := Text.trim s.toList
    if cs.isEmpty then none else some (String.ofList cs)
  | some (.num n) => some n.text
  | some (.bool b) => some (if b then "true" else "false")
  | _ => none

/-- One line for every field that is there. -/
def lines (state : Json) (fields : List (String × String)) : String :=
  "\n".intercalate (fields.filterMap fun (label, name) =>
    (field? state name).map fun value => label ++ ": " ++ value)

/-- An account. -/
def account : Renderer := fun state => do
  let name ← field? state "name"
  return ⟨"Account: " ++ name,
    lines state [("Account", "name"), ("Industry", "industry"), ("Tier", "tier"),
      ("Description", "description")]⟩

/-- The name of a contact: its name field, or its first and last name. -/
def contactName? (state : Json) : Option String :=
  match field? state "name" with
  | some name => some name
  | none => (field? state "first_name").map fun first =>
    match field? state "last_name" with
    | some last => first ++ " " ++ last
    | none => first

/-- A contact. -/
def contact : Renderer := fun state => do
  let title := "Contact: " ++ (← contactName? state)
  let rest := lines state [("Title", "title"), ("Email", "email"), ("Phone", "phone"),
    ("Notes", "notes")]
  return ⟨title, if rest.isEmpty then title else title ++ "\n" ++ rest⟩

/-- A deal. -/
def deal : Renderer := fun state => do
  let name ← field? state "name"
  return ⟨"Deal: " ++ name,
    lines state [("Deal", "name"), ("Stage", "stage"), ("Amount", "amount"),
      ("Close date", "close_date"), ("Description", "description")]⟩

/-- A support case. -/
def supportCase : Renderer := fun state => do
  let subject ← field? state "subject"
  return ⟨"Case: " ++ subject,
    lines state [("Case", "subject"), ("Status", "status"), ("Priority", "priority"),
      ("Description", "description")]⟩

/-- The renderers by kind of entity. -/
structure Registry where
  renderers : List (String × Renderer)

namespace Registry

/-- No renderer at all. -/
def empty : Registry := ⟨[]⟩

/-- A renderer for a kind in place of any that it had. -/
def register (r : Registry) (kind : String) (renderer : Renderer) : Registry :=
  ⟨(kind, renderer) :: r.renderers.filter (·.1 != kind)⟩

/-- The renderers for accounts, contacts, deals and cases. -/
def standard : Registry :=
  (((empty.register "account" account).register "contact" contact).register "deal" deal).register
    "case" supportCase

/-- The renderer of a kind. -/
def find? (r : Registry) (kind : String) : Option Renderer :=
  (r.renderers.find? (·.1 == kind)).map (·.2)

/-- Is there a renderer for a kind? -/
def supports (r : Registry) (kind : String) : Bool := (r.find? kind).isSome

/-- An entity of a kind as text. -/
def render (r : Registry) (kind : String) (state : Json) : Except RenderError Rendered :=
  match r.find? kind with
  | none => .error (.unknownKind kind)
  | some renderer =>
    match renderer state with
    | none => .error (.invalidState kind)
    | some rendered => .ok rendered

end Registry

end Dossier.Entity
