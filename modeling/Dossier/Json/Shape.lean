import Dossier.Json.Decode
import Dossier.Json.Skip

/-!
# Shapes of JSON texts

A shape says what a text is to be read as.  `Shape.parse` reads a text from left to right and gives
the value that it stands for, or the first fault that it meets: either the text ceases to be JSON,
or what was read so far cannot be the beginning of a value of that shape.  Fields that a record does
not declare are passed over and are no part of the value.
-/

namespace Dossier.Json

/-- What is wrong with a text that is to be read as a value of some shape. -/
inductive Fault where
  /-- The text is no JSON, or does not go on as the shape has to. -/
  | malformed
  /-- The text is JSON of another shape. -/
  | misshapen
deriving DecidableEq, Repr

/-- What a text is read as.  A field of a record is given by its name, by whether it has to be
there, and by its own shape. -/
inductive Shape where
  | any
  | scalar (fits : Json → Bool)
  | label (known : String → Bool)
  | optional (inner : Shape)
  | list (inner : Shape)
  | record (fields : List (String × Bool × Shape))

namespace Shape

/-- A string. -/
def text : Shape := .scalar fun v => v.asString.isSome

/-- A natural number of 32 bits. -/
def count : Shape := .scalar fun v => (v.asNat (twoTo 32)).isSome

/-- The fault of a text that is read as something that is neither an array nor an object: these two
are refused where they begin. -/
def refusal (cs : List Char) : Fault :=
  match cs with
  | '[' :: _ | '\x7b' :: _ => .misshapen
  | _ => if (readValue 1 0 cs).isSome then .misshapen else .malformed

/-- The scalar at the head of a text, and the rest. -/
def readScalar (fits : Json → Bool) (cs : List Char) : Except Fault (Json × List Char) :=
  match readValue 1 0 cs with
  | some (v, rest) => if fits v then .ok (v, rest) else .error .misshapen
  | none => .error (refusal cs)

/-- What follows a character that has to come next, blanks apart. -/
def expect (c : Char) (cs : List Char) : Except Fault (List Char) :=
  match skipBlanks cs with
  | found :: rest => if found = c then .ok (skipBlanks rest) else .error .malformed
  | [] => .error .malformed

/-- Is this a string that is known? -/
def isKnown (known : String → Bool) (v : Json) : Bool := v.asString.any known

/-- The label at the head of a text, and the rest.  A label is a string or an object with one name
and null; the object is read as its name. -/
def readLabel (known : String → Bool) (cs : List Char) : Except Fault (Json × List Char) :=
  match cs with
  | '"' :: _ => readScalar (isKnown known) cs
  | '\x7b' :: rest => do
    let (name, rest) ← readScalar (isKnown known) (skipBlanks rest)
    let rest ← expect ':' rest
    let (_, rest) ← readScalar (fun v => v matches .null) rest
    match skipBlanks rest with
    | '\x7d' :: rest => .ok (name, rest)
    | _ => .error .malformed
  | _ => .error .malformed

/-- A record that ends while some fields are missing. -/
def close (missing : List (String × Bool × Shape)) (value : Json) (rest : List Char) :
    Except Fault (Json × List Char) :=
  if missing.any (·.2.1) then .error .misshapen else .ok (value, rest)

/-- The declared fields that were not read. -/
def unread (fields : List (String × Bool × Shape)) (found : List (String × Json)) :
    List (String × Bool × Shape) :=
  fields.filter fun field => !found.any (·.1 == field.1)

mutual

/-- The value of a shape at the head of a text without leading blanks, and the rest.  `depth` more
levels of nesting are allowed. -/
def read : Nat → Nat → Shape → List Char → Except Fault (Json × List Char)
  | 0, _, _, _ => .error .malformed
  | _, depth, any, cs =>
    match readValue (cs.length + 1) depth cs with
    | some found => .ok found
    | none => .error .malformed
  | _, _, scalar fits, cs => readScalar fits cs
  | _, _, label known, cs => readLabel known cs
  | fuel + 1, depth, optional inner, cs =>
    match cs with
    | 'n' :: _ => readScalar (fun _ => true) cs
    | _ => read fuel depth inner cs
  | fuel + 1, depth, list inner, cs =>
    match cs with
    | '[' :: rest =>
      match skipBlanks rest with
      | ']' :: rest => .ok (.arr [], rest)
      | rest => readItems fuel (depth - 1) inner [] rest
    | _ => .error (refusal cs)
  | fuel + 1, depth, record fields, cs =>
    match cs with
    | '[' :: rest =>
      match skipBlanks rest with
      | ']' :: rest => close fields (.arr []) rest
      | rest => readRow fuel (depth - 1) fields [] rest
    | '\x7b' :: rest =>
      match skipBlanks rest with
      | '\x7d' :: rest => close fields (.obj []) rest
      | rest => readFields fuel (depth - 1) fields [] rest
    | _ => .error (refusal cs)

/-- The remaining items of an array, in reverse onto `acc`. -/
def readItems : Nat → Nat → Shape → List Json → List Char → Except Fault (Json × List Char)
  | 0, _, _, _, _ => .error .malformed
  | fuel + 1, depth, inner, acc, cs => do
    let (item, rest) ← read fuel depth inner cs
    match skipBlanks rest with
    | ',' :: rest => readItems fuel depth inner (item :: acc) (skipBlanks rest)
    | ']' :: rest => .ok (.arr (item :: acc).reverse, rest)
    | _ => .error .malformed

/-- The remaining fields of a record that is written as an array, in reverse onto `acc`. -/
def readRow : Nat → Nat → List (String × Bool × Shape) → List Json → List Char →
    Except Fault (Json × List Char)
  | fuel + 1, depth, field :: more, acc, cs => do
    let (value, rest) ← read fuel depth field.2.2 cs
    match skipBlanks rest with
    | ',' :: rest => readRow fuel depth more (value :: acc) (skipBlanks rest)
    | ']' :: rest => close more (.arr (value :: acc).reverse) rest
    | _ => .error .malformed
  | _, _, _, _, _ => .error .malformed

/-- The remaining fields of a record that is written as an object, in reverse onto `found`.  A field
that is declared comes once. -/
def readFields : Nat → Nat → List (String × Bool × Shape) → List (String × Json) → List Char →
    Except Fault (Json × List Char)
  | 0, _, _, _, _ => .error .malformed
  | fuel + 1, depth, fields, found, cs =>
    match cs with
    | '"' :: rest =>
      match readString [] rest with
      | none => .error .malformed
      | some (name, rest) =>
        match fields.find? (·.1 == name) with
        | some field =>
          if found.any (·.1 == name) then .error .misshapen
          else do
            let rest ← expect ':' rest
            let (value, rest) ← read fuel depth field.2.2 rest
            readNext fuel depth fields ((name, value) :: found) rest
        | none => do
          let rest ← expect ':' rest
          match skipValue (rest.length + 1) rest with
          | some rest => readNext fuel depth fields found rest
          | none => .error .malformed
    | _ => .error .malformed

/-- What a record goes on with behind one of its fields. -/
def readNext : Nat → Nat → List (String × Bool × Shape) → List (String × Json) → List Char →
    Except Fault (Json × List Char)
  | 0, _, _, _, _ => .error .malformed
  | fuel + 1, depth, fields, found, cs =>
    match skipBlanks cs with
    | ',' :: rest => readFields fuel depth fields found (skipBlanks rest)
    | '\x7d' :: rest => close (unread fields found) (.obj found.reverse) rest
    | _ => .error .malformed

end

/-- The value of a shape that a whole text stands for, or its first fault. -/
def parse (shape : Shape) (s : String) : Except Fault Json :=
  let cs := s.toList
  match shape.read (4 * cs.length + 8) 127 (skipBlanks cs) with
  | .error fault => .error fault
  | .ok (value, rest) => if (skipBlanks rest).isEmpty then .ok value else .error .malformed

end Shape

end Dossier.Json
