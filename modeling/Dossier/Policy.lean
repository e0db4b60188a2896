import Dossier.Id
import Dossier.Json.Decode
import Dossier.Pii.Redaction

/-!
# Access and privacy

A permission filter decides which records a principal may see, and redaction decides how the texts
look that it sees.  The standard policy lets administrators see every record of their tenant and
other principals those that they own or that nobody owns.
-/

namespace Dossier

/-- Who asks. -/
structure Principal where
  tenant : String
  user : String
  roles : List String
deriving DecidableEq

namespace Principal

/-- Does the principal have a role? -/
def hasRole (p : Principal) (role : String) : Bool := p.roles.contains role

/-- The principal that a JSON value stands for. -/
def ofJson (j : Json) : Option Principal := do
  let [tenant, user, roles] ← j.slots ["tenant_id", "user_id", "roles"] | none
  return {
    tenant := ← tenant.required Json.asString
    user := ← user.required Json.asString
    roles := ← roles.orElse (Json.asList Json.asString) [] }

/-- The principal as JSON. -/
def toJson (p : Principal) : Json :=
  .obj [("roles", .arr (p.roles.map .str)), ("tenant_id", .str p.tenant), ("user_id", .str p.user)]

end Principal

/-- Whose records may be seen. -/
inductive OwnerScope where
  | any
  | only (user : String)
deriving DecidableEq

/-- Which records may be seen: those of one tenant, and of the owners in scope. -/
structure PermissionFilter where
  tenant : String
  owners : OwnerScope
deriving DecidableEq

/-- May a record of a tenant and an owner be seen?  A record without an owner may. -/
def PermissionFilter.allows (f : PermissionFilter) (tenant : String) (owner : Option String) : Bool :=
  tenant == f.tenant && match f.owners, owner with
    | .any, _ => true
    | .only _, none => true
    | .only user, some owner => user == owner

/-- A text to be redacted, by a key of its own. -/
structure RedactionItem where
  key : Id
  text : String

/-- A redacted text. -/
structure RedactedItem where
  key : Id
  text : String
  redacted : Bool

namespace Policy

/-- The role of administrators. -/
def adminRole : String := "admin"

/-- The permission filter of the standard policy. -/
def standardFilter (p : Principal) : PermissionFilter :=
  ⟨p.tenant, if p.hasRole adminRole then .any else .only p.user⟩

/-- Texts redacted one after the other in one session. -/
def redactIn : Pii.Session → List RedactionItem → List RedactedItem
  | _, [] => []
  | s, item :: rest =>
    let (s, r) := s.redact item.text.toList
    ⟨item.key, String.ofList r.text, r.touched⟩ :: redactIn s rest

/-- Texts redacted by the standard policy. -/
def standardRedaction (items : List RedactionItem) : List RedactedItem := redactIn {} items

end Policy

end Dossier
