import Dossier.Json.Value

/-!
# Header fields

Names of header fields are tokens in which case does not matter; they are kept in lower case.
Values hold no control characters but the tab.
-/

namespace Dossier.Http

/-- Is this a character of a token? -/
def isTokenChar (c : Char) : Bool := c.isAlphanum || "!#$%&'*+-.^_|~\x60".toList.contains c

/-- The longest name of a header field. -/
def maxNameLength : Nat := 65535

/-- The name of a header field in lower case. -/
def headerName? (s : String) : Option String :=
  let cs := s.toList
  if !cs.isEmpty && cs.length ≤ maxNameLength && cs.all isTokenChar then
    some (String.ofList (cs.map Char.toLower))
  else none

/-- May this character stand in the value of a header field? -/
def isValueChar (c : Char) : Bool := c == '\t' || (0x20 ≤ c.toNat && c.toNat != 0x7f)

/-- The value of a header field. -/
def headerValue? (s : String) : Option String := if s.toList.all isValueChar then some s else none

/-- The value of a field as text, which only visible characters, blanks and tabs are. -/
def visibleText? (value : String) : Option String :=
  if value.toList.all fun c => c == '\t' || (0x20 ≤ c.toNat && c.toNat < 0x7f) then some value else none

/-- Header fields by name, in the order of their first insertion. -/
abbrev Headers := List (String × String)

/-- The fields with one put in place of any of its name. -/
def Headers.insert (hs : Headers) (name value : String) : Headers :=
  if hs.any (·.1 == name) then
    hs.map fun field => if field.1 == name then (name, value) else field
  else hs ++ [(name, value)]

/-- The value of a field. -/
def Headers.find? (hs : Headers) (name : String) : Option String :=
  (List.find? (·.1 == name) hs).map (·.2)

/-- Why header fields cannot be made from a configuration. -/
inductive HeaderError where
  | badName
  | badValue
  | notText
deriving DecidableEq

/-- One configured field added. -/
def addConfigured (hs : Headers) (field : String × Json) : Except HeaderError Headers :=
  match field.2 with
  | .str raw =>
    match headerName? field.1, headerValue? raw with
    | some name, some value => .ok (hs.insert name value)
    | none, _ => .error .badName
    | some _, none => .error .badValue
  | _ => .error .notText

/-- The header fields of a request that carries a key: the authorization, then the configured
fields, of which one may replace it. -/
def authorized (apiKey : String) (configured : List (String × Json)) :
    Except HeaderError Headers :=
  match headerValue? ("Bearer " ++ apiKey) with
  | none => .error .badValue
  | some value => configured.foldlM addConfigured [("authorization", value)]

end Dossier.Http
