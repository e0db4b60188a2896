import Dossier.Http.Header

/-!
# Media types

The type of a body is written as a kind and a subtype with a slash between them, in any case, and
may be followed by parameters.  The part of a subtype behind its last plus sign names the format
that the subtype is built on.
-/

namespace Dossier.Http

/-- A media type without its parameters, in lower case. -/
structure MediaType where
  kind : String
  subtype : String
  format : Option String
deriving DecidableEq

namespace MediaType

/-- May this character stand in a name? -/
def isNameChar (c : Char) : Bool := isTokenChar c && c != '*'

/-- May this character stand in a quoted value? -/
def isQuotable (c : Char) : Bool := 0x20 ≤ c.toNat && c.toNat != 0x7f

/-- Where the reading of parameters stands. -/
inductive ParamState where
  | between
  | name
  | valueStart
  | value
  | quotedStart
  | quoted
  | closed
deriving DecidableEq

namespace ParamState

/-- The state after one more character, unless that is out of place. -/
def next (state : ParamState) (c : Char) : Option ParamState :=
  match state with
  | between => if c = ' ' then some between else if isNameChar c then some name else none
  | name => if isNameChar c then some name else if c = '=' then some valueStart else none
  | valueStart => if c = '"' then some quotedStart else if isNameChar c then some value else none
  | value => if isNameChar c then some value else if c = ';' then some between else none
  | quotedStart => if isQuotable c then some quoted else none
  | quoted => if c = '"' then some closed else if isQuotable c then some quoted else none
  | closed => if c = ';' then some between else if c = ' ' then some closed else none

/-- May the text end here? -/
def isFinal : ParamState → Bool
  | between | valueStart | value | closed => true
  | name | quotedStart | quoted => false

end ParamState

/-- Are these well-formed parameters? -/
def areParams (cs : List Char) : Bool := (cs.foldlM ParamState.next .between).any ParamState.isFinal

/-- The subtype and the format of a text; a plus sign at its head belongs to the subtype. -/
def splitFormat (cs : List Char) : String × Option String :=
  let tail := cs.reverse.takeWhile (· ≠ '+')
  if tail.length + 1 < cs.length then
    (String.ofList (cs.take (cs.length - tail.length - 1)), some (String.ofList tail.reverse))
  else (String.ofList cs, none)

/-- The media type that a text stands for. -/
def parse (s : String) : Option MediaType :=
  let cs := s.toList.map Char.toLower
  let kind := cs.takeWhile isNameChar
  match cs.dropWhile isNameChar with
  | '/' :: rest =>
    let name := rest.takeWhile isNameChar
    let params := rest.dropWhile isNameChar
    let fine := match params with
      | [] => true
      | c :: more => c == ';' && areParams more
    if kind.isEmpty || name.isEmpty || !fine then none
    else
      let (subtype, format) := splitFormat name
      some ⟨String.ofList kind, subtype, format⟩
  | _ => none

/-- Is this JSON, or a format built on JSON? -/
def isJson (m : MediaType) : Bool :=
  m.kind == "application" && (m.subtype == "json" || m.format == some "json")

end MediaType

end Dossier.Http
