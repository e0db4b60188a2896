/-!
# Request targets

The target of a request is what stands in an address behind the host.  Characters that a target may
not hold are written as percent-encoded bytes, a fragment is left out, and the segments `.` and `..`
are resolved.
-/

namespace Dossier.Http

/-- A byte as a percent sign and two hexadecimal digits. -/
def percentByte (b : UInt8) : String :=
  let ds := (Nat.toDigits 16 b.toNat).map Char.toUpper
  "%" ++ String.ofList (List.replicate (2 - ds.length) '0' ++ ds)

/-- A character as it stands in a target: itself, or its bytes percent-encoded. -/
def targetChar (kept : Char → Bool) (c : Char) : String :=
  if kept c then c.toString
  else String.join (c.toString.toUTF8.toList.map percentByte)

/-- May this character stand in the path of a target? -/
def isPathChar (c : Char) : Bool :=
  0x20 < c.toNat && c.toNat < 0x7f && !"\"#<>?\x60\x7b\x7d".toList.contains c

/-- May this character stand in the query of a target? -/
def isQueryChar (c : Char) : Bool :=
  0x20 < c.toNat && c.toNat < 0x7f && !"\"#<>'".toList.contains c

/-- The segments of a path. -/
def segments : List Char → List (List Char)
  | [] => [[]]
  | c :: rest =>
    if c = '/' ∨ c = '\\' then [] :: segments rest
    else match segments rest with
      | [] => [[c]]
      | s :: more => (c :: s) :: more

/-- Does a segment stand for the directory itself? -/
def isDot (s : List Char) : Bool := s = ['.'] || s.map Char.toLower = "%2e".toList

/-- Does a segment stand for the directory above? -/
def isDotDot (s : List Char) : Bool :=
  ["..".toList, ".%2e".toList, "%2e.".toList, "%2e%2e".toList].contains (s.map Char.toLower)

/-- The segments of a path with those for a directory resolved; `done` holds, in reverse, the
segments that are resolved. -/
def resolve (done : List (List Char)) : List (List Char) → List (List Char)
  | [] => done.reverse
  | s :: rest =>
    if isDotDot s then
      let above := done.drop 1
      resolve (if rest.isEmpty then [] :: above else above) rest
    else if isDot s then resolve (if rest.isEmpty then [] :: done else done) rest
    else resolve (s :: done) rest

/-- The target that a text behind the host stands for.  The text is empty or begins with a slash, a
question mark or a hash. -/
def target? (text : String) : Option String :=
  let cs := (text.toList.filter fun c => c != '\t' && c != '\n' && c != '\r')
  let cs := cs.takeWhile (· ≠ '#')
  let path := cs.takeWhile (· ≠ '?')
  let query := cs.dropWhile (· ≠ '?')
  let queryText := match query with
    | [] => ""
    | _ :: rest => "?" ++ String.join (rest.map (targetChar isQueryChar))
  match path with
  | [] => some ("/" ++ queryText)
  | c :: rest =>
    if c = '/' ∨ c = '\\' then
      let parts := (resolve [] (segments rest)).map fun s =>
        String.join (s.map (targetChar isPathChar))
      some ("/" ++ "/".intercalate parts ++ queryText)
    else none

end Dossier.Http
