import Dossier.Toml.Scalar
import Dossier.Toml.Tree

/-!
# Configuration files

`Toml.parse` reads a document of version 1.1 of the format into one value.
-/

namespace Dossier.Toml

/-- A text without the blanks of a line at its head. -/
def skipLineBlanks (cs : List Char) : List Char := cs.dropWhile fun c => c == ' ' || c == '\t'

/-- The rest of a text behind a comment that may stand at its head; the line end remains. -/
def skipComment (cs : List Char) : Option (List Char) :=
  match cs with
  | '#' :: rest =>
    let body := rest.takeWhile (· ≠ '\n')
    let shown := if body.getLast? = some '\r' then body.dropLast else body
    let after := rest.dropWhile (· ≠ '\n')
    if shown.any isControl then none
    else if body.getLast? = some '\r' then some ('\r' :: after) else some after
  | _ => some cs

/-- The rest of a text behind the end of a line; the end of the text is one. -/
def skipLineEnd (cs : List Char) : Option (List Char) := do
  match (← skipComment (skipLineBlanks cs)) with
  | [] => some []
  | '\n' :: rest => some rest
  | '\r' :: '\n' :: rest => some rest
  | _ => none

/-- A text without the blanks, comments and line ends at its head. -/
def skipBetween : Nat → List Char → Option (List Char)
  | 0, cs => some cs
  | fuel + 1, cs =>
    match cs with
    | ' ' :: rest => skipBetween fuel rest
    | '\t' :: rest => skipBetween fuel rest
    | '\n' :: rest => skipBetween fuel rest
    | '\r' :: '\n' :: rest => skipBetween fuel rest
    | '#' :: _ => do skipBetween fuel (← skipComment cs)
    | _ => some cs

/-- May this character stand in a key without quotes? -/
def isBareKeyChar (c : Char) : Bool := c.isAlphanum || c == '_' || c == '-'

/-- The part of a key at the head of a text. -/
def readKeyPart (cs : List Char) : Option (String × List Char) :=
  match cs with
  | '"' :: rest => readBasic (cs.length + 1) [] rest
  | '\'' :: rest => readLiteral [] rest
  | _ =>
    let word := cs.takeWhile isBareKeyChar
    if word.isEmpty then none else some (String.ofList word, cs.dropWhile isBareKeyChar)

/-- The key at the head of a text, in parts. -/
def readKey : Nat → List Char → Option (List String × List Char)
  | 0, _ => none
  | fuel + 1, cs => do
    let (part, rest) ← readKeyPart (skipLineBlanks cs)
    match skipLineBlanks rest with
    | '.' :: rest => do
      let (more, rest) ← readKey fuel rest
      return (part :: more, rest)
    | rest => return ([part], rest)

/-- Does a character end a value that stands without quotes? -/
def endsWord (c : Char) : Bool :=
  c == ' ' || c == '\t' || c == '\n' || c == '\r' || c == ',' || c == ']' || c == '\x7d' || c == '#'

mutual

/-- The value at the head of a text, and the rest.  `depth` more levels of nesting are allowed. -/
def readValue : Nat → Nat → List Char → Option (Json × List Char)
  | 0, _, _ => none
  | fuel + 1, depth, cs =>
    match cs with
    | '"' :: _ => (readString cs).map fun (s, rest) => (.str s, rest)
    | '\'' :: _ => (readString cs).map fun (s, rest) => (.str s, rest)
    | '[' :: rest =>
      if depth = 0 then none
      else do readItems fuel (depth - 1) [] (← skipBetween rest.length rest)
    | '\x7b' :: rest =>
      if depth = 0 then none
      else do readInline fuel (depth - 1) [] (← skipBetween rest.length rest)
    | _ =>
      if looksLikeDateTime cs then
        (readDateTime cs).map fun rest =>
          (dateTimeValue (cs.take (cs.length - rest.length)), rest)
      else
        let word := cs.takeWhile (!endsWord ·)
        let rest := cs.dropWhile (!endsWord ·)
        if word = "true".toList then some (.bool true, rest)
        else if word = "false".toList then some (.bool false, rest)
        else (readNumber word).map fun v => (v, rest)

/-- The remaining items of an array, in reverse onto `acc`.  A comma may stand behind the last. -/
def readItems : Nat → Nat → List Json → List Char → Option (Json × List Char)
  | 0, _, _, _ => none
  | fuel + 1, depth, acc, cs =>
    match cs with
    | ']' :: rest => some (.arr acc.reverse, rest)
    | _ => do
      let (item, rest) ← readValue fuel depth cs
      match (← skipBetween rest.length rest) with
      | ',' :: rest => do readItems fuel depth (item :: acc) (← skipBetween rest.length rest)
      | ']' :: rest => some (.arr (item :: acc).reverse, rest)
      | _ => none

/-- The remaining fields of an inline table.  A comma may stand behind the last. -/
def readInline : Nat → Nat → Fields → List Char → Option (Json × List Char)
  | 0, _, _, _ => none
  | fuel + 1, depth, fs, cs =>
    match cs with
    | '\x7d' :: rest => some (.obj (fieldsToJson fs), rest)
    | _ => do
      let (path, rest) ← readKey (cs.length + 1) cs
      let rest ← readChar '=' rest
      let (v, rest) ← readValue fuel depth (skipLineBlanks rest)
      let fs ← put path v fs
      match (← skipBetween rest.length rest) with
      | ',' :: rest => do readInline fuel depth fs (← skipBetween rest.length rest)
      | '\x7d' :: rest => some (.obj (fieldsToJson fs), rest)
      | _ => none

end

/-- How deep arrays and inline tables may nest. -/
def maxDepth : Nat := 80

/-- The document so far, and the table that the next statement belongs to. -/
structure State where
  root : Fields := []
  current : List String := []

/-- The document with a statement read from the head of a text, and the rest. -/
def readStatement (s : State) (cs : List Char) : Option (State × List Char) :=
  match cs with
  | '[' :: '[' :: rest => do
    let (path, rest) ← readKey (cs.length + 1) rest
    let rest ← readChar ']' rest
    let rest ← readChar ']' rest
    let root ← appendTable s.root path
    return (⟨root, path⟩, ← skipLineEnd rest)
  | '[' :: rest => do
    let (path, rest) ← readKey (cs.length + 1) rest
    let rest ← readChar ']' rest
    let root ← openTable s.root path
    return (⟨root, path⟩, ← skipLineEnd rest)
  | _ => do
    let (path, rest) ← readKey (cs.length + 1) cs
    let rest ← readChar '=' rest
    let (v, rest) ← readValue (2 * cs.length + 2) maxDepth (skipLineBlanks rest)
    let root ← descend false (put path v) s.current s.root
    return ({ s with root }, ← skipLineEnd rest)

/-- The document with all statements of a text read. -/
def readStatements : Nat → State → List Char → Option State
  | 0, _, _ => none
  | fuel + 1, s, cs =>
    match skipBetween cs.length cs with
    | none => none
    | some [] => some s
    | some rest =>
      match readStatement s rest with
      | none => none
      | some (s, rest) => readStatements fuel s rest

/-- The value that a document stands for.  A byte order mark may stand before it. -/
def parse (text : String) : Option Json :=
  let cs := text.toList
  let cs := if cs.head? = some '\ufeff' then cs.drop 1 else cs
  (readStatements (cs.length + 2) {} cs).map fun s => .obj (fieldsToJson s.root)

end Dossier.Toml
