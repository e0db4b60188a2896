import Dossier.Json.Value

/-!
# Tables of a configuration file

A document is built statement by statement.  A table remembers how it came to be, because that
decides what may be added to it: a header defines a table once, a dotted key adds only to tables
that dotted keys have made, and what stands behind an equals sign is closed.
-/

namespace Dossier.Toml

/-- How a table came to be. -/
inductive Origin where
  /-- On the way to a table with a header. -/
  | onTheWay
  /-- By a header of its own. -/
  | header
  /-- By a dotted key. -/
  | dotted
deriving DecidableEq

/-- What a key stands for: a closed value, a table, or an array of tables, the last table first. -/
inductive Node where
  | value (v : Json)
  | table (origin : Origin) (fields : List (String × Node))
  | tables (items : List (List (String × Node)))

/-- The fields of a table. -/
abbrev Fields := List (String × Node)

namespace Fields

/-- What a key stands for. -/
def find? (fs : Fields) (key : String) : Option Node := (List.find? (·.1 == key) fs).map (·.2)

/-- The fields with a key standing for something else. -/
def set (fs : Fields) (key : String) (node : Node) : Fields :=
  if fs.any (·.1 == key) then fs.map fun f => if f.1 == key then (key, node) else f
  else fs ++ [(key, node)]

end Fields

/-- The fields with `change` done to the table that a path leads to from a header or a statement.
Tables that are missing are made, and arrays of tables stand for their last table. -/
def descend (dotted : Bool) (change : Fields → Option Fields) :
    List String → Fields → Option Fields
  | [], fs => change fs
  | key :: path, fs =>
    match fs.find? key with
    | none => do
      let inner ← descend dotted change path []
      return fs.set key (.table (if dotted then .dotted else .onTheWay) inner)
    | some (.table origin inner) =>
      if dotted && origin == .header then none
      else do
        let inner ← descend dotted change path inner
        return fs.set key (.table origin inner)
    | some (.tables (newest :: older)) =>
      if dotted then none
      else do
        let newest ← descend dotted change path newest
        return fs.set key (.tables (newest :: older))
    | some (.tables []) => none
    | some (.value _) => none

/-- The path up to the last key, and the last key. -/
def splitPath (path : List String) : Option (List String × String) :=
  path.getLast?.map fun last => (path.dropLast, last)

/-- The document with a table defined by a header. -/
def openTable (root : Fields) (path : List String) : Option Fields := do
  let (parents, last) ← splitPath path
  descend false (fun fs => match fs.find? last with
    | none => some (fs.set last (.table .header []))
    | some (.table .onTheWay inner) => some (fs.set last (.table .header inner))
    | some _ => none) parents root

/-- The document with one more table in an array of tables. -/
def appendTable (root : Fields) (path : List String) : Option Fields := do
  let (parents, last) ← splitPath path
  descend false (fun fs => match fs.find? last with
    | none => some (fs.set last (.tables [[]]))
    | some (.tables items) => some (fs.set last (.tables ([] :: items)))
    | some _ => none) parents root

/-- May a value be put into the table that the keys before the last lead to?  Dotted keys lead to
tables of their own making only. -/
def reachable (fs : Fields) : List String → Bool
  | [] => true
  | [key] => match fs.find? key with
    | some (.table origin _) => origin == .dotted
    | some _ => false
    | none => true
  | key :: path => match fs.find? key with
    | some (.table _ inner) => reachable inner path
    | some _ => false
    | none => true

/-- The table with a value put behind a dotted key. -/
def put (path : List String) (v : Json) (fs : Fields) : Option Fields := do
  let (parents, last) ← splitPath path
  if reachable fs parents then
    descend true (fun fs => match fs.find? last with
      | none => some (fs.set last (.value v))
      | some _ => none) parents fs
  else none

mutual

/-- What a key stands for, as a value. -/
def Node.toJson : Node → Json
  | .value v => v
  | .table _ fields => .obj (fieldsToJson fields)
  | .tables items => .arr (tablesToJson items).reverse

/-- The fields of a table as the fields of an object. -/
def fieldsToJson : List (String × Node) → List (String × Json)
  | [] => []
  | (key, node) :: rest => (key, node.toJson) :: fieldsToJson rest

/-- Tables as values. -/
def tablesToJson : List (List (String × Node)) → List Json
  | [] => []
  | fields :: rest => .obj (fieldsToJson fields) :: tablesToJson rest

end

end Dossier.Toml
