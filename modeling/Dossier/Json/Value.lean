import Dossier.Number.Decimal

/-!
# JSON values

A value as it is written: the fields of an object are kept in the order they stand, repeated names
included.  `Json.canonical` is the value as it is stored: fields in increasing order of their names,
the last of several fields with one name.
-/

namespace Dossier

/-- A JSON number: an integer of 64 bits, signed or unsigned, or a double. -/
inductive JsonNumber where
  | int (value : Int)
  | float (value : Double)
deriving DecidableEq, Inhabited

/-- A JSON value. -/
inductive Json where
  | null
  | bool (value : Bool)
  | num (value : JsonNumber)
  | str (value : String)
  | arr (items : List Json)
  | obj (fields : List (String × Json))
deriving Inhabited

namespace JsonNumber

/-- The integers that are kept as integers: those of 64 bits, signed or unsigned. -/
def IsWord (n : Int) : Prop := -(twoTo 63 : Int) ≤ n ∧ n < twoTo 64

instance (n : Int) : Decidable (IsWord n) := inferInstanceAs (Decidable (_ ∧ _))

/-- The number as a double, rounded. -/
def toDouble : JsonNumber → Double
  | int n => Binary.ofInt n
  | float x => x

/-- The number as JSON text. -/
def text : JsonNumber → String
  | int n => toString n
  | float x => x.jsonText

end JsonNumber

namespace Json

/-- An integer value. -/
def int (n : Int) : Json := .num (.int n)

/-- A natural number value. -/
def nat (n : Nat) : Json := .num (.int n)

/-- A natural number, or null when there is none. -/
def nat? : Option Nat → Json
  | some n => .nat n
  | none => .null

/-- A string, or null when there is none. -/
def str? : Option String → Json
  | some s => .str s
  | none => .null

/-- Fields in increasing order of their names with one more field put in its place; a field of the
same name is replaced. -/
def insertField (name : String) (value : Json) : List (String × Json) → List (String × Json)
  | [] => [(name, value)]
  | (other, held) :: rest =>
    if name < other then (name, value) :: (other, held) :: rest
    else if name = other then (name, value) :: rest
    else (other, held) :: insertField name value rest

mutual

/-- The value with the fields of every object in increasing order of their names, the last field of
a name standing for all of that name. -/
def canonical : Json → Json
  | arr items => arr (canonicalItems items)
  | obj fields => obj (canonicalFields fields [])
  | null => null
  | bool b => bool b
  | num n => num n
  | str s => str s

/-- The items of an array, each canonical. -/
def canonicalItems : List Json → List Json
  | [] => []
  | item :: rest => canonical item :: canonicalItems rest

/-- The fields of an object put into their places one after the other. -/
def canonicalFields : List (String × Json) → List (String × Json) → List (String × Json)
  | [], acc => acc
  | (name, value) :: rest, acc => canonicalFields rest (insertField name (canonical value) acc)

end

/-- The value of the first field of a name. -/
def field? (name : String) : Json → Option Json
  | obj fields => (fields.find? (·.1 == name)).map (·.2)
  | _ => none

mutual

/-- One value laid over another: objects are merged field by field, and anything else replaces what
was there. -/
def overlay (base : Json) : Json → Json
  | obj fields => match base with
    | obj held => obj (overlayFields held fields)
    | _ => obj fields
  | other => other

/-- The fields of one object laid over those of another. -/
def overlayFields (held : List (String × Json)) : List (String × Json) → List (String × Json)
  | [] => held
  | (name, value) :: rest =>
    let merged := match held.find? (·.1 == name) with
      | some (_, old) => overlay old value
      | none => value
    overlayFields (insertField name merged held) rest

end

end Json

end Dossier
