import Dossier.Id

/-!
# Records from JSON

A record is given as an object of named fields or as an array of its fields in the order of their
declaration.  In an object, names that are not declared are passed over and a declared name stands
at most once.  An array may be shorter than the declaration, but not longer.
-/

namespace Dossier.Json

/-- A declared field as it was given, or how it is missing. -/
inductive Slot where
  | given (value : Json)
  /-- An object without the name. -/
  | unnamed
  /-- An array that ends before the field. -/
  | beyond

/-- The declared field of a name among the fields of an object. -/
def slotOf (fields : List (String × Json)) (name : String) : Option Slot :=
  match fields.filter (·.1 == name) with
  | [] => some .unnamed
  | [(_, value)] => some (.given value)
  | _ => none

/-- The declared fields of a record in order. -/
def slots (names : List String) : Json → Option (List Slot)
  | obj fields => names.mapM (slotOf fields)
  | arr items =>
    if items.length ≤ names.length then
      some (items.map Slot.given ++ List.replicate (names.length - items.length) .beyond)
    else none
  | _ => none

namespace Slot

variable {α : Type}

/-- A field that has to be given. -/
def required (read : Json → Option α) : Slot → Option α
  | given value => read value
  | _ => none

/-- A field that may be null or missing. -/
def optional (read : Json → Option α) : Slot → Option (Option α)
  | given null => some none
  | given value => (read value).map some
  | _ => some none

/-- A field with a value for when it is missing. -/
def orElse (read : Json → Option α) (standard : α) : Slot → Option α
  | given value => read value
  | _ => some standard

end Slot

/-! ### Single values -/

/-- A string. -/
def asString : Json → Option String
  | str s => some s
  | _ => none

/-- A truth value. -/
def asBool : Json → Option Bool
  | bool b => some b
  | _ => none

/-- An integer that is not negative and below a bound. -/
def asNat (bound : Nat) : Json → Option Nat
  | num (.int n) => if 0 ≤ n ∧ n < bound then some n.toNat else none
  | _ => none

/-- An integer of 64 bits with sign. -/
def asInt64 : Json → Option Int
  | num (.int n) => if -(twoTo 63 : Int) ≤ n ∧ n < twoTo 63 then some n else none
  | _ => none

/-- Any number in single precision: an integer is rounded once, and a double is rounded once
more. -/
def asSingle : Json → Option Single
  | num (.int n) => some (Binary.ofInt n)
  | num (.float x) => some x.convert
  | _ => none

/-- An array of values. -/
def asList {α : Type} (read : Json → Option α) : Json → Option (List α)
  | arr items => items.mapM read
  | _ => none

/-- An identifier. -/
def asId : Json → Option Id
  | str s => Id.parse s
  | _ => none

/-- Any value, with the last of several fields of a name. -/
def asValue (value : Json) : Option Json := some value.canonical

/-- One of a set of labels, as a string or as an object with that one name and null. -/
def asLabel {α : Type} (ofLabel? : String → Option α) : Json → Option α
  | str s => ofLabel? s
  | obj [(name, null)] => ofLabel? name
  | _ => none

end Dossier.Json
