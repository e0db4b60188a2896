import Dossier.Json.Parse
import Dossier.Vector.Similarity

/-!
# Replies of an embedding service

A reply lists vectors, each with the number of the text that it belongs to.  `vectors` gives them in
the order of the texts.
-/

namespace Dossier.Embedding

/-- Why a reply is of no use. -/
inductive ReplyError where
  | noData
  | noEmbedding
  | notNumeric
  | wrongCount (found expected : Nat)
deriving DecidableEq

/-- The wording of what is wrong with a reply. -/
def ReplyError.message : ReplyError → String
  | noData => "Embedding response is missing data array."
  | noEmbedding => "Embedding item missing embedding array."
  | notNumeric => "Embedding value must be numeric."
  | wrongCount found expected =>
    s!"Embedding provider returned {found} vectors for {expected} inputs."

/-- The array that a field of an object holds. -/
def arrayField? (name : String) (j : Json) : Option (List Json) :=
  match j.field? name with
  | some (.arr items) => some items
  | _ => none

/-- A component of a vector: a double rounded to single precision. -/
def component : Json → Except ReplyError Single
  | .num n => .ok n.toDouble.convert
  | _ => .error .notNumeric

/-- The number of the text that an item belongs to: its index, or else its place in the reply. -/
def indexOf (place : Nat) (item : Json) : Nat :=
  match item.field? "index" with
  | some (.num (.int n)) => if 0 ≤ n then n.toNat else place
  | _ => place

/-- The vector of an item and the number of its text. -/
def readItem (place : Nat) (item : Json) : Except ReplyError (Nat × Vec) :=
  match arrayField? "embedding" item with
  | none => .error .noEmbedding
  | some values => (values.mapM component).map fun v => (indexOf place item, v)

/-- The items of a reply from a place on. -/
def readItems : Nat → List Json → Except ReplyError (List (Nat × Vec))
  | _, [] => .ok []
  | place, item :: rest => do
    let first ← readItem place item
    let more ← readItems (place + 1) rest
    return first :: more

/-- The vectors of a reply to `count` texts, in the order of the texts. -/
def vectors (count : Nat) (reply : Json) : Except ReplyError (List Vec) :=
  match arrayField? "data" reply with
  | none => .error .noData
  | some items => do
    let indexed ← readItems 0 items
    let sorted := (indexed.mergeSort fun a b => a.1 ≤ b.1).map (·.2)
    if sorted.length ≠ count then .error (.wrongCount sorted.length count) else .ok sorted

end Dossier.Embedding
