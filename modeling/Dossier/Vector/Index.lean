import Dossier.Id
import Dossier.Vector.Similarity

/-!
# The vector index

A projection of the stored vectors that ranks chunks by their similarity to a query.  It knows
chunks only, not the tenants that they belong to: whoever uses a ranking resolves it against the
store.
-/

namespace Dossier

/-- Vectors of one dimension by the chunk that they stand for. -/
structure VectorIndex where
  dimension : Nat
  entries : List (Id × Vec)

namespace VectorIndex

/-- Why a vector does not fit an index. -/
inductive Mismatch where
  | vector (found expected : Nat)
  | query (found expected : Nat)
deriving DecidableEq

/-- The wording of a mismatch. -/
def Mismatch.message : Mismatch → String
  | vector found expected =>
    s!"Vector dimension {found} does not match index dimension {expected}."
  | query found expected =>
    s!"Query dimension {found} does not match index dimension {expected}."

/-- A ranked chunk. -/
structure Hit where
  chunk : Id
  similarity : Single

/-- An index without vectors. -/
def empty (dimension : Nat) : VectorIndex := ⟨dimension, []⟩

/-- The index with the vector of a chunk put in place of any that the chunk had. -/
def upsert (index : VectorIndex) (chunk : Id) (v : Vec) : Except Mismatch VectorIndex :=
  if v.length ≠ index.dimension then .error (.vector v.length index.dimension)
  else .ok { index with entries := (chunk, v) :: index.entries.filter (·.1 != chunk) }

/-- The index without some chunks. -/
def remove (index : VectorIndex) (chunks : List Id) : VectorIndex :=
  { index with entries := index.entries.filter fun entry => !chunks.contains entry.1 }

/-- The index without vectors. -/
def clear (index : VectorIndex) : VectorIndex := empty index.dimension

/-- The number of vectors. -/
def size (index : VectorIndex) : Nat := index.entries.length

/-- The vector of a chunk. -/
def find? (index : VectorIndex) (chunk : Id) : Option Vec :=
  (index.entries.find? (·.1 == chunk)).map (·.2)

/-- Does the first hit rank no lower than the second?  More similar chunks come first, and among
equally similar ones the smaller identifier. -/
def Hit.before (a b : Hit) : Bool :=
  match b.similarity.totalCompare a.similarity with
  | .lt => true
  | .gt => false
  | .eq => a.chunk.number ≤ b.chunk.number

/-- All chunks that compare with a query, the most similar first. -/
def rank (index : VectorIndex) (query : Vec) : Except Mismatch (List Hit) :=
  if query.length ≠ index.dimension then .error (.query query.length index.dimension)
  else
    let hits := index.entries.filterMap fun (chunk, v) =>
      (Vec.similarity? query v).map fun s => ⟨chunk, s⟩
    .ok (hits.mergeSort Hit.before)

end VectorIndex

end Dossier
