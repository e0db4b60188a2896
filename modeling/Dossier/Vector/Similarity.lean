import Dossier.Number.Binary

/-!
# Cosine similarity

Similarity is the scalar product of two vectors over the product of their lengths, computed in
single precision from left to right.
-/

namespace Dossier

/-- A vector in single precision. -/
abbrev Vec := List Single

namespace Vec

/-- The running sums of a similarity: the scalar product and the two squared lengths. -/
structure Sums where
  product : Single
  leftSquare : Single
  rightSquare : Single

/-- The sums with one more pair of components. -/
def Sums.push (s : Sums) (pair : Single × Single) : Sums :=
  ⟨s.product + pair.1 * pair.2, s.leftSquare + pair.1 * pair.1, s.rightSquare + pair.2 * pair.2⟩

/-- The sums over all pairs of components. -/
def sums (a b : Vec) : Sums := (a.zip b).foldl Sums.push ⟨Binary.zero, Binary.zero, Binary.zero⟩

/-- The similarity of two vectors.  Empty vectors, vectors of different dimension and vectors of
vanishing length have none. -/
def similarity? (a b : Vec) : Option Single :=
  if a.isEmpty || a.length != b.length then none
  else
    let s := sums a b
    if s.leftSquare.le Single.epsilon || s.rightSquare.le Single.epsilon then none
    else
      some ((s.product / (s.leftSquare.sqrt * s.rightSquare.sqrt)).clamp Single.negOne Single.one)

end Vec

end Dossier
