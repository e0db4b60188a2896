import Mathlib.Tactic.Common
import Dossier.Vector.Similarity

/-!
# Similarity goes both ways

Sums and products of numbers depend on the order of their arguments only when both arguments are
NaNs, whose sign is then that of the first.  No comparison tells NaNs apart, so two vectors are as
similar the one way as the other.
-/

namespace Dossier

namespace Binary

variable {F : BinaryFormat} {x x' y y' : Binary F}

/-- Two numbers are the same up to the sign of a NaN. -/
def Alike (x y : Binary F) : Prop := x = y ∨ x.isNaN ∧ y.isNaN

namespace Alike

/-- A number is alike to itself. -/
lemma refl (x : Binary F) : Alike x x := .inl rfl

/-- NaNs are alike. -/
lemma of_nan {s t : Bool} : Alike (.nan s : Binary F) (.nan t) := .inr ⟨rfl, rfl⟩

/-- Numbers that are alike are the same, or both of them are NaNs. -/
lemma cases (h : Alike x y) : x = y ∨ ∃ s t, x = .nan s ∧ y = .nan t := by
  rcases h with heq | ⟨hx, hy⟩
  · exact .inl heq
  · cases x <;> cases hx
    cases y <;> cases hy
    exact .inr ⟨_, _, rfl, rfl⟩

/-- A NaN makes every sum a NaN. -/
lemma add (h : Alike x x') (h' : Alike y y') : Alike (x + y) (x' + y') := by
  rcases h.cases with rfl | ⟨s, t, rfl, rfl⟩
  · rcases h'.cases with rfl | ⟨s, t, rfl, rfl⟩
    · exact refl _
    · cases x <;> exact of_nan
  · cases y <;> cases y' <;> exact of_nan

/-- A NaN makes every quotient a NaN. -/
lemma div (h : Alike x x') (h' : Alike y y') : Alike (x / y) (x' / y') := by
  rcases h.cases with rfl | ⟨s, t, rfl, rfl⟩
  · rcases h'.cases with rfl | ⟨s, t, rfl, rfl⟩
    · exact refl _
    · cases x <;> exact of_nan
  · cases y <;> cases y' <;> exact of_nan

/-- A NaN stays what it is when it is clamped. -/
lemma clamp (h : Alike x y) (low high : Binary F) : Alike (x.clamp low high) (y.clamp low high) := by
  rcases h.cases with rfl | ⟨s, t, rfl, rfl⟩
  · exact refl _
  · cases low <;> cases high <;> exact of_nan

/-- No comparison tells NaNs apart. -/
lemma le_eq (h : Alike x y) (bound : Binary F) : bound.le x = bound.le y := by
  rcases h.cases with rfl | ⟨s, t, rfl, rfl⟩
  · rfl
  · cases bound <;> rfl

end Alike

/-- A product of numbers that are not NaN does not depend on the order of its factors. -/
lemma mul_comm_of_number (hx : x.isNaN = false) (hy : y.isNaN = false) : x * y = y * x := by
  cases x with
  | nan s => cases hx
  | infinite s =>
    cases y with
    | nan t => cases hy
    | infinite t => exact congrArg infinite (@bne_comm Bool _ _ s t)
    | finite t b => exact show mul _ _ = mul _ _ by simp only [mul, @bne_comm Bool _ _ s t]
  | finite s a =>
    cases y with
    | nan t => cases hy
    | infinite t => exact show mul _ _ = mul _ _ by simp only [mul, @bne_comm Bool _ _ s t]
    | finite t b =>
      exact show mul _ _ = mul _ _ by
        simp only [mul, Nat.mul_comm (F.units a.val), @bne_comm Bool _ _ s t]

/-- A product does not depend on the order of its factors, up to the sign of a NaN. -/
lemma alike_mul_comm (x y : Binary F) : Alike (x * y) (y * x) := by
  rcases hx : x.isNaN with _ | _
  · rcases hy : y.isNaN with _ | _
    · exact .inl (mul_comm_of_number hx hy)
    · cases y <;> cases hy
      cases x <;> exact .of_nan
  · cases x <;> cases hx
    cases y <;> exact .of_nan

end Binary

namespace Vec

open Binary

/-- The running sums of two vectors when their order is reversed. -/
structure Sums.Reversed (s t : Sums) : Prop where
  product : Alike s.product t.product
  left : s.leftSquare = t.rightSquare
  right : s.rightSquare = t.leftSquare

/-- The running sums of two vectors are reversed with the order of the vectors. -/
lemma reversed_foldl {s t : Sums} (h : s.Reversed t) (a b : Vec) :
    ((a.zip b).foldl Sums.push s).Reversed ((b.zip a).foldl Sums.push t) := by
  induction a generalizing b s t with
  | nil =>
    rw [List.zip_nil_left, List.zip_nil_right]
    exact h
  | cons x a ih =>
    rcases b with _ | ⟨y, b⟩
    · exact h
    · rw [List.zip_cons_cons, List.zip_cons_cons, List.foldl_cons, List.foldl_cons]
      refine ih ⟨h.product.add (alike_mul_comm x y), ?_, ?_⟩ b
      · exact congrArg (· + x * x) h.left
      · exact congrArg (· + y * y) h.right

/-- The sums of two vectors are reversed with their order. -/
lemma reversed_sums (a b : Vec) : (sums a b).Reversed (sums b a) :=
  reversed_foldl ⟨.refl _, rfl, rfl⟩ a b

/-- Whether two vectors can be compared does not depend on their order. -/
lemma incomparable_comm (a b : Vec) :
    (a.isEmpty || a.length != b.length) = (b.isEmpty || b.length != a.length) := by
  rw [Bool.eq_iff_iff, Bool.or_eq_true, Bool.or_eq_true, List.isEmpty_iff_length_eq_zero,
    List.isEmpty_iff_length_eq_zero, bne_iff_ne, bne_iff_ne]
  omega

/-- Two vectors are as similar to each other the one way as the other. -/
theorem similarity_comm (threshold : Single) (a b : Vec) :
    (similarity? a b).any (threshold.le ·) = (similarity? b a).any (threshold.le ·) := by
  have hsums := reversed_sums a b
  unfold similarity?
  dsimp only
  rw [incomparable_comm a b, hsums.left, hsums.right,
    Bool.or_comm ((sums b a).rightSquare.le Single.epsilon)]
  split
  · rfl
  · split
    · rfl
    · have hquotient := hsums.product.div
        (alike_mul_comm (sums b a).rightSquare.sqrt (sums b a).leftSquare.sqrt)
      exact (hquotient.clamp Single.negOne Single.one).le_eq threshold

end Vec

end Dossier
