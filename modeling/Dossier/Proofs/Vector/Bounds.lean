import Dossier.Proofs.Number.Root
import Dossier.Proofs.Number.Value
import Dossier.Proofs.Vector.Similarity

/-!
# Similarities of finite vectors

The squared lengths of finite vectors have no minus sign, and once infinite they stay so.  A scalar
product is no number only behind an infinite product of two components, and then the larger of the
two has an infinite square.  So a similarity is a number from minus one to one, unless neither the
scalar product nor one of the squared lengths is finite (`Vec.Sums.Overflow`); then it is a NaN,
always the same one.
-/

namespace Dossier

namespace Binary

variable {F : BinaryFormat} {x y : Binary F}

/-! ### Products of finite numbers -/

/-- A number without a minus sign is not NaN. -/
lemma Unsigned.isNaN_eq_false (hx : x.Unsigned) : x.isNaN = false := by cases hx <;> rfl

/-- A number without a minus sign that is not finite is the infinity. -/
lemma Unsigned.eq_infinite (hx : x.Unsigned) (h : x.isFinite = false) : x = infinite false := by
  cases hx with
  | number r => cases h
  | infinity => rfl

/-- A number without a minus sign is finite below the infinity. -/
lemma Unsigned.isFinite_iff (hx : x.Unsigned) : x.isFinite = true ↔ x.totalPlace < F.limit := by
  cases hx with
  | number r => exact iff_of_true rfl (Int.ofNat_lt.mpr r.isLt)
  | infinity => exact iff_of_false Bool.false_ne_true (Int.lt_irrefl _)

/-- The sign does not decide whether rounding gives a finite number. -/
lemma isFinite_round (neg : Bool) (n d : ℕ) :
    (round neg n d : Binary F).isFinite = (round false n d : Binary F).isFinite := by
  unfold round ofRank
  dsimp only
  split <;> rfl

/-- The square of a finite number is that of its magnitude. -/
lemma finite_mul_self (s : Bool) (a : Fin F.limit) :
    (finite s a * finite s a : Binary F) = finite false a * finite false a := by
  change round (s != s) _ _ = round (false != false) _ _
  rw [bne_self_eq_false, bne_self_eq_false]

/-- The square of a finite number has no minus sign. -/
lemma unsigned_mul_self (hx : x.isFinite = true) : (x * x).Unsigned := by
  cases x with
  | nan s => cases hx
  | infinite s => cases hx
  | finite s a =>
    rw [finite_mul_self, finite_mul_finite]
    exact unsigned_round _ _

/-- The product of finite numbers is a number. -/
lemma isNaN_mul (hx : x.isFinite = true) (hy : y.isFinite = true) : (x * y).isNaN = false := by
  cases x <;> cases hx
  cases y <;> cases hy
  exact isNaN_round _ _ _

/-- If the square of a number is finite, then so is the product of two that are no larger. -/
lemma isFinite_mul_of_le (hF : 0 < F.fraction) {s t : Bool} {a b c : Fin F.limit} (ha : a ≤ c)
    (hb : b ≤ c) (h : (finite false c * finite false c : Binary F).isFinite = true) :
    (finite s a * finite t b : Binary F).isFinite = true := by
  have hsquare : (finite false c * finite false c : Binary F).Unsigned := unsigned_round _ _
  have hproduct : (finite false a * finite false b : Binary F).Unsigned := unsigned_round _ _
  have hle := finite_mul_le_finite_mul hF ha hb
  change (round (s != t) _ _).isFinite = true
  rw [isFinite_round]
  exact hproduct.isFinite_iff.mpr (hle.trans_lt (hsquare.isFinite_iff.mp h))

/-- If the product of two finite numbers is infinite, then so is the square of one of them. -/
lemma isFinite_square_of_product (hF : 0 < F.fraction) (hx : x.isFinite = true)
    (hy : y.isFinite = true) (h : (x * y).isFinite = false) :
    (x * x).isFinite = false ∨ (y * y).isFinite = false := by
  by_contra hboth
  rw [not_or, Bool.not_eq_false, Bool.not_eq_false] at hboth
  cases x <;> cases hx
  cases y <;> cases hy
  rename_i s a t b
  rw [finite_mul_self s a, finite_mul_self t b] at hboth
  have hfinite : (finite s a * finite t b : Binary F).isFinite = true := by
    rcases le_total a b with hab | hba
    · exact isFinite_mul_of_le hF hab le_rfl hboth.2
    · exact isFinite_mul_of_le hF le_rfl hba hboth.1
  rw [hfinite] at h
  cases h

/-! ### Sums -/

/-- A sum of two numbers is a NaN only if both are infinite, and then it is the negative one. -/
lemma add_eq_nan (hx : x.isNaN = false) (hy : y.isNaN = false) {s : Bool} (h : x + y = nan s) :
    y.isFinite = false ∧ s = true := by
  cases x with
  | nan t => cases hx
  | infinite t =>
    cases y with
    | nan u => cases hy
    | infinite u =>
      change (if t = u then infinite t else nan true) = nan s at h
      split at h
      · cases h
      · cases h
        exact ⟨rfl, rfl⟩
    | finite u b => cases h
  | finite t a =>
    cases y with
    | nan u => cases hy
    | infinite u => cases h
    | finite u b =>
      have hnumber : (finite t a + finite u b : Binary F).isNaN = false := by
        change Binary.isNaN (if _ then ofRank _ 0 else round _ _ 1) = false
        split
        · unfold ofRank
          split <;> rfl
        · exact isNaN_round _ _ _
      rw [h] at hnumber
      cases hnumber

/-- A sum of numbers without a minus sign is infinite if one of them is. -/
lemma Unsigned.isFinite_add (hx : x.Unsigned) (hy : y.Unsigned)
    (h : x.isFinite = false ∨ y.isFinite = false) : (x + y).isFinite = false := by
  cases hx <;> cases hy <;> first | rfl | simp [isFinite] at h

end Binary

namespace Vec

open Binary

variable {a b : Vec} {s : Sums} {x y : Single}

/-- A vector of finite components. -/
def Finite (v : Vec) : Prop := ∀ x ∈ v, x.isFinite = true

instance (v : Vec) : Decidable v.Finite :=
  inferInstanceAs (Decidable (∀ x ∈ v, x.isFinite = true))

/-- The sums of a similarity are beyond the greatest number: neither the scalar product nor one of
the squared lengths is finite. -/
def Sums.Overflow (s : Sums) : Prop :=
  s.product.isFinite = false ∧ (s.leftSquare.isFinite = false ∨ s.rightSquare.isFinite = false)

instance (s : Sums) : Decidable s.Overflow := inferInstanceAs (Decidable (_ ∧ _))

/-- What holds of the sums of finite vectors: squared lengths have no minus sign, and a scalar
product that is a NaN stands beside an infinite squared length. -/
structure Sums.Regular (s : Sums) : Prop where
  left : s.leftSquare.Unsigned
  right : s.rightSquare.Unsigned
  product : ∀ sign, s.product = .nan sign →
    sign = true ∧ (s.leftSquare.isFinite = false ∨ s.rightSquare.isFinite = false)

/-- One more pair of finite components keeps sums regular. -/
lemma Sums.Regular.push (h : s.Regular) (hx : x.isFinite = true) (hy : y.isFinite = true) :
    (s.push (x, y)).Regular where
  left := h.left.add (unsigned_mul_self hx)
  right := h.right.add (unsigned_mul_self hy)
  product := by
    intro sign hsign
    change s.product + x * y = .nan sign at hsign
    have hleft : s.leftSquare.isFinite = false ∨ (x * x).isFinite = false →
        (s.leftSquare + x * x).isFinite = false := h.left.isFinite_add (unsigned_mul_self hx)
    have hright : s.rightSquare.isFinite = false ∨ (y * y).isFinite = false →
        (s.rightSquare + y * y).isFinite = false := h.right.isFinite_add (unsigned_mul_self hy)
    rcases hnan : s.product.isNaN with _ | _
    · obtain ⟨hinfinite, hnegative⟩ := add_eq_nan hnan (isNaN_mul hx hy) hsign
      refine ⟨hnegative, ?_⟩
      exact (isFinite_square_of_product (by decide) hx hy hinfinite).imp
        (fun hsquare => hleft (.inr hsquare)) (fun hsquare => hright (.inr hsquare))
    · -- a NaN stays the same, and an infinite squared length stays infinite
      rcases hproduct : s.product with t | t | ⟨t, r⟩
      · obtain ⟨hnegative, hinfinite⟩ := h.product t hproduct
        rw [hproduct] at hsign
        have hsame : sign = t := by
          cases hsign
          rfl
        rw [hsame]
        exact ⟨hnegative, hinfinite.imp (fun hold => hleft (.inl hold)) fun hold => hright (.inl hold)⟩
      · rw [hproduct] at hnan
        cases hnan
      · rw [hproduct] at hnan
        cases hnan

/-- Sums of finite components are regular. -/
lemma Sums.Regular.foldl (h : s.Regular) (pairs : List (Single × Single))
    (hpairs : ∀ pair ∈ pairs, pair.1.isFinite = true ∧ pair.2.isFinite = true) :
    (pairs.foldl Sums.push s).Regular := by
  induction pairs generalizing s with
  | nil => exact h
  | cons pair rest ih =>
    obtain ⟨hx, hy⟩ := hpairs pair List.mem_cons_self
    exact ih (h.push hx hy) fun other hother => hpairs other (List.mem_cons_of_mem _ hother)

/-- The sums of finite vectors are regular. -/
theorem regular_sums (ha : a.Finite) (hb : b.Finite) : (sums a b).Regular := by
  refine Sums.Regular.foldl ⟨unsigned_ofRank 0, unsigned_ofRank 0, ?_⟩ (a.zip b) ?_
  · intro sign hsign
    have hzero : (Binary.zero : Single).isNaN = false := by decide
    change (Binary.zero : Single) = .nan sign at hsign
    rw [hsign] at hzero
    cases hzero
  · rintro ⟨x, y⟩ hpair
    obtain ⟨hx, hy⟩ := List.of_mem_zip hpair
    exact ⟨ha x hx, hb y hy⟩

/-! ### Similarities -/

/-- Whatever the other factor is, an infinite length gives an infinite product. -/
lemma infinite_mul_sqrt (hx : x.Unsigned) (h : x.le Single.epsilon = false) :
    (infinite false : Single) * x.sqrt = infinite false := by
  rcases hfinite : x.isFinite with _ | _
  · rw [hx.eq_infinite hfinite]
    rfl
  · obtain ⟨r, hr, hlow, -⟩ := Single.exists_root_eq hx h hfinite
    have hpos : 0 < r.val := Nat.lt_of_lt_of_le (by decide) (Fin.le_def.mp hlow)
    rw [hr]
    exact if_neg (Nat.ne_of_gt hpos)

/-- The product of the lengths of vectors is positive if both squared lengths are finite, and
otherwise infinite. -/
lemma Sums.Regular.lengths (h : s.Regular) (hleft : s.leftSquare.le Single.epsilon = false)
    (hright : s.rightSquare.le Single.epsilon = false) :
    (¬ (s.leftSquare.isFinite = false ∨ s.rightSquare.isFinite = false) ∧
      ∃ c, s.leftSquare.sqrt * s.rightSquare.sqrt = finite false c ∧ 0 < c.val) ∨
    ((s.leftSquare.isFinite = false ∨ s.rightSquare.isFinite = false) ∧
      s.leftSquare.sqrt * s.rightSquare.sqrt = infinite false) := by
  have hroot : ∀ x : Single, x.Unsigned → x.isFinite = false → x.sqrt = infinite false := by
    intro x hx hinfinite
    rw [hx.eq_infinite hinfinite]
    rfl
  rcases hl : s.leftSquare.isFinite with _ | _
  · right
    rw [hroot _ h.left hl]
    exact ⟨.inl rfl, infinite_mul_sqrt h.right hright⟩
  rcases hr : s.rightSquare.isFinite with _ | _
  · right
    rw [hroot _ h.right hr, mul_comm_of_number h.left.sqrt.isNaN_eq_false rfl]
    exact ⟨.inr rfl, infinite_mul_sqrt h.left hleft⟩
  · left
    exact ⟨by simp, Single.exists_sqrt_mul_sqrt h.left hleft hl h.right hright hr⟩

/-- A similarity in the proper sense: a number from minus one to one. -/
def Bounded (s : Single) : Prop := ∃ q : ℚ, s.value? = some (ExtendedRat.of q) ∧ -1 ≤ q ∧ q ≤ 1

/-- The similarity of comparable vectors is computed from their sums. -/
lemma similarity_eq_some {r : Single} (h : similarity? a b = some r) :
    a ≠ [] ∧ a.length = b.length ∧ (sums a b).leftSquare.le Single.epsilon = false ∧
      (sums a b).rightSquare.le Single.epsilon = false ∧
      r = ((sums a b).product / ((sums a b).leftSquare.sqrt * (sums a b).rightSquare.sqrt)).clamp
        Single.negOne Single.one := by
  unfold similarity? at h
  split at h
  · cases h
  rename_i hcomparable
  dsimp only at h
  split at h
  · cases h
  rename_i hlengths
  rw [Bool.or_eq_true, not_or, Bool.not_eq_true, Bool.not_eq_true] at hcomparable hlengths
  refine ⟨?_, by simpa using hcomparable.2, hlengths.1, hlengths.2, (Option.some.inj h).symm⟩
  rintro rfl
  exact Bool.noConfusion hcomparable.1

/-- Vectors of finite components that are comparable have a similarity in the proper sense, unless
their sums are beyond the greatest number; then it is the negative NaN. -/
theorem similarity_cases (ha : a.Finite) (hb : b.Finite) {r : Single}
    (h : similarity? a b = some r) :
    (sums a b).Overflow ∧ r = .nan true ∨ ¬ (sums a b).Overflow ∧ Bounded r := by
  obtain ⟨-, -, hleft, hright, rfl⟩ := similarity_eq_some h
  have hregular := regular_sums ha hb
  unfold Sums.Overflow
  generalize sums a b = s at hleft hright hregular
  have hnan : (nan true : Single).clamp Single.negOne Single.one = nan true := by decide +kernel
  rcases hregular.lengths hleft hright with ⟨hfinite, c, hc, hpos⟩ | ⟨hinfinite, hlengths⟩
  · -- a scalar product that is not a NaN over a positive number
    right
    rw [hc]
    refine ⟨fun hover => hfinite hover.2, ?_⟩
    refine exists_value_clamp Single.limit_pos Single.value_negOne Single.value_one (by norm_num) ?_
    rcases hproduct : s.product with t | t | ⟨t, r⟩
    · exact absurd (hregular.product t hproduct).2 hfinite
    · rfl
    · change Binary.isNaN (if c.val = 0 then _ else round _ _ _) = false
      rw [if_neg (Nat.ne_of_gt hpos)]
      exact isNaN_round _ _ _
  · rw [hlengths]
    rcases hproduct : s.product with t | t | ⟨t, r⟩
    · left
      rw [(hregular.product t hproduct).1]
      exact ⟨⟨rfl, hinfinite⟩, hnan⟩
    · exact .inl ⟨⟨rfl, hinfinite⟩, hnan⟩
    · right
      refine ⟨fun hover => Bool.noConfusion hover.1, ?_⟩
      refine exists_value_clamp Single.limit_pos Single.value_negOne Single.value_one (by norm_num) ?_
      change (ofRank (t != false) 0 : Single).isNaN = false
      cases t <;> decide

/-- The scalar product of vectors of finite components does not depend on their order. -/
lemma product_comm (ha : a.Finite) (hb : b.Finite) : (sums a b).product = (sums b a).product := by
  rcases (reversed_sums a b).product.cases with heq | ⟨s, t, hs, ht⟩
  · exact heq
  · rw [hs, ht, ((regular_sums ha hb).product s hs).1, ((regular_sums hb ha).product t ht).1]

/-- Two vectors of finite components are as similar to each other the one way as the other. -/
theorem similarity_symm (ha : a.Finite) (hb : b.Finite) : similarity? a b = similarity? b a := by
  have hreversed := reversed_sums a b
  have hregular := regular_sums hb ha
  unfold similarity?
  dsimp only
  rw [incomparable_comm a b, product_comm ha hb, hreversed.left, hreversed.right,
    Bool.or_comm ((sums b a).rightSquare.le Single.epsilon),
    mul_comm_of_number hregular.right.sqrt.isNaN_eq_false hregular.left.sqrt.isNaN_eq_false]

end Vec

end Dossier
