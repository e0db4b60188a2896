import Mathlib.Algebra.Order.Field.Rat
import Mathlib.Data.Rat.Cast.Order
import Mathlib.Order.WithBot
import Mathlib.Tactic.NormNum
import Mathlib.Tactic.Positivity
import Dossier.Proofs.Number.Monotone

/-!
# The values of numbers

A number that is not NaN stands for a rational number or for one of the two infinities
(`Binary.value?`).  Numerical comparison is comparison of values (`Binary.le_iff_value`), so a check
on numbers says of their values what it says of them, unless one of them is a NaN.
-/

namespace Dossier

/-- The rational numbers with a least and a greatest element. -/
abbrev ExtendedRat := WithBot (WithTop ℚ)

/-- A rational number among them. -/
abbrev ExtendedRat.of (q : ℚ) : ExtendedRat := ((q : WithTop ℚ) : WithBot (WithTop ℚ))

/-- Rational numbers keep their order. -/
lemma ExtendedRat.of_le_of {p q : ℚ} : of p ≤ of q ↔ p ≤ q :=
  WithBot.coe_le_coe.trans WithTop.coe_le_coe

namespace Binary

variable {F : BinaryFormat} {x y : Binary F}

/-- The rational number that a sign and a rank stand for. -/
def ratio (F : BinaryFormat) (neg : Bool) (r : ℕ) : ℚ := signed neg (F.units r) / 2 ^ F.depth

/-- The value of a number that is not NaN. -/
def value? : Binary F → Option ExtendedRat
  | nan _ => none
  | infinite neg => some (if neg then ⊥ else ⊤)
  | finite neg r => some (.of (ratio F neg r))

/-- A number has a value unless it is a NaN. -/
lemma exists_value_iff : (∃ p, x.value? = some p) ↔ x.isNaN = false := by
  cases x <;> simp [value?, isNaN]

/-! ### Signed magnitudes -/

/-- Signs do to the places of magnitudes what they do to the magnitudes. -/
lemma signed_le_signed_iff {f : ℕ → ℕ} (hf : StrictMono f) (hzero : f 0 = 0) (s t : Bool)
    (m n : ℕ) : signed s (f m) ≤ signed t (f n) ↔ signed s m ≤ signed t n := by
  have hvanish : ∀ k, f k = 0 ↔ k = 0 := fun k => by rw [← hzero, hf.injective.eq_iff, hzero]
  have hmn := hf.le_iff_le (a := m) (b := n)
  have hnm := hf.le_iff_le (a := n) (b := m)
  have hm := hvanish m
  have hn := hvanish n
  unfold signed
  cases s <;> cases t <;> simp only [Bool.false_eq_true, if_true, if_false] <;> omega

/-- Finite numbers are ordered as the numbers that they stand for. -/
lemma ratio_le_ratio_iff (s t : Bool) (m n : ℕ) :
    ratio F s m ≤ ratio F t n ↔ signed s m ≤ signed t n := by
  have hscale : (0 : ℚ) < 2 ^ F.depth := by positivity
  unfold ratio
  rw [div_le_div_iff_of_pos_right hscale, Int.cast_le,
    signed_le_signed_iff F.units_strictMono F.units_zero]

/-- The opposite number has the opposite value. -/
lemma value_neg {q : ℚ} (h : x.value? = some (ExtendedRat.of q)) :
    (-x).value? = some (ExtendedRat.of (-q)) := by
  cases x with
  | nan s => cases h
  | infinite s => cases s <;> simp [value?] at h
  | finite s r =>
    have hratio : ratio F s r = q := by simpa [value?] using h
    have hneg : ratio F (!s) r = -q := by
      rw [← hratio]
      cases s <;> simp [ratio, signed, neg_div]
    rw [← hneg]
    rfl

/-! ### Comparison -/

/-- Places are ordered as values. -/
lemma place_le_iff (hF : 0 < F.limit) {a b : ℤ} {p q : ExtendedRat} (ha : x.place? = some a)
    (hb : y.place? = some b) (hp : x.value? = some p) (hq : y.value? = some q) :
    a ≤ b ↔ p ≤ q := by
  cases x with
  | nan s => cases ha
  | infinite s =>
    cases y with
    | nan t => cases hb
    | infinite t =>
      cases ha; cases hb; cases hp; cases hq
      cases s <;> cases t <;> simp [signed]
      all_goals omega
    | finite t n =>
      cases ha; cases hb; cases hp; cases hq
      have hn := n.isLt
      cases s <;> cases t <;> simp [signed]
      all_goals omega
  | finite s m =>
    cases y with
    | nan t => cases hb
    | infinite t =>
      cases ha; cases hb; cases hp; cases hq
      have hm := m.isLt
      cases s <;> cases t <;> simp [signed]
      all_goals omega
    | finite t n =>
      cases ha; cases hb; cases hp; cases hq
      rw [ExtendedRat.of_le_of, ratio_le_ratio_iff]

/-- A number has a place if it has a value. -/
lemma exists_place_iff : (∃ a, x.place? = some a) ↔ ∃ p, x.value? = some p := by
  cases x <;> simp [value?, place?]

/-- A number is at most another if both have values, in this order or the same. -/
theorem le_iff_value (hF : 0 < F.limit) :
    x.le y = true ↔ ∃ p q, x.value? = some p ∧ y.value? = some q ∧ p ≤ q := by
  rw [le_iff]
  constructor
  · rintro ⟨a, b, ha, hb, hle⟩
    obtain ⟨p, hp⟩ := exists_place_iff.mp ⟨a, ha⟩
    obtain ⟨q, hq⟩ := exists_place_iff.mp ⟨b, hb⟩
    exact ⟨p, q, hp, hq, (place_le_iff hF ha hb hp hq).mp hle⟩
  · rintro ⟨p, q, hp, hq, hle⟩
    obtain ⟨a, ha⟩ := exists_place_iff.mpr ⟨p, hp⟩
    obtain ⟨b, hb⟩ := exists_place_iff.mpr ⟨q, hq⟩
    exact ⟨a, b, ha, hb, (place_le_iff hF ha hb hp hq).mpr hle⟩

/-- A number is less than another if both have values, in this order. -/
theorem lt_iff_value (hF : 0 < F.limit) :
    x.lt y = true ↔ ∃ p q, x.value? = some p ∧ y.value? = some q ∧ p < q := by
  rw [lt_iff]
  constructor
  · rintro ⟨a, b, ha, hb, hlt⟩
    obtain ⟨p, hp⟩ := exists_place_iff.mp ⟨a, ha⟩
    obtain ⟨q, hq⟩ := exists_place_iff.mp ⟨b, hb⟩
    have hle := place_le_iff hF hb ha hq hp
    exact ⟨p, q, hp, hq, not_le.mp fun h => Int.not_le.mpr hlt (hle.mpr h)⟩
  · rintro ⟨p, q, hp, hq, hlt⟩
    obtain ⟨a, ha⟩ := exists_place_iff.mpr ⟨p, hp⟩
    obtain ⟨b, hb⟩ := exists_place_iff.mpr ⟨q, hq⟩
    have hle := place_le_iff hF hb ha hq hp
    exact ⟨a, b, ha, hb, Int.not_le.mp fun h => not_le.mpr hlt (hle.mp h)⟩

/-- Numbers with values are compared by these. -/
lemma le_iff_of_value (hF : 0 < F.limit) {p q : ExtendedRat} (hp : x.value? = some p)
    (hq : y.value? = some q) : x.le y = true ↔ p ≤ q := by
  simp [le_iff_value hF, hp, hq]

/-- Numbers with values are strictly compared by these. -/
lemma lt_iff_of_value (hF : 0 < F.limit) {p q : ExtendedRat} (hp : x.value? = some p)
    (hq : y.value? = some q) : x.lt y = true ↔ p < q := by
  simp [lt_iff_value hF, hp, hq]

/-- The place of a number in the total order, from its place among numbers that are not NaN. -/
lemma totalPlace_of_place {a : ℤ} (ha : x.place? = some a) :
    0 ≤ a ∧ x.totalPlace = a ∨ a ≤ 0 ∧ x.totalPlace = a - 1 := by
  cases x with
  | nan s => cases ha
  | infinite s =>
    cases ha
    cases s <;> simp [signed, totalPlace]
  | finite s r =>
    cases ha
    cases s <;> simp [signed, totalPlace]

/-- The total order of numbers is finer than that of their values. -/
lemma value_le_of_totalPlace_le (hF : 0 < F.limit) {p q : ExtendedRat} (hp : x.value? = some p)
    (hq : y.value? = some q) (h : x.totalPlace ≤ y.totalPlace) : p ≤ q := by
  obtain ⟨a, ha⟩ := exists_place_iff.mpr ⟨p, hp⟩
  obtain ⟨b, hb⟩ := exists_place_iff.mpr ⟨q, hq⟩
  have hplace := totalPlace_of_place ha
  have hplace' := totalPlace_of_place hb
  exact (place_le_iff hF ha hb hp hq).mp (by omega)

/-- No number is as low in the total order as the negative NaN. -/
lemma totalPlace_nan_lt {p : ExtendedRat} (hp : x.value? = some p) :
    (nan true : Binary F).totalPlace < x.totalPlace := by
  cases x with
  | nan s => cases hp
  | infinite s =>
    cases s <;> simp only [totalPlace, if_true, Bool.false_eq_true, if_false] <;> omega
  | finite s r =>
    have hr := r.isLt
    cases s <;> simp only [totalPlace, if_true, Bool.false_eq_true, if_false] <;> omega

/-! ### Bounds -/

/-- What lies between rational numbers is one. -/
lemma exists_ratio_of_between {p : ExtendedRat} {low high : ℚ} (hlow : .of low ≤ p)
    (hhigh : p ≤ .of high) : ∃ q, p = .of q ∧ low ≤ q ∧ q ≤ high := by
  induction p using WithBot.recBotCoe with
  | bot => simp at hlow
  | coe p =>
    induction p using WithTop.recTopCoe with
    | top => simp at hhigh
    | coe q =>
      exact ⟨q, rfl, ExtendedRat.of_le_of.mp hlow, ExtendedRat.of_le_of.mp hhigh⟩

/-- A number that is moved into an interval lies in it, unless it is a NaN. -/
theorem exists_value_clamp (hF : 0 < F.limit) {low high : Binary F} {l h : ℚ}
    (hlow : low.value? = some (ExtendedRat.of l))
    (hhigh : high.value? = some (ExtendedRat.of h)) (hle : l ≤ h) (hx : x.isNaN = false) :
    ∃ q, (x.clamp low high).value? = some (ExtendedRat.of q) ∧ l ≤ q ∧ q ≤ h := by
  obtain ⟨p, hp⟩ := exists_value_iff.mpr hx
  unfold clamp
  split
  · exact ⟨l, hlow, le_rfl, hle⟩
  split
  · exact ⟨h, hhigh, hle, le_rfl⟩
  · rename_i habove hbelow
    rw [lt_iff_of_value hF hp hlow, not_lt] at habove
    rw [lt_iff_of_value hF hhigh hp, not_lt] at hbelow
    obtain ⟨q, rfl, hlq, hqh⟩ := exists_ratio_of_between habove hbelow
    exact ⟨q, hp, hlq, hqh⟩

end Binary

namespace Single

/-- There are finite numbers in single precision. -/
lemma limit_pos : 0 < BinaryFormat.single.limit := by decide

/-- Zero has the value zero. -/
lemma value_zero : (Binary.zero : Single).value? = some (ExtendedRat.of 0) := by
  have hzero : (Binary.zero : Single) = .finite false ⟨0, limit_pos⟩ := by decide +kernel
  rw [hzero]
  simp [Binary.value?, Binary.ratio, Binary.signed, BinaryFormat.units_zero]

/-- One has the value one. -/
lemma value_one : one.value? = some (ExtendedRat.of 1) := by
  have hone : one = .finite false ⟨127 * 2 ^ 23, by decide⟩ := by decide +kernel
  have hunits : BinaryFormat.single.units (127 * 2 ^ 23) = 2 ^ BinaryFormat.single.depth := by
    decide +kernel
  have hratio : Binary.ratio .single false (127 * 2 ^ 23) = 1 := by
    unfold Binary.ratio Binary.signed
    rw [hunits]
    norm_num [BinaryFormat.single]
  rw [hone, ← hratio]
  rfl

/-- The opposite of one has the opposite value. -/
lemma value_negOne : negOne.value? = some (ExtendedRat.of (-1)) := Binary.value_neg value_one

end Single

end Dossier
