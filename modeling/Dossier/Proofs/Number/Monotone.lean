import Mathlib.Tactic.FieldSimp
import Mathlib.Tactic.Linarith
import Mathlib.Tactic.Positivity
import Dossier.Proofs.Number.Rounding

/-!
# Arithmetic keeps the order

On numbers without a minus sign that are not NaN, rounding, sums, products and quotients keep the
order in every argument, but for a divisor, which turns it around.  The order is that of
`Binary.totalPlace`; an infinity is the greatest of these numbers (`Binary.Unsigned`).
-/

namespace Dossier

namespace BinaryFormat

variable {F : BinaryFormat} {x y : ℚ} {r s : ℕ}

/-- A smaller number does not round to a greater rank. -/
lemma RoundsTo.le_of_lt (hx : F.RoundsTo x r) (hy : F.RoundsTo y s) (hxy : x < y) : r ≤ s := by
  by_contra hlt
  rw [Nat.not_le] at hlt
  have hmono := F.units_strictMono.monotone
  have hbelow : (F.units s : ℚ) ≤ F.units (r - 1) := by exact_mod_cast hmono (by omega)
  have habove : (F.units (s + 1) : ℚ) ≤ F.units r := by exact_mod_cast hmono (by omega)
  have hlow := hx.low
  have hhigh := hy.high
  linarith

end BinaryFormat

namespace Binary

variable {F : BinaryFormat}

/-! ### Numbers without a minus sign -/

/-- The place of a number without a minus sign is its rank, or that of the infinity. -/
@[simp] lemma totalPlace_ofRank (r : ℕ) :
    (ofRank false r : Binary F).totalPlace = (min r F.limit : ℕ) := by
  unfold ofRank
  split
  · rename_i hlt
    rw [Nat.min_eq_left (Nat.le_of_lt hlt)]
    rfl
  · rename_i hge
    rw [Nat.min_eq_right (Nat.not_lt.mp hge)]
    rfl

/-- A number without a minus sign that is not NaN. -/
inductive Unsigned : Binary F → Prop
  | number (r : Fin F.limit) : Unsigned (.finite false r)
  | infinity : Unsigned (.infinite false)

/-- The numbers of a rank have no minus sign. -/
lemma unsigned_ofRank (r : ℕ) : Unsigned (ofRank false r : Binary F) := by
  unfold ofRank
  split
  · exact .number _
  · exact .infinity

/-- Rounding gives a number without a minus sign. -/
lemma unsigned_round (n d : ℕ) : Unsigned (round false n d : Binary F) := unsigned_ofRank _

/-- The place of a number without a minus sign. -/
lemma Unsigned.totalPlace_nonneg {x : Binary F} (hx : x.Unsigned) : 0 ≤ x.totalPlace := by
  cases hx with
  | number r => exact Int.natCast_nonneg r.val
  | infinity => exact Int.natCast_nonneg F.limit

/-- The infinity is the greatest of all. -/
lemma Unsigned.totalPlace_le {x : Binary F} (hx : x.Unsigned) : x.totalPlace ≤ F.limit := by
  cases hx with
  | number r => exact Int.ofNat_le.mpr (Nat.le_of_lt r.isLt)
  | infinity => exact Int.le_refl _

/-- A number without a minus sign below the infinity is finite. -/
lemma Unsigned.exists_finite {x : Binary F} (hx : x.Unsigned) (hlt : x.totalPlace < F.limit) :
    ∃ r : Fin F.limit, x = .finite false r ∧ x.totalPlace = r.val := by
  cases hx with
  | number r => exact ⟨r, rfl, rfl⟩
  | infinity => exact absurd hlt (Int.lt_irrefl _)

/-- Among numbers without a minus sign, numerical comparison is that of places. -/
lemma Unsigned.le_iff {x y : Binary F} (hx : x.Unsigned) (hy : y.Unsigned) :
    x.le y = true ↔ x.totalPlace ≤ y.totalPlace := by
  have hcompare : ∀ m n : ℤ, ((some (compare m n) == some .lt || some (compare m n) == some .eq) =
      true ↔ m ≤ n) := by
    intro m n
    rcases Int.lt_trichotomy m n with hlt | heq | hgt
    · rw [Int.compare_eq_lt.mpr hlt]
      simp [Int.le_of_lt hlt]
    · rw [Int.compare_eq_eq.mpr heq]
      simp [Int.le_of_eq heq]
    · rw [Int.compare_eq_gt.mpr hgt]
      simp [hgt]
  cases hx <;> cases hy <;> exact hcompare _ _

/-- Among numbers without a minus sign, the strict comparison is that of places. -/
lemma Unsigned.lt_iff {x y : Binary F} (hx : x.Unsigned) (hy : y.Unsigned) :
    x.lt y = true ↔ x.totalPlace < y.totalPlace := by
  have hcompare : ∀ m n : ℤ, ((some (compare m n) == some .lt) = true ↔ m < n) := by
    intro m n
    rw [← Int.compare_eq_lt]
    simp
  cases hx <;> cases hy <;> exact hcompare _ _

/-- A number is less than another if both have places, in this order. -/
lemma lt_iff {x y : Binary F} :
    x.lt y = true ↔ ∃ a b, x.place? = some a ∧ y.place? = some b ∧ a < b := by
  unfold lt compare?
  rcases x.place? with _ | a <;> rcases y.place? with _ | b <;> simp [Int.compare_eq_lt]

/-- A number is at most another if both have places, in this order or the same. -/
lemma le_iff {x y : Binary F} :
    x.le y = true ↔ ∃ a b, x.place? = some a ∧ y.place? = some b ∧ a ≤ b := by
  unfold le compare?
  rcases x.place? with _ | a <;> rcases y.place? with _ | b <;>
    simp [Int.compare_eq_lt, Int.le_iff_lt_or_eq]

/-- Comparisons can be chained. -/
lemma lt_of_lt_of_le {x y z : Binary F} (hxy : x.lt y = true) (hyz : y.le z = true) :
    x.lt z = true := by
  obtain ⟨a, b, ha, hb, hab⟩ := lt_iff.mp hxy
  obtain ⟨b', c, hb', hc, hbc⟩ := le_iff.mp hyz
  obtain rfl : b = b' := Option.some.inj (hb.symm.trans hb')
  exact lt_iff.mpr ⟨a, c, ha, hc, Int.lt_of_lt_of_le hab hbc⟩

/-! ### Rounding -/

/-- A smaller ratio does not round to a greater number. -/
theorem round_le_round (hF : 0 < F.fraction) {n d n' d' : ℕ} (hd : 0 < d) (hd' : 0 < d')
    (h : n * d' ≤ n' * d) :
    (round false n d : Binary F).totalPlace ≤ (round false n' d' : Binary F).totalPlace := by
  have hround := roundsTo_rank hF n hd rfl rfl
  have hround' := roundsTo_rank hF n' hd' rfl rfl
  have hdq : (0 : ℚ) < d := by exact_mod_cast hd
  have hdq' : (0 : ℚ) < d' := by exact_mod_cast hd'
  have hle : (n / d : ℚ) ≤ n' / d' := by
    rw [div_le_div_iff₀ hdq hdq']
    exact_mod_cast h
  rw [round_eq hF hd hround, round_eq hF hd' hround', totalPlace_ofRank, totalPlace_ofRank]
  rcases hle.lt_or_eq with hlt | heq
  · have hrank := hround.le_of_lt hround' hlt
    omega
  · rw [heq] at hround
    rw [hround.eq hround']

/-- A smaller natural number is not represented by a greater number. -/
lemma ofNat_le_ofNat (hF : 0 < F.fraction) {n n' : ℕ} (h : n ≤ n') :
    (ofNat n : Binary F).totalPlace ≤ (ofNat n' : Binary F).totalPlace := by
  refine round_le_round hF Nat.one_pos Nat.one_pos ?_
  rw [Nat.mul_one, Nat.mul_one, Nat.shiftLeft_eq, Nat.shiftLeft_eq]
  exact Nat.mul_le_mul_right _ h

/-! ### Sums, products and quotients -/

/-- The sum of finite numbers without a minus sign is rounded. -/
lemma finite_add_finite (a b : Fin F.limit) :
    (finite false a + finite false b : Binary F) = round false (F.units a + F.units b) 1 := by
  change (if signed false (F.units a) + signed false (F.units b) = 0 then _ else _) = _
  unfold signed
  simp only [Bool.false_eq_true, if_false]
  split
  · rename_i hzero
    have hsum : F.units a + F.units b = 0 := by omega
    rw [hsum]
    unfold round nearest
    simp
  · rename_i hne
    have hsign : decide ((F.units a : ℤ) + F.units b < 0) = false := decide_eq_false (by omega)
    rw [hsign]
    rfl

variable {x x' y y' : Binary F}

/-- A sum of numbers without a minus sign has none. -/
lemma Unsigned.add (hx : x.Unsigned) (hy : y.Unsigned) : (x + y).Unsigned := by
  cases hx with
  | number a =>
    cases hy with
    | number b =>
      rw [finite_add_finite]
      exact unsigned_round _ _
    | infinity => exact .infinity
  | infinity => cases hy <;> exact .infinity

/-- Sums keep the order. -/
lemma Unsigned.add_le_add (hF : 0 < F.fraction) (hx : x.Unsigned) (hx' : x'.Unsigned)
    (hy : y.Unsigned) (hy' : y'.Unsigned) (hxx' : x.totalPlace ≤ x'.totalPlace)
    (hyy' : y.totalPlace ≤ y'.totalPlace) : (x + y).totalPlace ≤ (x' + y').totalPlace := by
  have htop := (hx.add hy).totalPlace_le
  cases hx' with
  | infinity => cases hy' <;> exact htop
  | number a' =>
    cases hy' with
    | infinity => exact htop
    | number b' =>
      obtain ⟨a, rfl, hplace⟩ := hx.exists_finite (hxx'.trans_lt (Int.ofNat_lt.mpr a'.isLt))
      obtain ⟨b, rfl, hplace'⟩ := hy.exists_finite (hyy'.trans_lt (Int.ofNat_lt.mpr b'.isLt))
      have ha : F.units a ≤ F.units a' := F.units_strictMono.monotone (Int.ofNat_le.mp hxx')
      have hb : F.units b ≤ F.units b' := F.units_strictMono.monotone (Int.ofNat_le.mp hyy')
      rw [finite_add_finite, finite_add_finite]
      refine round_le_round hF Nat.one_pos Nat.one_pos ?_
      omega

/-- The product of finite numbers without a minus sign is rounded. -/
lemma finite_mul_finite (a b : Fin F.limit) : (finite false a * finite false b : Binary F) =
    round false (F.units a * F.units b) (1 <<< F.depth) := rfl

/-- Products keep the order. -/
lemma finite_mul_le_mul (hF : 0 < F.fraction) (c : Fin F.limit) {a b : Fin F.limit} (h : a ≤ b) :
    (finite false c * finite false a : Binary F).totalPlace ≤
      (finite false c * finite false b : Binary F).totalPlace := by
  have hpos : 0 < 1 <<< F.depth := by
    rw [Nat.one_shiftLeft]
    exact Nat.two_pow_pos _
  rw [finite_mul_finite, finite_mul_finite]
  refine round_le_round hF hpos hpos (Nat.mul_le_mul_right _ (Nat.mul_le_mul_left _ ?_))
  exact F.units_strictMono.monotone h

/-- A positive rank is that of a positive magnitude. -/
lemma units_pos {c : Fin F.limit} (hc : 0 < c.val) : 0 < F.units c := by
  have h := F.units_strictMono hc
  rwa [F.units_zero] at h

/-- The quotient of finite numbers without a minus sign is rounded if the divisor is positive. -/
lemma finite_div_finite (a : Fin F.limit) {c : Fin F.limit} (hc : 0 < c.val) :
    (finite false a / finite false c : Binary F) =
      round false (F.units a <<< F.depth) (F.units c) := by
  change (if c.val = 0 then _ else _) = _
  rw [if_neg (Nat.ne_of_gt hc)]
  rfl

/-- A number without a minus sign over a positive number has no minus sign. -/
lemma Unsigned.div (hx : x.Unsigned) {c : Fin F.limit} (hc : 0 < c.val) :
    (x / finite false c).Unsigned := by
  cases hx with
  | number a =>
    rw [finite_div_finite a hc]
    exact unsigned_round _ _
  | infinity => exact .infinity

/-- Quotients by one number keep the order. -/
lemma Unsigned.div_le_div (hF : 0 < F.fraction) (hx : x.Unsigned) (hy : y.Unsigned)
    {c : Fin F.limit} (hc : 0 < c.val) (hxy : x.totalPlace ≤ y.totalPlace) :
    (x / finite false c).totalPlace ≤ (y / finite false c).totalPlace := by
  have htop := (hx.div hc).totalPlace_le
  cases hy with
  | infinity => exact htop
  | number b =>
    obtain ⟨a, rfl, -⟩ := hx.exists_finite (hxy.trans_lt (Int.ofNat_lt.mpr b.isLt))
    rw [finite_div_finite a hc, finite_div_finite b hc]
    refine round_le_round hF (units_pos hc) (units_pos hc) (Nat.mul_le_mul_right _ ?_)
    rw [Nat.shiftLeft_eq, Nat.shiftLeft_eq]
    exact Nat.mul_le_mul_right _ (F.units_strictMono.monotone (Int.ofNat_le.mp hxy))

/-- A quotient does not grow with its divisor. -/
lemma Unsigned.div_le_div_left (hF : 0 < F.fraction) (a : Fin F.limit) (hx : x.Unsigned)
    (hy : y.Unsigned) (hpos : 0 < x.totalPlace) (hxy : x.totalPlace ≤ y.totalPlace) :
    (finite false a / y).totalPlace ≤ (finite false a / x).totalPlace := by
  cases hy with
  | infinity =>
    have hzero : (finite false a / infinite false : Binary F) = ofRank false 0 := rfl
    rw [hzero, totalPlace_ofRank, Nat.zero_min]
    cases hx with
    | number c => exact ((Unsigned.number a).div (Int.ofNat_lt.mp hpos)).totalPlace_nonneg
    | infinity =>
      rw [hzero, totalPlace_ofRank, Nat.zero_min]
  | number d =>
    obtain ⟨c, rfl, -⟩ := hx.exists_finite (hxy.trans_lt (Int.ofNat_lt.mpr d.isLt))
    have hc : 0 < c.val := Int.ofNat_lt.mp hpos
    have hcd : c.val ≤ d.val := Int.ofNat_le.mp hxy
    rw [finite_div_finite a hc, finite_div_finite a (hc.trans_le hcd)]
    refine round_le_round hF (units_pos (hc.trans_le hcd)) (units_pos hc) ?_
    exact Nat.mul_le_mul_left _ (F.units_strictMono.monotone hcd)

end Binary

end Dossier
