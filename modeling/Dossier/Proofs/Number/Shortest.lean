import Mathlib.Algebra.Order.Field.Power
import Dossier.Number.Decimal
import Dossier.Proofs.Number.Rounding

/-!
# Shortest digits

A decimal is read by one rounding (`Binary.ofDecimal_eq`), and the shortest digits of a magnitude
are among those that round to it (`Binary.roundsTo_shortest`).  The search for them always ends:
with as many digits as the significand has bits, the grid of decimals is finer than the gap to the
next magnitude.
-/

namespace Dossier

/-- Powers of ten are powers. -/
lemma tenTo_eq (n : ℕ) : tenTo n = 10 ^ n := rfl

namespace Decimal

/-! ### Values -/

/-- The number that a decimal stands for. -/
def value (x : Decimal) : ℚ := x.digits * 10 ^ x.exponent

/-- A number has no more digits than its length says. -/
lemma lt_pow_length (n : ℕ) : n < 10 ^ length n := by
  induction n using length.induct with
  | case1 => simp [length]
  | case2 n hne ih =>
    rw [length, if_neg hne, Nat.pow_succ]
    omega

/-- A number that is not zero has all digits that its length says. -/
lemma pow_length_le {n : ℕ} (h : n ≠ 0) : 10 ^ length n ≤ 10 * n := by
  induction n using length.induct with
  | case1 => exact absurd rfl h
  | case2 n hne ih =>
    rw [length, if_neg hne, Nat.pow_succ]
    by_cases hlast : n / 10 = 0
    · rw [hlast, length, if_pos rfl]
      omega
    · have hrest := ih hlast
      omega

/-- The magnitude of a ratio is the exponent of a power of ten that is not above it. -/
lemma pow_magnitude_le {n d : ℕ} (hn : 0 < n) (hd : 0 < d) :
    (10 : ℚ) ^ magnitude n d ≤ n / d := by
  have hdq : (0 : ℚ) < d := by exact_mod_cast hd
  unfold magnitude
  split
  · rename_i hle
    have hquotient : n / d ≠ 0 := (Nat.div_pos hle hd).ne'
    have hlength := pow_length_le hquotient
    have hmul := Nat.div_mul_le_self n d
    rw [zpow_sub₀ (by norm_num), zpow_natCast, zpow_one, div_le_div_iff₀ (by norm_num) hdq]
    have hnat : 10 ^ length (n / d) * d ≤ n * 10 := by nlinarith
    exact_mod_cast hnat
  · have hlength := lt_pow_length ((d - 1) / n)
    rw [Nat.div_lt_iff_lt_mul hn] at hlength
    have hnat : d ≤ n * 10 ^ length ((d - 1) / n) := by
      rw [Nat.mul_comm n]
      omega
    rw [zpow_neg, zpow_natCast, le_div_iff₀ hdq, inv_mul_le_iff₀ (by positivity), mul_comm]
    exact_mod_cast hnat

/-- Without trailing zeros a decimal stands for the same number. -/
lemma value_trim (fuel : ℕ) (x : Decimal) : (trim fuel x).value = x.value := by
  induction fuel generalizing x with
  | zero => rfl
  | succ fuel ih =>
    unfold trim
    split
    · rename_i h
      have hdigits : x.digits = x.digits / 10 * 10 := by omega
      have hcast : (x.digits : ℚ) = (x.digits / 10 : ℕ) * 10 := by exact_mod_cast hdigits
      rw [ih]
      unfold value
      dsimp only
      rw [hcast, zpow_add₀ (by norm_num), zpow_one]
      ring
    · rfl

end Decimal

namespace BinaryFormat

variable {F : BinaryFormat} {x : ℚ} {r : ℕ}

/-- A format that stores some of the significand, and whose greatest magnitude is no further above
one than the least is below. -/
structure Balanced (F : BinaryFormat) : Prop where
  fraction : 0 < F.fraction
  reach : F.fraction + F.binades ≤ 2 * F.depth

/-- Single precision is balanced. -/
lemma balanced_single : Balanced single := ⟨by decide, by decide⟩

/-- Only what rounds to zero is less than half of the least magnitude. -/
lemma RoundsTo.eq_zero_or_le (h : F.RoundsTo x r) : r = 0 ∨ 1 ≤ 2 * x := by
  by_cases hr : r = 0
  · exact .inl hr
  · right
    have hlt : F.units 0 < F.units r := F.units_strictMono (Nat.pos_of_ne_zero hr)
    rw [F.units_zero] at hlt
    have hone : (1 : ℚ) ≤ F.units r := by exact_mod_cast hlt
    have hbelow : (0 : ℚ) ≤ F.units (r - 1) := by positivity
    linarith [h.low]

/-- What rounds to a magnitude of the format is below a power of two. -/
lemma RoundsTo.le_pow (h : F.RoundsTo x r) (hr : r < F.limit) :
    x ≤ 2 ^ (F.fraction + F.binades) := by
  unfold limit at hr
  rw [twoTo_eq] at hr
  obtain ⟨b, hb⟩ : ∃ b, F.binades = b + 1 := by
    refine Nat.exists_eq_succ_of_ne_zero ?_
    rintro hzero
    rw [hzero, Nat.zero_mul] at hr
    exact Nat.not_lt_zero r hr
  have htop : F.units (b * 2 ^ F.fraction + 2 ^ F.fraction) = 2 ^ F.fraction * 2 ^ b := by
    refine F.units_binade ?_ (.inr le_rfl)
    exact Nat.pow_le_pow_right (by decide) (Nat.le_succ _)
  rw [hb, Nat.succ_mul] at hr
  have hmono := F.units_strictMono.monotone
  have hnext : F.units (r + 1) ≤ 2 ^ F.fraction * 2 ^ b := htop ▸ hmono hr
  have hthis : F.units r ≤ 2 ^ F.fraction * 2 ^ b := le_trans (hmono (Nat.le_succ r)) hnext
  have hsum : (F.units r + F.units (r + 1) : ℚ) ≤ 2 * (2 ^ F.fraction * 2 ^ b) := by
    exact_mod_cast (by omega : F.units r + F.units (r + 1) ≤ 2 * (2 ^ F.fraction * 2 ^ b))
  rw [hb, ← Nat.add_assoc, pow_succ, pow_add]
  have hpos : (0 : ℚ) < 2 ^ F.fraction * 2 ^ b := by positivity
  linarith [h.high]

end BinaryFormat

namespace Binary

variable {F : BinaryFormat} {r : ℕ}

/-! ### Reading -/

/-- A decimal of a magnitude of the format is not so large that it would be cut short. -/
lemma top_le (hF : F.Balanced) {x : Decimal} (h : F.RoundsTo (x.value * 2 ^ F.depth) r)
    (hr : r < F.limit) (hx : x.digits ≠ 0) :
    (Decimal.length x.digits : ℤ) + x.exponent ≤ F.depth + 1 := by
  by_contra hlt
  rw [not_le] at hlt
  have hlength : (10 : ℚ) ^ Decimal.length x.digits ≤ 10 * x.digits := by
    exact_mod_cast Decimal.pow_length_le hx
  have hvalue : (10 : ℚ) ^ ((Decimal.length x.digits : ℤ) + x.exponent) ≤ 10 * x.value := by
    rw [zpow_add₀ (by norm_num), zpow_natCast]
    unfold Decimal.value
    rw [← mul_assoc]
    exact mul_le_mul_of_nonneg_right hlength (by positivity)
  have hpower : (10 : ℚ) ^ (F.depth + 2) ≤
      10 ^ ((Decimal.length x.digits : ℤ) + x.exponent) := by
    rw [← zpow_natCast]
    exact zpow_le_zpow_right₀ (by norm_num) (by push_cast; omega)
  have hlarge : (10 : ℚ) ^ (F.depth + 1) ≤ x.value := by
    rw [pow_succ] at hpower
    linarith
  have hsmall : x.value * 2 ^ F.depth ≤ 2 ^ F.depth * 2 ^ F.depth := by
    refine le_trans (h.le_pow hr) ?_
    rw [← pow_add]
    exact pow_le_pow_right₀ (by norm_num) (by have := hF.reach; omega)
  have hle : x.value ≤ 2 ^ F.depth := le_of_mul_le_mul_right hsmall (by positivity)
  have hlt' : (2 : ℚ) ^ F.depth < 10 ^ (F.depth + 1) := by
    calc (2 : ℚ) ^ F.depth ≤ 10 ^ F.depth := pow_le_pow_left₀ (by norm_num) (by norm_num) _
      _ < 10 ^ (F.depth + 1) := pow_lt_pow_right₀ (by norm_num) (Nat.lt_succ_self _)
  linarith

/-- A decimal that is so small that it is cut short rounds to zero. -/
lemma eq_zero_of_top_lt {x : Decimal} (h : F.RoundsTo (x.value * 2 ^ F.depth) r)
    (htop : (Decimal.length x.digits : ℤ) + x.exponent < -F.depth) : r = 0 := by
  refine h.eq_zero_or_le.resolve_right fun hhalf => ?_
  have hlength : (x.digits : ℚ) < 10 ^ Decimal.length x.digits := by
    exact_mod_cast Decimal.lt_pow_length x.digits
  have hvalue : x.value < 10 ^ ((Decimal.length x.digits : ℤ) + x.exponent) := by
    rw [zpow_add₀ (by norm_num), zpow_natCast]
    unfold Decimal.value
    exact mul_lt_mul_of_pos_right hlength (by positivity)
  have hpower : (10 : ℚ) ^ ((Decimal.length x.digits : ℤ) + x.exponent) ≤
      (10 ^ (F.depth + 1))⁻¹ := by
    rw [← zpow_natCast, ← zpow_neg]
    exact zpow_le_zpow_right₀ (by norm_num) (by push_cast; omega)
  have hbelow : x.value * 10 ^ (F.depth + 1) < 1 := by
    rw [← lt_div_iff₀ (by positivity), one_div]
    linarith
  have hpositive : 0 < x.value := by
    by_contra hneg
    have hle : x.value * 2 ^ F.depth ≤ 0 :=
      mul_nonpos_of_nonpos_of_nonneg (not_lt.mp hneg) (by positivity)
    linarith
  have htwo : x.value * (2 ^ F.depth * 2) ≤ x.value * 10 ^ (F.depth + 1) := by
    rw [← pow_succ]
    gcongr
    norm_num
  linarith

/-- A decimal is read as the number whose rank it rounds to. -/
theorem ofDecimal_eq (hF : F.Balanced) {x : Decimal} (h : F.RoundsTo (x.value * 2 ^ F.depth) r)
    (hr : r < F.limit) (neg : Bool) : (ofDecimal neg x : Binary F) = ofRank neg r := by
  unfold ofDecimal
  split
  · rename_i hzero
    have hvalue : x.value * 2 ^ F.depth = 0 := by
      unfold Decimal.value
      rw [hzero]
      simp
    rw [hvalue] at h
    rcases h.eq_zero_or_le with rfl | hhalf
    · rfl
    · exact absurd hhalf (by norm_num)
  rename_i hx
  dsimp only
  rw [if_neg (not_lt.mpr (top_le hF h hr hx))]
  split
  · rename_i htop
    rw [eq_zero_of_top_lt h htop]
  split
  · rename_i hexponent
    refine round_eq hF.fraction Nat.one_pos ?_ neg
    obtain ⟨e, he⟩ := Int.eq_ofNat_of_zero_le hexponent
    unfold Decimal.value at h
    rw [he, zpow_natCast] at h
    rw [he, Nat.shiftLeft_eq, tenTo_eq, Int.toNat_natCast]
    push_cast
    rwa [div_one]
  · rename_i hexponent
    have hpos : 0 < tenTo (-x.exponent).toNat := by
      rw [tenTo_eq]
      positivity
    refine round_eq hF.fraction hpos ?_ neg
    obtain ⟨e, he⟩ : ∃ e : ℕ, x.exponent = -e := ⟨(-x.exponent).toNat, by omega⟩
    unfold Decimal.value at h
    rw [he, zpow_neg, zpow_natCast] at h
    rw [he, Nat.shiftLeft_eq, tenTo_eq, neg_neg, Int.toNat_natCast]
    push_cast
    rwa [div_eq_mul_inv, mul_right_comm]

/-! ### Writing -/

/-- The exponent of the decimals of `count` digits among which those of a magnitude are searched. -/
def gridExponent (F : BinaryFormat) (r count : ℕ) : ℤ :=
  Decimal.magnitude (2 * F.units r) (1 <<< (F.depth + 1)) - count + 1

/-- The numerator of the distance of such decimals, in halves of the least magnitude. -/
def gridNumerator (F : BinaryFormat) (g : ℤ) : ℕ :=
  if 0 ≤ g then tenTo g.toNat * (1 <<< (F.depth + 1)) else 1 <<< (F.depth + 1)

/-- The denominator of this distance. -/
def gridDenominator (g : ℤ) : ℕ := if 0 ≤ g then 1 else tenTo (-g).toNat

/-- The last decimal of `count` digits that is not above a magnitude. -/
def gridBelow (F : BinaryFormat) (r count : ℕ) : ℕ :=
  2 * F.units r * gridDenominator (gridExponent F r count) /
    gridNumerator F (gridExponent F r count)

/-- Does a decimal round to a rank? -/
def fits (F : BinaryFormat) (r : ℕ) (g : ℤ) (c : ℕ) : Bool :=
  readsBack (r % 2 == 0) (F.units (r - 1) + F.units r) (F.units r + F.units (r + 1))
    (gridNumerator F g) (gridDenominator g) c

/-- The numerator of a distance is positive. -/
lemma gridNumerator_pos (F : BinaryFormat) (g : ℤ) : 0 < gridNumerator F g := by
  unfold gridNumerator
  rw [tenTo_eq, Nat.one_shiftLeft]
  split <;> positivity

/-- The denominator of a distance is positive. -/
lemma gridDenominator_pos (g : ℤ) : 0 < gridDenominator g := by
  unfold gridDenominator
  rw [tenTo_eq]
  split <;> positivity

/-- The distance of decimals with an exponent. -/
lemma gridNumerator_div (F : BinaryFormat) (g : ℤ) :
    (gridNumerator F g / gridDenominator g : ℚ) = 10 ^ g * 2 ^ (F.depth + 1) := by
  unfold gridNumerator gridDenominator
  rw [tenTo_eq, tenTo_eq, Nat.one_shiftLeft]
  by_cases hg : 0 ≤ g
  · obtain ⟨e, rfl⟩ := Int.eq_ofNat_of_zero_le hg
    rw [if_pos hg, if_pos hg, zpow_natCast, Int.toNat_natCast]
    push_cast
    rw [div_one]
  · obtain ⟨e, rfl⟩ : ∃ e : ℕ, g = -e := ⟨(-g).toNat, by omega⟩
    rw [if_neg hg, if_neg hg, zpow_neg, zpow_natCast, neg_neg, Int.toNat_natCast]
    push_cast
    rw [div_eq_inv_mul]

/-- A decimal that passes the test rounds to the rank. -/
lemma roundsTo_of_fits {g : ℤ} {c : ℕ} (h : fits F r g c = true) :
    F.RoundsTo ((⟨c, g⟩ : Decimal).value * 2 ^ F.depth) r := by
  have hq : (0 : ℚ) < gridDenominator g := by exact_mod_cast gridDenominator_pos g
  have hdouble : 2 * ((⟨c, g⟩ : Decimal).value * 2 ^ F.depth) =
      c * gridNumerator F g / gridDenominator g := by
    rw [mul_div_assoc, gridNumerator_div, pow_succ]
    unfold Decimal.value
    ring
  unfold fits readsBack at h
  split at h
  · rename_i hclosed
    rw [Bool.and_eq_true, decide_eq_true_eq, decide_eq_true_eq] at h
    refine ⟨?_, ?_, fun _ => beq_iff_eq.mp hclosed⟩
    · rw [hdouble, le_div_iff₀ hq]
      exact_mod_cast h.1
    · rw [hdouble, div_le_iff₀ hq]
      exact_mod_cast h.2
  · rw [Bool.and_eq_true, decide_eq_true_eq, decide_eq_true_eq] at h
    have hlow : (F.units (r - 1) + F.units r : ℚ) <
        2 * ((⟨c, g⟩ : Decimal).value * 2 ^ F.depth) := by
      rw [hdouble, lt_div_iff₀ hq]
      exact_mod_cast h.1
    have hhigh : 2 * ((⟨c, g⟩ : Decimal).value * 2 ^ F.depth) <
        (F.units r + F.units (r + 1) : ℚ) := by
      rw [hdouble, div_lt_iff₀ hq]
      exact_mod_cast h.2
    refine ⟨hlow.le, hhigh.le, ?_⟩
    rintro (heq | heq)
    · exact absurd heq hlow.ne'
    · exact absurd heq hhigh.ne

/-- One step of the search: it ends with a decimal that fits, or it goes on with one digit more when
the decimal above the magnitude does not fit. -/
lemma shortestFrom_succ (F : BinaryFormat) (r fuel count : ℕ) :
    (∃ c, fits F r (gridExponent F r count) c = true ∧
        shortestFrom r F (fuel + 1) count = ⟨c, gridExponent F r count⟩) ∨
      fits F r (gridExponent F r count) (gridBelow F r count + 1) = false ∧
        shortestFrom r F (fuel + 1) count = shortestFrom r F fuel (count + 1) := by
  set g := gridExponent F r count with hg
  set below := gridBelow F r count with hbelow
  have hstep : shortestFrom r F (fuel + 1) count =
      if (fits F r g below && fits F r g (below + 1)) = true then
        let middle := (2 * below + 1) * gridNumerator F g
        if 2 * (2 * F.units r * gridDenominator g) < middle then ⟨below, g⟩
        else if middle < 2 * (2 * F.units r * gridDenominator g) then ⟨below + 1, g⟩
        else if below % 2 = 0 then ⟨below, g⟩ else ⟨below + 1, g⟩
      else if fits F r g below = true then ⟨below, g⟩
      else if fits F r g (below + 1) = true then ⟨below + 1, g⟩
      else shortestFrom r F fuel (count + 1) := rfl
  rw [hstep]
  dsimp only
  by_cases hlow : fits F r g below = true
  · left
    by_cases hhigh : fits F r g (below + 1) = true
    · rw [hlow, hhigh, Bool.and_true, if_pos rfl]
      split
      · exact ⟨below, hlow, rfl⟩
      split
      · exact ⟨below + 1, hhigh, rfl⟩
      split
      · exact ⟨below, hlow, rfl⟩
      · exact ⟨below + 1, hhigh, rfl⟩
    · rw [if_neg fun h => hhigh ((Bool.and_eq_true_iff.mp h).2), if_pos hlow]
      exact ⟨below, hlow, rfl⟩
  · rw [if_neg fun h => hlow ((Bool.and_eq_true_iff.mp h).1), if_neg hlow]
    by_cases hhigh : fits F r g (below + 1) = true
    · left
      rw [if_pos hhigh]
      exact ⟨below + 1, hhigh, rfl⟩
    · right
      rw [if_neg hhigh]
      exact ⟨Bool.eq_false_iff.mpr hhigh, rfl⟩

/-- Decimals with more digits than the significand has bits are closer to each other than a
magnitude is to the next one. -/
lemma grid_lt_gap {count gap : ℕ} (hr : 0 < r) (hcount : F.fraction + 2 ≤ count)
    (hgap : F.units r < 2 ^ (F.fraction + 1) * gap) :
    gridNumerator F (gridExponent F r count) <
      gap * gridDenominator (gridExponent F r count) := by
  have hq : (0 : ℚ) < gridDenominator (gridExponent F r count) := by
    exact_mod_cast gridDenominator_pos _
  have hpositive : 0 < 2 * F.units r := by
    have hlt := F.units_strictMono hr
    rw [F.units_zero] at hlt
    omega
  have hmagnitude := Decimal.pow_magnitude_le hpositive
    (by rw [Nat.one_shiftLeft]; positivity : 0 < 1 <<< (F.depth + 1))
  have hsplit : (10 : ℚ) ^ gridExponent F r count * (10 : ℚ) ^ (count - 1) =
      (10 : ℚ) ^ Decimal.magnitude (2 * F.units r) (1 <<< (F.depth + 1)) := by
    unfold gridExponent
    rw [← zpow_natCast, ← zpow_add₀ (by norm_num)]
    congr 1
    omega
  rw [← hsplit, Nat.one_shiftLeft, le_div_iff₀ (by positivity)] at hmagnitude
  have hdigits : (2 * 2 ^ (F.fraction + 1) : ℚ) ≤ 10 ^ (count - 1) := by
    calc (2 * 2 ^ (F.fraction + 1) : ℚ) ≤ 5 ^ (F.fraction + 1) * 2 ^ (F.fraction + 1) := by
          have hone : (1 : ℚ) ≤ 5 ^ F.fraction := one_le_pow₀ (by norm_num)
          have htwo : (2 : ℚ) ≤ 5 ^ (F.fraction + 1) := by
            rw [pow_succ]
            linarith
          gcongr
      _ = 10 ^ (F.fraction + 1) := by
          rw [← mul_pow]
          norm_num
      _ ≤ 10 ^ (count - 1) := pow_le_pow_right₀ (by norm_num) (by omega)
  have hgapq : (F.units r : ℚ) < 2 ^ (F.fraction + 1) * gap := by exact_mod_cast hgap
  have hratio : (gridNumerator F (gridExponent F r count) /
      gridDenominator (gridExponent F r count) : ℚ) < gap := by
    rw [gridNumerator_div]
    refine lt_of_mul_lt_mul_right ?_ (by positivity : (0 : ℚ) ≤ 10 ^ (count - 1))
    calc (10 ^ gridExponent F r count * 2 ^ (F.depth + 1) * 10 ^ (count - 1) : ℚ)
        = 10 ^ gridExponent F r count * 10 ^ (count - 1) * 2 ^ (F.depth + 1) := by ring
      _ ≤ 2 * F.units r := by exact_mod_cast hmagnitude
      _ < gap * (2 * 2 ^ (F.fraction + 1)) := by linarith
      _ ≤ gap * 10 ^ (count - 1) := by gcongr
  rw [div_lt_iff₀ hq] at hratio
  exact_mod_cast hratio

/-- With enough digits the decimal above a magnitude fits. -/
lemma fits_of_enough {count : ℕ} (hr : 0 < r) (hcount : F.fraction + 2 ≤ count) :
    fits F r (gridExponent F r count) (gridBelow F r count + 1) = true := by
  obtain ⟨gap, hnext, hgap⟩ := F.units_lt_gap r
  have hclose := grid_lt_gap hr hcount hgap
  have hp := gridNumerator_pos F (gridExponent F r count)
  have hq := gridDenominator_pos (gridExponent F r count)
  set p := gridNumerator F (gridExponent F r count)
  set q := gridDenominator (gridExponent F r count)
  set below := gridBelow F r count with hdef
  have hlast : below * p ≤ 2 * F.units r * q := Nat.div_mul_le_self _ _
  have hfirst : 2 * F.units r * q < (below + 1) * p := by
    rw [Nat.mul_comm (below + 1)]
    exact Nat.lt_mul_div_succ _ hp
  have hprevious : F.units (r - 1) ≤ F.units r := F.units_strictMono.monotone (Nat.sub_le r 1)
  have hlow : (F.units (r - 1) + F.units r) * q < (below + 1) * p := by
    refine Nat.lt_of_le_of_lt (Nat.mul_le_mul_right q ?_) hfirst
    omega
  have hhigh : (below + 1) * p < (F.units r + F.units (r + 1)) * q := by
    rw [hnext, Nat.succ_mul, ← Nat.add_assoc, Nat.add_mul, ← Nat.two_mul]
    omega
  unfold fits readsBack
  split
  · rw [Bool.and_eq_true, decide_eq_true_eq, decide_eq_true_eq]
    exact ⟨hlow.le, hhigh.le⟩
  · rw [Bool.and_eq_true, decide_eq_true_eq, decide_eq_true_eq]
    exact ⟨hlow, hhigh⟩

/-- The search ends with a decimal that rounds to the rank. -/
lemma roundsTo_shortestFrom (hr : 0 < r) {fuel count : ℕ}
    (henough : F.fraction + 2 ≤ count + fuel) :
    F.RoundsTo ((shortestFrom r F (fuel + 1) count).value * 2 ^ F.depth) r := by
  induction fuel generalizing count with
  | zero =>
    rcases shortestFrom_succ F r 0 count with ⟨c, hc, heq⟩ | ⟨hmiss, -⟩
    · rw [heq]
      exact roundsTo_of_fits hc
    · have hfit : fits F r (gridExponent F r count) (gridBelow F r count + 1) = true :=
        fits_of_enough hr henough
      rw [hfit] at hmiss
      cases hmiss
  | succ fuel ih =>
    rcases shortestFrom_succ F r (fuel + 1) count with ⟨c, hc, heq⟩ | ⟨-, heq⟩
    · rw [heq]
      exact roundsTo_of_fits hc
    · rw [heq]
      exact ih (by omega)

/-- The shortest digits of a magnitude round to it. -/
theorem roundsTo_shortest (F : BinaryFormat) (r : ℕ) :
    F.RoundsTo ((shortest F r).value * 2 ^ F.depth) r := by
  unfold shortest
  split
  · rename_i hzero
    subst hzero
    have hpos : (0 : ℚ) ≤ F.units 1 := by positivity
    refine ⟨?_, ?_, fun _ => rfl⟩ <;> simp [Decimal.value, F.units_zero, hpos]
  · rename_i hr
    rw [Decimal.value_trim]
    exact roundsTo_shortestFrom (Nat.pos_of_ne_zero hr) (by omega)

end Binary

end Dossier
