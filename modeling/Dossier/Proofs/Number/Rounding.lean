import Mathlib.Algebra.Order.Field.Rat
import Mathlib.Tactic.FieldSimp
import Mathlib.Tactic.GCongr
import Mathlib.Tactic.Linarith
import Mathlib.Tactic.NormNum
import Mathlib.Tactic.Positivity
import Mathlib.Tactic.Ring
import Dossier.Number.Binary

/-!
# Rounding to a binary format

The magnitudes of a format ascend with their ranks, and between two neighbours lies their midpoint.
The numbers that round to a magnitude are those from the midpoint below it to the midpoint above it,
a midpoint going to the even rank (`BinaryFormat.RoundsTo`).  A number rounds to one rank only
(`RoundsTo.eq`), which is the one that `Binary.round` finds.
-/

namespace Dossier

/-- Powers of two are powers. -/
lemma twoTo_eq (n : ℕ) : twoTo n = 2 ^ n := Nat.one_shiftLeft n

namespace BinaryFormat

variable (F : BinaryFormat)

/-! ### Magnitudes -/

/-- The magnitude whose significand is `k` in the binade `b`; its rank counts the magnitudes below.
The significand may also be the first one of the next binade. -/
lemma units_binade {b k : ℕ} (hk : k ≤ 2 ^ (F.fraction + 1))
    (hb : b = 0 ∨ 2 ^ F.fraction ≤ k) : F.units (b * 2 ^ F.fraction + k) = k * 2 ^ b := by
  have hpos : 0 < 2 ^ F.fraction := Nat.two_pow_pos _
  rw [Nat.pow_succ] at hk
  unfold units
  rw [twoTo_eq]
  dsimp only
  rcases Nat.lt_or_ge k (2 ^ F.fraction) with hsmall | hlarge
  · obtain rfl : b = 0 := hb.resolve_right (Nat.not_le.mpr hsmall)
    rw [Nat.zero_mul, Nat.zero_add, Nat.div_eq_of_lt hsmall, if_pos rfl, Nat.pow_zero, Nat.mul_one]
  · obtain ⟨m, rfl⟩ := Nat.exists_eq_add_of_le hlarge
    rcases Nat.lt_or_ge m (2 ^ F.fraction) with hlt | hge
    · have hsum : b * 2 ^ F.fraction + (2 ^ F.fraction + m) = m + 2 ^ F.fraction * (b + 1) := by ring
      have hdiv : (m + 2 ^ F.fraction * (b + 1)) / 2 ^ F.fraction = b + 1 := by
        rw [Nat.add_mul_div_left _ _ hpos, Nat.div_eq_of_lt hlt, Nat.zero_add]
      rw [hsum, hdiv, Nat.add_mul_mod_self_left, Nat.mod_eq_of_lt hlt, if_neg (Nat.succ_ne_zero b),
        Nat.add_sub_cancel, Nat.shiftLeft_eq, Nat.add_comm m]
    · obtain rfl : m = 2 ^ F.fraction := by omega
      have hsum : b * 2 ^ F.fraction + (2 ^ F.fraction + 2 ^ F.fraction) =
          2 ^ F.fraction * (b + 2) := by ring
      have hdiv : 2 ^ F.fraction * (b + 2) / 2 ^ F.fraction = b + 2 := Nat.mul_div_cancel_left _ hpos
      rw [hsum, hdiv, Nat.mul_mod_right, if_neg (Nat.succ_ne_zero _), Nat.zero_add,
        Nat.shiftLeft_eq, Nat.add_sub_assoc (by decide) b, Nat.pow_add]
      ring

/-- Every rank is that of a significand in a binade. -/
lemma exists_binade (r : ℕ) : ∃ b k, r = b * 2 ^ F.fraction + k ∧ k < 2 ^ (F.fraction + 1) ∧
    (b = 0 ∨ 2 ^ F.fraction ≤ k) := by
  have hpos : 0 < 2 ^ F.fraction := Nat.two_pow_pos _
  have hlt := Nat.mod_lt r hpos
  have hsplit := Nat.div_add_mod' r (2 ^ F.fraction)
  have hsucc : 2 ^ (F.fraction + 1) = 2 ^ F.fraction + 2 ^ F.fraction := by
    rw [Nat.pow_succ, Nat.mul_two]
  rcases hq : r / 2 ^ F.fraction with _ | b
  · rw [hq, Nat.zero_mul, Nat.zero_add] at hsplit
    exact ⟨0, r, by omega, by omega, .inl rfl⟩
  · rw [hq, Nat.succ_mul] at hsplit
    exact ⟨b, 2 ^ F.fraction + r % 2 ^ F.fraction, by omega, by omega, .inr (by omega)⟩

/-- From one magnitude to the next it is more than a small part of the magnitude. -/
lemma units_lt_gap (r : ℕ) :
    ∃ gap, F.units (r + 1) = F.units r + gap ∧ F.units r < 2 ^ (F.fraction + 1) * gap := by
  obtain ⟨b, k, rfl, hk, hb⟩ := F.exists_binade r
  have hpos : 0 < 2 ^ b := Nat.two_pow_pos b
  have hnext : b = 0 ∨ 2 ^ F.fraction ≤ k + 1 := hb.imp_right fun h => Nat.le_succ_of_le h
  refine ⟨2 ^ b, ?_, ?_⟩
  · rw [Nat.add_assoc, F.units_binade hk hnext, F.units_binade (Nat.le_of_lt hk) hb, Nat.succ_mul]
  · rw [F.units_binade (Nat.le_of_lt hk) hb]
    exact Nat.mul_lt_mul_of_pos_right hk hpos

/-- Magnitudes ascend with their ranks. -/
lemma units_strictMono : StrictMono F.units := by
  refine strictMono_nat_of_lt_succ fun r => ?_
  obtain ⟨gap, hgap, hlt⟩ := F.units_lt_gap r
  have hpos : 0 < gap := Nat.pos_of_mul_pos_left (Nat.zero_lt_of_lt hlt)
  omega

/-- The least magnitude is zero. -/
lemma units_zero : F.units 0 = 0 := by
  have h := F.units_binade (Nat.zero_le (2 ^ (F.fraction + 1))) (.inl rfl : 0 = 0 ∨ _)
  simpa using h

/-! ### What rounds to a magnitude -/

/-- A number of units rounds to the magnitude of a rank: it lies between the midpoints to the
neighbours, and it is a midpoint only if the rank is even. -/
structure RoundsTo (x : ℚ) (r : ℕ) : Prop where
  low : (F.units (r - 1) + F.units r : ℚ) ≤ 2 * x
  high : 2 * x ≤ (F.units r + F.units (r + 1) : ℚ)
  even : 2 * x = (F.units (r - 1) + F.units r : ℚ) ∨ 2 * x = (F.units r + F.units (r + 1) : ℚ) →
    r % 2 = 0

variable {F} {x : ℚ} {r s : ℕ}

/-- A number that rounds to a rank does not round to a greater one. -/
lemma RoundsTo.le (h : F.RoundsTo x r) (h' : F.RoundsTo x s) : s ≤ r := by
  by_contra hlt
  rw [Nat.not_le] at hlt
  obtain ⟨t, rfl⟩ := Nat.exists_eq_add_of_lt hlt
  have hmono := F.units_strictMono.monotone
  have hbelow : (F.units r : ℚ) ≤ F.units (r + t) := by exact_mod_cast hmono (by omega)
  have habove : (F.units (r + 1) : ℚ) ≤ F.units (r + t + 1) := by exact_mod_cast hmono (by omega)
  have hlow := h'.low
  have hhigh := h.high
  rw [Nat.add_sub_cancel] at hlow
  -- The midpoint above `r` and the midpoint below `s` can only be the same one.
  have heven := h.even (.inr (by linarith))
  have heven' := h'.even (.inl (by rw [Nat.add_sub_cancel]; linarith))
  have hsame : F.units (r + t) = F.units r := by
    have hrat : (F.units (r + t) : ℚ) = F.units r := by linarith
    exact_mod_cast hrat
  have hzero : r + t = r := F.units_strictMono.injective hsame
  omega

/-- A number rounds to one rank only. -/
theorem RoundsTo.eq (h : F.RoundsTo x r) (h' : F.RoundsTo x s) : r = s :=
  Nat.le_antisymm (h'.le h) (h.le h')

end BinaryFormat

/-! ### Nearest numbers -/

/-- A quotient is a natural number and a part below one, which is a half when twice the remainder is
the divisor. -/
lemma exists_part (n : ℕ) {d : ℕ} (hd : 0 < d) : ∃ part : ℚ, 0 ≤ part ∧ part < 1 ∧
    (n / d : ℚ) = (n / d : ℕ) + part ∧ (2 * (n % d) < d ↔ 2 * part < 1) ∧
      (d < 2 * (n % d) ↔ 1 < 2 * part) := by
  have hdq : (0 : ℚ) < d := by exact_mod_cast hd
  refine ⟨(n % d : ℕ) / d, by positivity, ?_, ?_, ?_, ?_⟩
  · rw [div_lt_one hdq]
    exact_mod_cast Nat.mod_lt n hd
  · have hsplit : (n : ℚ) = (n / d : ℕ) * d + (n % d : ℕ) := by
      exact_mod_cast (Nat.div_add_mod' n d).symm
    rw [div_eq_iff hdq.ne', add_mul, div_mul_cancel₀ _ hdq.ne']
    exact hsplit
  · rw [← mul_div_assoc, div_lt_one hdq]
    exact_mod_cast Iff.rfl
  · rw [← mul_div_assoc, one_lt_div hdq]
    exact_mod_cast Iff.rfl

/-- The nearest natural number is at most a half away, and if it is a half away it is even. -/
lemma nearest_spec (n : ℕ) {d : ℕ} (hd : 0 < d) :
    (2 * nearest n d - 1 : ℚ) ≤ 2 * (n / d) ∧ (2 * (n / d) : ℚ) ≤ 2 * nearest n d + 1 ∧
      ((2 * (n / d) : ℚ) = 2 * nearest n d - 1 ∨ (2 * (n / d) : ℚ) = 2 * nearest n d + 1 →
        nearest n d % 2 = 0) := by
  obtain ⟨part, hpart, hpart', hvalue, hbelow, habove⟩ := exists_part n hd
  unfold nearest
  rw [hvalue]
  dsimp only
  split
  · rename_i hdown
    rw [hbelow] at hdown
    refine ⟨by linarith, by linarith, ?_⟩
    rintro (h | h) <;> linarith
  split
  · rename_i hup
    rw [habove] at hup
    push_cast
    refine ⟨by linarith, by linarith, ?_⟩
    rintro (h | h) <;> linarith
  · rename_i hdown hup
    rw [hbelow] at hdown
    rw [habove] at hup
    have hhalf : 2 * part = 1 := by linarith
    split
    · rename_i heven
      exact ⟨by linarith, by linarith, fun _ => heven⟩
    · rename_i hodd
      push_cast
      exact ⟨by linarith, by linarith, fun _ => by omega⟩

/-! ### Midpoints -/

namespace BinaryFormat

variable {F : BinaryFormat} {b k : ℕ} {y : ℚ}

/-- A number in a binade lies above the midpoint below its nearest significand, or it is at a half
below the significand. -/
lemma midpoint_below (hk : k ≤ 2 ^ (F.fraction + 1)) (hb : b = 0 ∨ 2 ^ F.fraction ≤ k)
    (hpos : 0 ≤ y) (hy : b = 0 ∨ (2 ^ F.fraction : ℚ) ≤ y) (hnear : 2 * k - 1 ≤ 2 * y) :
    (F.units (b * 2 ^ F.fraction + k - 1) + F.units (b * 2 ^ F.fraction + k) : ℚ) ≤
        2 * (y * 2 ^ b) ∧
      (2 * (y * 2 ^ b) =
          (F.units (b * 2 ^ F.fraction + k - 1) + F.units (b * 2 ^ F.fraction + k) : ℚ) →
        k = 0 ∨ 2 * y = 2 * k - 1) := by
  have hscale : (0 : ℚ) < 2 ^ b := by positivity
  have hrank : (F.units (b * 2 ^ F.fraction + k) : ℚ) = k * 2 ^ b := by
    exact_mod_cast F.units_binade hk hb
  rcases k with _ | k
  · obtain rfl : b = 0 := hb.resolve_right (Nat.not_le.mpr (Nat.two_pow_pos _))
    rw [Nat.zero_mul, F.units_zero]
    exact ⟨by simpa using hpos, fun _ => .inl rfl⟩
  rw [hrank]
  push_cast at hnear ⊢
  by_cases hinside : b = 0 ∨ 2 ^ F.fraction ≤ k
  · have hbelow : (F.units (b * 2 ^ F.fraction + (k + 1) - 1) : ℚ) = k * 2 ^ b := by
      exact_mod_cast F.units_binade (Nat.le_of_succ_le hk) hinside
    rw [hbelow]
    refine ⟨by nlinarith, fun heq => .inr ?_⟩
    refine mul_right_cancel₀ hscale.ne' ?_
    linarith
  · -- The significand is the first of its binade, and the number is not below it.
    rw [not_or, Nat.not_le] at hinside
    have hfirst : k + 1 = 2 ^ F.fraction :=
      Nat.le_antisymm hinside.2 (hb.resolve_left hinside.1)
    have hge : (k + 1 : ℚ) ≤ y := by
      have hcast : (k + 1 : ℚ) = 2 ^ F.fraction := by exact_mod_cast hfirst
      rw [hcast]
      exact hy.resolve_left hinside.1
    have hbelow : (F.units (b * 2 ^ F.fraction + (k + 1) - 1) : ℚ) <
        F.units (b * 2 ^ F.fraction + (k + 1)) := by
      exact_mod_cast F.units_strictMono (Nat.sub_lt (Nat.succ_pos _) Nat.one_pos)
    rw [hrank] at hbelow
    push_cast at hbelow
    have hle : (k + 1 : ℚ) * 2 ^ b ≤ y * 2 ^ b := mul_le_mul_of_nonneg_right hge hscale.le
    exact ⟨by linarith, fun heq => by linarith⟩

/-- A number in a binade lies below the midpoint above its nearest significand, or it is at a half
above the significand. -/
lemma midpoint_above (hk : k ≤ 2 ^ (F.fraction + 1)) (hb : b = 0 ∨ 2 ^ F.fraction ≤ k)
    (hy : y < 2 ^ (F.fraction + 1)) (hnear : 2 * y ≤ 2 * k + 1) :
    2 * (y * 2 ^ b) ≤
        (F.units (b * 2 ^ F.fraction + k) + F.units (b * 2 ^ F.fraction + k + 1) : ℚ) ∧
      (2 * (y * 2 ^ b) =
          (F.units (b * 2 ^ F.fraction + k) + F.units (b * 2 ^ F.fraction + k + 1) : ℚ) →
        2 * y = 2 * k + 1) := by
  have hscale : (0 : ℚ) < 2 ^ b := by positivity
  have hrank : (F.units (b * 2 ^ F.fraction + k) : ℚ) = k * 2 ^ b := by
    exact_mod_cast F.units_binade hk hb
  rw [hrank]
  by_cases hinside : k < 2 ^ (F.fraction + 1)
  · have habove : (F.units (b * 2 ^ F.fraction + k + 1) : ℚ) = (k + 1) * 2 ^ b := by
      have hnext : b = 0 ∨ 2 ^ F.fraction ≤ k + 1 := hb.imp_right Nat.le_succ_of_le
      exact_mod_cast F.units_binade hinside hnext
    rw [habove]
    refine ⟨by nlinarith, fun heq => ?_⟩
    refine mul_right_cancel₀ hscale.ne' ?_
    linarith
  · -- The significand is the first of the next binade, and the number is below it.
    have hlast : k = 2 ^ (F.fraction + 1) := Nat.le_antisymm hk (Nat.not_lt.mp hinside)
    have hlt : y < k := by
      rw [hlast]
      exact_mod_cast hy
    have habove : (F.units (b * 2 ^ F.fraction + k) : ℚ) <
        F.units (b * 2 ^ F.fraction + k + 1) := by
      exact_mod_cast F.units_strictMono (Nat.lt_succ_self _)
    rw [hrank] at habove
    have hless : y * 2 ^ b < k * 2 ^ b := mul_lt_mul_of_pos_right hlt hscale
    exact ⟨by linarith, fun heq => by linarith⟩

/-- A rank is even if its significand is. -/
lemma even_rank (hF : 0 < F.fraction) (b : ℕ) (hk : k % 2 = 0) :
    (b * 2 ^ F.fraction + k) % 2 = 0 := by
  obtain ⟨f, hf⟩ := Nat.exists_eq_succ_of_ne_zero (Nat.pos_iff_ne_zero.mp hF)
  rw [hf, Nat.pow_succ, ← Nat.mul_assoc]
  omega

end BinaryFormat

/-! ### Rounding -/

namespace Binary

variable {F : BinaryFormat} {n d : ℕ}

/-- A ratio lies in the binade that rounding chooses for it. -/
lemma binade_spec (F : BinaryFormat) (n : ℕ) (hd : 0 < d) {b : ℕ}
    (hb : b = (n / d).log2 - F.fraction) :
    (n / d : ℚ) < 2 ^ (F.fraction + 1) * 2 ^ b ∧
      (b = 0 ∨ (2 ^ F.fraction * 2 ^ b : ℚ) ≤ n / d) := by
  have hdq : (0 : ℚ) < d := by exact_mod_cast hd
  have hupper : n / d < 2 ^ (F.fraction + 1 + b) :=
    Nat.lt_of_lt_of_le Nat.lt_log2_self (Nat.pow_le_pow_right (by decide) (by omega))
  refine ⟨?_, ?_⟩
  · rw [← pow_add, div_lt_iff₀ hdq]
    rw [Nat.div_lt_iff_lt_mul hd] at hupper
    exact_mod_cast hupper
  · by_cases hzero : b = 0
    · exact .inl hzero
    · right
      have hlog : F.fraction + b = (n / d).log2 := by omega
      have hne : n / d ≠ 0 := by
        intro h
        rw [h, Nat.log2_zero] at hlog
        omega
      have hlower : 2 ^ (F.fraction + b) ≤ n / d := by
        rw [hlog]
        exact Nat.log2_self_le hne
      rw [← pow_add, le_div_iff₀ hdq]
      rw [Nat.le_div_iff_mul_le hd] at hlower
      exact_mod_cast hlower

/-- A ratio rounds to the rank that rounding computes. -/
lemma roundsTo_rank (hF : 0 < F.fraction) (n : ℕ) (hd : 0 < d) {b k : ℕ}
    (hb : b = (n / d).log2 - F.fraction) (hk : k = nearest n (d <<< b)) :
    F.RoundsTo (n / d) (b * 2 ^ F.fraction + k) := by
  obtain ⟨hupper, hlower⟩ := binade_spec F n hd hb
  rw [Nat.shiftLeft_eq] at hk
  obtain ⟨hnear, hnear', htie⟩ := nearest_spec n (Nat.mul_pos hd (Nat.two_pow_pos b))
  rw [← hk] at hnear hnear' htie
  push_cast at hnear hnear' htie
  -- The ratio in units of the binade.
  have hscale : (0 : ℚ) < 2 ^ b := by positivity
  have hratio : (n / d : ℚ) = n / (d * 2 ^ b) * 2 ^ b := by field_simp
  have hpos : (0 : ℚ) ≤ n / (d * 2 ^ b) := by positivity
  rw [hratio] at hupper hlower ⊢
  generalize (n / (d * 2 ^ b) : ℚ) = y at hnear hnear' htie hupper hlower hpos ⊢
  have hylt : y < 2 ^ (F.fraction + 1) := lt_of_mul_lt_mul_right hupper hscale.le
  have hyge : b = 0 ∨ (2 ^ F.fraction : ℚ) ≤ y :=
    hlower.imp_right fun h => le_of_mul_le_mul_right h hscale
  have hkle : k ≤ 2 ^ (F.fraction + 1) := by
    have hcast : (2 * k : ℚ) < 2 * 2 ^ (F.fraction + 1) + 1 := by linarith
    have hnat : 2 * k < 2 * 2 ^ (F.fraction + 1) + 1 := by exact_mod_cast hcast
    omega
  have hkge : b = 0 ∨ 2 ^ F.fraction ≤ k := by
    refine hyge.imp_right fun h => ?_
    have hcast : (2 * 2 ^ F.fraction : ℚ) ≤ 2 * k + 1 := by linarith
    have hnat : 2 * 2 ^ F.fraction ≤ 2 * k + 1 := by exact_mod_cast hcast
    omega
  obtain ⟨hlow, hatlow⟩ := BinaryFormat.midpoint_below hkle hkge hpos hyge hnear
  obtain ⟨hhigh, hathigh⟩ := BinaryFormat.midpoint_above hkle hkge hylt hnear'
  refine ⟨hlow, hhigh, fun hmid => BinaryFormat.even_rank hF b ?_⟩
  rcases hmid with heq | heq
  · rcases hatlow heq with rfl | hhalf
    · rfl
    · exact htie (.inl hhalf)
  · exact htie (.inr (hathigh heq))

/-- Rounding gives the number whose rank a ratio rounds to. -/
theorem round_eq (hF : 0 < F.fraction) (hd : 0 < d) {r : ℕ} (h : F.RoundsTo (n / d) r)
    (neg : Bool) : (round neg n d : Binary F) = ofRank neg r := by
  unfold round
  rw [twoTo_eq]
  exact congrArg (ofRank neg) ((roundsTo_rank hF n hd rfl rfl).eq h)

/-- Rounding gives a number. -/
lemma isNaN_round (neg : Bool) (n d : ℕ) : (round neg n d : Binary F).isNaN = false := by
  unfold round ofRank
  dsimp only
  split <;> rfl

end Binary

end Dossier
