import Dossier.Proofs.Number.Monotone

/-!
# Arithmetic that is exact

A magnitude of a format rounds to itself (`BinaryFormat.roundsTo_units`), and what rounding makes of
a ratio does not depend on how the ratio is written (`Binary.round_congr`).  So a sum with zero, a
number added to itself, and the quotient of two magnitudes that stand in a simple ratio are known
without a look at their digits.
-/

namespace Dossier

namespace BinaryFormat

variable (F : BinaryFormat)

/-- A magnitude rounds to its own rank. -/
lemma roundsTo_units (r : ℕ) : F.RoundsTo (F.units r) r := by
  have hmono := F.units_strictMono.monotone
  have hbelow : (F.units (r - 1) : ℚ) ≤ F.units r := by exact_mod_cast hmono (Nat.sub_le r 1)
  have habove : (F.units r : ℚ) < F.units (r + 1) := by
    exact_mod_cast F.units_strictMono (Nat.lt_succ_self r)
  refine ⟨by linarith, by linarith, ?_⟩
  rintro (hlow | hhigh)
  · -- no midpoint lies on a magnitude, but for the one below zero, which is zero itself
    have hsame : F.units r = F.units (r - 1) := by
      have hrat : (F.units r : ℚ) = F.units (r - 1) := by linarith
      exact_mod_cast hrat
    have hrank : r = r - 1 := F.units_strictMono.injective hsame
    omega
  · linarith

/-- Twice a magnitude is a magnitude. -/
lemma exists_units_double (r : ℕ) : ∃ s, F.units s = 2 * F.units r := by
  obtain ⟨b, k, rfl, hk, hb⟩ := F.exists_binade r
  rw [F.units_binade (Nat.le_of_lt hk) hb]
  by_cases hnormal : 2 ^ F.fraction ≤ k
  · refine ⟨(b + 1) * 2 ^ F.fraction + k, ?_⟩
    rw [F.units_binade (Nat.le_of_lt hk) (.inr hnormal), Nat.pow_succ]
    ring
  · obtain rfl : b = 0 := hb.resolve_right hnormal
    have hdouble : 2 * k ≤ 2 ^ (F.fraction + 1) := by
      rw [Nat.pow_succ]
      omega
    refine ⟨0 * 2 ^ F.fraction + 2 * k, ?_⟩
    rw [F.units_binade hdouble (.inl rfl), Nat.pow_zero, Nat.mul_one, Nat.mul_one]

end BinaryFormat

namespace Binary

variable {F : BinaryFormat} {n d n' d' r : ℕ} {x y : Binary F}

/-- A whole number of units that is a magnitude rounds to this magnitude. -/
lemma round_eq_ofRank (hF : 0 < F.fraction) (hd : 0 < d) (h : n = F.units r * d) (neg : Bool) :
    (round neg n d : Binary F) = ofRank neg r := by
  have hratio : (n / d : ℚ) = F.units r := by
    have hdq : (d : ℚ) ≠ 0 := by exact_mod_cast Nat.ne_of_gt hd
    rw [div_eq_iff hdq]
    exact_mod_cast h
  refine round_eq hF hd ?_ neg
  rw [hratio]
  exact F.roundsTo_units r

/-- Equal ratios round to one number. -/
lemma round_congr (hF : 0 < F.fraction) (hd : 0 < d) (hd' : 0 < d') (h : n * d' = n' * d)
    (neg : Bool) : (round neg n d : Binary F) = round neg n' d' := by
  have hratio : (n / d : ℚ) = n' / d' := by
    have hdq : (d : ℚ) ≠ 0 := by exact_mod_cast Nat.ne_of_gt hd
    have hdq' : (d' : ℚ) ≠ 0 := by exact_mod_cast Nat.ne_of_gt hd'
    rw [div_eq_div_iff hdq hdq']
    exact_mod_cast h
  have hround := roundsTo_rank hF n hd rfl rfl
  have hround' := hround
  rw [hratio] at hround'
  rw [round_eq hF hd hround, round_eq hF hd' hround']

/-- Numbers without a minus sign are told apart by their places. -/
lemma Unsigned.eq_of_totalPlace (hx : x.Unsigned) (hy : y.Unsigned)
    (h : x.totalPlace = y.totalPlace) : x = y := by
  cases hy with
  | number s =>
    obtain ⟨r, rfl, hplace⟩ := hx.exists_finite (h.trans_lt (Int.ofNat_lt.mpr s.isLt))
    have hrank : r.val = s.val := by
      rw [hplace] at h
      exact Int.ofNat.inj h
    rw [Fin.ext hrank]
  | infinity =>
    cases hx with
    | number r => exact absurd (Int.ofNat.inj h) (Nat.ne_of_lt r.isLt)
    | infinity => rfl

/-- Zero, as a rank. -/
lemma exists_zero_eq (hF : 0 < F.limit) : ∃ z : Fin F.limit, (zero : Binary F) = finite false z ∧
    F.units z = 0 := by
  refine ⟨⟨0, hF⟩, ?_, F.units_zero⟩
  unfold zero ofRank
  rw [dif_pos hF]

/-- Zero adds nothing. -/
lemma Unsigned.zero_add (hF : 0 < F.fraction) (hx : x.Unsigned) : zero + x = x := by
  cases hx with
  | number r =>
    obtain ⟨z, hz, hunits⟩ := exists_zero_eq (Nat.zero_lt_of_lt r.isLt)
    have hsum : F.units z + F.units r = F.units r * 1 := by rw [hunits, Nat.zero_add, Nat.mul_one]
    rw [hz, finite_add_finite, round_eq_ofRank hF Nat.one_pos hsum]
    unfold ofRank
    rw [dif_pos r.isLt]
  | infinity =>
    unfold zero ofRank
    split <;> rfl

/-- A sum does not depend on the order of its summands. -/
lemma Unsigned.add_comm (hx : x.Unsigned) (hy : y.Unsigned) : x + y = y + x := by
  cases hx with
  | number a =>
    cases hy with
    | number b => rw [finite_add_finite, finite_add_finite, Nat.add_comm]
    | infinity => rfl
  | infinity => cases hy <;> rfl

/-- Zero may be added on either side. -/
lemma Unsigned.add_zero (hF : 0 < F.fraction) (hx : x.Unsigned) : x + zero = x := by
  have hcomm : x + zero = zero + x := hx.add_comm (unsigned_ofRank 0)
  rw [hcomm]
  exact hx.zero_add hF

/-- Twice a number is the number added to itself, and nothing is lost by it. -/
lemma exists_double_eq (hF : 0 < F.fraction) {two : Fin F.limit}
    (htwo : F.units two = 2 * 2 ^ F.depth) (c : Fin F.limit) : ∃ s, F.units s = 2 * F.units c ∧
      (finite false two * finite false c : Binary F) = ofRank false s ∧
      (finite false c + finite false c : Binary F) = ofRank false s := by
  obtain ⟨s, hs⟩ := F.exists_units_double c
  have hpos : 0 < 1 <<< F.depth := by
    rw [Nat.one_shiftLeft]
    exact Nat.two_pow_pos _
  refine ⟨s, hs, ?_, ?_⟩
  · rw [finite_mul_finite]
    refine round_eq_ofRank hF hpos ?_ false
    rw [htwo, hs, Nat.one_shiftLeft]
    ring
  · rw [finite_add_finite]
    refine round_eq_ofRank hF Nat.one_pos ?_ false
    rw [hs]
    ring

/-- The quotient of two magnitudes is that of their ratio. -/
lemma finite_div_finite_eq_ofRatio (hF : 0 < F.fraction) {a c : Fin F.limit} (hc : 0 < c.val)
    (hd : 0 < d) (h : F.units a * d = n * F.units c) :
    (finite false a / finite false c : Binary F) = ofRatio n d := by
  rw [finite_div_finite a hc]
  refine round_congr hF (units_pos hc) hd ?_ false
  rw [Nat.shiftLeft_eq, Nat.shiftLeft_eq]
  calc F.units a * 2 ^ F.depth * d = F.units a * d * 2 ^ F.depth := by ring
    _ = n * F.units c * 2 ^ F.depth := by rw [h]
    _ = n * 2 ^ F.depth * F.units c := by ring

end Binary

end Dossier
