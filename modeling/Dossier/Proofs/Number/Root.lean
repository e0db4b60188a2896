import Mathlib.Data.Nat.Sqrt
import Dossier.Proofs.Number.Monotone

/-!
# Square roots keep the order

The integer square root is the greatest number whose square is not above its argument
(`squareRoot_eq_sqrt`).  The root of a number without a minus sign is twice the integer root, and
one more if that is not exact, rounded; so roots keep the order (`Binary.Unsigned.sqrt_le_sqrt`),
and what holds of the roots of the extreme numbers bounds all others.
-/

namespace Dossier

/-- The integer square root of a number from that of its quarter. -/
lemma squareRoot_spec (n : ℕ) :
    squareRoot n * squareRoot n ≤ n ∧ n < (squareRoot n + 1) * (squareRoot n + 1) := by
  induction n using Nat.strong_induction_on with
  | _ n ih =>
    rw [squareRoot]
    dsimp only
    split
    · rename_i hsmall
      obtain rfl | rfl : n = 0 ∨ n = 1 := by omega
      · decide
      · decide
    · rename_i hlarge
      obtain ⟨hlow, hhigh⟩ := ih (n / 4) (by omega)
      generalize squareRoot (n / 4) = r at hlow hhigh
      have hdouble : 2 * r * (2 * r) = 4 * (r * r) := by ring
      have hnext : (2 * r + 1 + 1) * (2 * r + 1 + 1) = 4 * ((r + 1) * (r + 1)) := by ring
      split
      · rename_i hodd
        exact ⟨hodd, by omega⟩
      · rename_i heven
        exact ⟨by omega, Nat.not_le.mp heven⟩

/-- The integer square root is the greatest number whose square is not above its argument. -/
theorem squareRoot_eq_sqrt (n : ℕ) : squareRoot n = n.sqrt := Nat.eq_sqrt.mpr (squareRoot_spec n)

namespace Binary

variable {F : BinaryFormat} {x y : Binary F}

/-- Twice the integer square root, and one more if the root is not exact. -/
def halfRoots (n : ℕ) : ℕ := 2 * squareRoot n + if squareRoot n * squareRoot n < n then 1 else 0

/-- A greater number has no smaller root. -/
lemma halfRoots_mono {m n : ℕ} (h : m ≤ n) : halfRoots m ≤ halfRoots n := by
  have hroot : squareRoot m ≤ squareRoot n := by
    rw [squareRoot_eq_sqrt, squareRoot_eq_sqrt]
    exact Nat.sqrt_le_sqrt h
  unfold halfRoots
  rcases hroot.lt_or_eq with hlt | heq
  · split <;> split <;> omega
  · rw [heq]
    split <;> split <;> omega

/-- The root of a positive number without a minus sign is rounded. -/
lemma sqrt_finite {a : Fin F.limit} (ha : 0 < a.val) :
    (finite false a : Binary F).sqrt = round false (halfRoots (F.units a <<< F.depth)) 2 := by
  unfold sqrt
  simp only [if_neg (Nat.ne_of_gt ha), Bool.false_eq_true, if_false]
  rfl

/-- Zero is its own root. -/
lemma sqrt_zero {a : Fin F.limit} (ha : a.val = 0) :
    (finite false a : Binary F).sqrt = finite false a := by
  unfold sqrt
  exact if_pos ha

/-- The root of a number without a minus sign has none. -/
lemma Unsigned.sqrt (hx : x.Unsigned) : x.sqrt.Unsigned := by
  cases hx with
  | number a =>
    rcases Nat.eq_zero_or_pos a.val with hzero | hpos
    · rw [sqrt_zero hzero]
      exact .number a
    · rw [sqrt_finite hpos]
      exact unsigned_round _ _
  | infinity => exact .infinity

/-- Roots keep the order. -/
theorem Unsigned.sqrt_le_sqrt (hF : 0 < F.fraction) (hx : x.Unsigned) (hy : y.Unsigned)
    (h : x.totalPlace ≤ y.totalPlace) : x.sqrt.totalPlace ≤ y.sqrt.totalPlace := by
  cases hy with
  | infinity => exact hx.sqrt.totalPlace_le
  | number b =>
    obtain ⟨a, rfl, -⟩ := hx.exists_finite (h.trans_lt (Int.ofNat_lt.mpr b.isLt))
    have hab : a.val ≤ b.val := Int.ofNat_le.mp h
    rcases Nat.eq_zero_or_pos a.val with hzero | hpos
    · have hroot := (Unsigned.number b).sqrt.totalPlace_nonneg
      rw [sqrt_zero hzero]
      exact (Int.ofNat_eq_zero.mpr hzero).trans_le hroot
    · rw [sqrt_finite hpos, sqrt_finite (hpos.trans_le hab)]
      refine round_le_round hF Nat.two_pos Nat.two_pos (Nat.mul_le_mul_right _ (halfRoots_mono ?_))
      rw [Nat.shiftLeft_eq, Nat.shiftLeft_eq]
      exact Nat.mul_le_mul_right _ (F.units_strictMono.monotone hab)

/-- Products keep the order in both factors. -/
lemma finite_mul_le_finite_mul (hF : 0 < F.fraction) {a b c d : Fin F.limit} (hac : a ≤ c)
    (hbd : b ≤ d) : (finite false a * finite false b : Binary F).totalPlace ≤
      (finite false c * finite false d : Binary F).totalPlace := by
  have hcomm : ∀ m n : Fin F.limit,
      (finite false m * finite false n : Binary F) = finite false n * finite false m := fun m n => by
    rw [finite_mul_finite, finite_mul_finite, Nat.mul_comm]
  calc (finite false a * finite false b : Binary F).totalPlace
      ≤ (finite false a * finite false d : Binary F).totalPlace := finite_mul_le_mul hF a hbd
    _ = (finite false d * finite false a : Binary F).totalPlace := by rw [hcomm]
    _ ≤ (finite false d * finite false c : Binary F).totalPlace := finite_mul_le_mul hF d hac
    _ = (finite false c * finite false d : Binary F).totalPlace := by rw [hcomm]

end Binary

namespace Single

open Binary

variable {x y : Single}

/-! ### Products of roots

A squared length that is finite and not vanishing has a root between that of the bound on vanishing
lengths and that of the greatest number. -/

/-- The root of the bound on vanishing lengths. -/
def leastRoot : Fin BinaryFormat.single.limit := ⟨968164595, by decide⟩

/-- The root of the greatest number. -/
def greatestRoot : Fin BinaryFormat.single.limit := ⟨1602224127, by decide⟩

/-- The bound on vanishing lengths is not negative. -/
lemma unsigned_epsilon : epsilon.Unsigned := unsigned_round (1 <<< 149) (twoTo 23)

/-- A finite number that is not vanishing has a root between the extremes. -/
lemma exists_root_eq (hx : x.Unsigned) (hlow : x.le epsilon = false) (hhigh : x.isFinite = true) :
    ∃ r, x.sqrt = finite false r ∧ leastRoot ≤ r ∧ r ≤ greatestRoot := by
  have hfraction : 0 < BinaryFormat.single.fraction := by decide
  have hepsilon : epsilon.sqrt.totalPlace = leastRoot.val := by decide +kernel
  let greatest : Single := finite false ⟨BinaryFormat.single.limit - 1, by decide⟩
  have hgreatest : greatest.sqrt.totalPlace = greatestRoot.val := by decide +kernel
  have habove : epsilon.totalPlace ≤ x.totalPlace := by
    rw [← Bool.not_eq_true, hx.le_iff unsigned_epsilon] at hlow
    omega
  have hbelow : x.totalPlace ≤ greatest.totalPlace := by
    cases hx with
    | number r => exact Int.ofNat_le.mpr (Nat.le_pred_of_lt r.isLt)
    | infinity => cases hhigh
  have hleast := unsigned_epsilon.sqrt_le_sqrt hfraction hx habove
  have hmost := hx.sqrt_le_sqrt hfraction (.number _) hbelow
  rw [hepsilon] at hleast
  rw [hgreatest] at hmost
  obtain ⟨r, hr, hplace⟩ := hx.sqrt.exists_finite (hmost.trans_lt (by decide))
  rw [hplace] at hleast hmost
  exact ⟨r, hr, Int.ofNat_le.mp hleast, Int.ofNat_le.mp hmost⟩

/-- The product of the roots of finite numbers that are not vanishing is finite and positive. -/
theorem exists_sqrt_mul_sqrt (hx : x.Unsigned) (hxlow : x.le epsilon = false)
    (hxhigh : x.isFinite = true) (hy : y.Unsigned) (hylow : y.le epsilon = false)
    (hyhigh : y.isFinite = true) : ∃ c, x.sqrt * y.sqrt = finite false c ∧ 0 < c.val := by
  have hfraction : 0 < BinaryFormat.single.fraction := by decide
  obtain ⟨r, hr, hrlow, hrhigh⟩ := exists_root_eq hx hxlow hxhigh
  obtain ⟨s, hs, hslow, hshigh⟩ := exists_root_eq hy hylow hyhigh
  rw [hr, hs]
  have hpos : (0 : ℤ) < (finite false leastRoot * finite false leastRoot : Single).totalPlace := by
    decide +kernel
  have hfinite : (finite false greatestRoot * finite false greatestRoot : Single).totalPlace <
      BinaryFormat.single.limit := by decide +kernel
  have hleast := finite_mul_le_finite_mul hfraction hrlow hslow
  have hmost := finite_mul_le_finite_mul hfraction hrhigh hshigh
  have hunsigned : (finite false r * finite false s : Single).Unsigned := unsigned_round _ _
  obtain ⟨c, hc, hplace⟩ := hunsigned.exists_finite (hmost.trans_lt hfinite)
  rw [hplace] at hleast
  exact ⟨c, hc, Int.natCast_pos.mp (hpos.trans_le hleast)⟩

end Single

end Dossier
