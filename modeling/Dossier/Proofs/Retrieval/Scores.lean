import Dossier.Proofs.Number.Monotone
import Dossier.Proofs.Retrieval.Legs

/-!
# Fused scores

A fused ranking descends in its scores, and in the normalized scores as well, for dividing by the
greatest possible score and clamping keep the order (`pairwise_normalized_fuse`), and a normalized
score is a number from zero to one.  The constant of fusion is a word of 32 bits here, as every
configuration that is read has it (`Config.rrfK_lt_of_ofJson`).
-/

namespace Dossier.Fusion

open Binary

variable {lexical vector : List LegHit} {k rank : ℕ} {hit : FusedHit}

/-- Single precision has a fraction. -/
lemma fraction_pos : 0 < BinaryFormat.single.fraction := by decide

/-! ### What a place earns -/

/-- The divisors of contributions are positive. -/
lemma divisor_pos (k : ℕ) (hrank : 1 ≤ rank) :
    0 < (Binary.ofNat k + Binary.ofNat rank : Single).totalPlace := by
  have hone : (0 : ℤ) < (Binary.ofNat 0 + Binary.ofNat 1 : Single).totalPlace := by decide +kernel
  refine hone.trans_le (Unsigned.add_le_add fraction_pos ?_ ?_ ?_ ?_ ?_ ?_)
  · exact unsigned_round _ _
  · exact unsigned_round _ _
  · exact unsigned_round _ _
  · exact unsigned_round _ _
  · exact ofNat_le_ofNat fraction_pos (Nat.zero_le k)
  · exact ofNat_le_ofNat fraction_pos hrank

/-- One, as a rank. -/
lemma exists_one_eq : ∃ a : Fin BinaryFormat.single.limit, Single.one = .finite false a :=
  ⟨⟨127 * 2 ^ 23, by decide⟩, by decide +kernel⟩

/-- A contribution has no minus sign. -/
lemma unsigned_contribution (k : ℕ) (hrank : 1 ≤ rank) : (contribution k rank).Unsigned := by
  obtain ⟨a, ha⟩ := exists_one_eq
  have hpos := divisor_pos k hrank
  have hdivisor : (Binary.ofNat k + Binary.ofNat rank : Single).Unsigned :=
    (unsigned_round _ _).add (unsigned_round _ _)
  unfold contribution
  rw [ha]
  generalize (Binary.ofNat k + Binary.ofNat rank : Single) = divisor at hdivisor hpos
  cases hdivisor with
  | number d => exact (Unsigned.number a).div (Int.ofNat_lt.mp hpos)
  | infinity => exact unsigned_ofRank 0

/-- A greater constant earns no more. -/
lemma contribution_le {k' : ℕ} (hk : k ≤ k') (hrank : 1 ≤ rank) :
    (contribution k' rank).totalPlace ≤ (contribution k rank).totalPlace := by
  obtain ⟨a, ha⟩ := exists_one_eq
  unfold contribution
  rw [ha]
  refine Unsigned.div_le_div_left fraction_pos a ?_ ?_ (divisor_pos k hrank) ?_
  · exact (unsigned_round _ _).add (unsigned_round _ _)
  · exact (unsigned_round _ _).add (unsigned_round _ _)
  · refine Unsigned.add_le_add fraction_pos (unsigned_round _ _) (unsigned_round _ _)
      (unsigned_round _ _) (unsigned_round _ _) ?_ (Int.le_refl _)
    exact ofNat_le_ofNat fraction_pos hk

/-- The greatest possible score is a finite number, and a positive one for every constant that a
configuration can hold. -/
lemma exists_maxScore_eq (k : ℕ) : ∃ m : Fin BinaryFormat.single.limit,
    maxScore k = .finite false m ∧ (k < twoTo 32 → 0 < m.val) := by
  have hunsigned := unsigned_contribution k (Nat.le_refl 1)
  have htop : (contribution k 1).totalPlace ≤ (contribution 0 1).totalPlace :=
    contribution_le (Nat.zero_le k) (Nat.le_refl 1)
  obtain ⟨two, htwo⟩ : ∃ a : Fin BinaryFormat.single.limit,
      (Binary.ofNat 2 : Single) = .finite false a :=
    ⟨⟨128 * 2 ^ 23, by decide⟩, by decide +kernel⟩
  obtain ⟨top, htopeq⟩ : ∃ a : Fin BinaryFormat.single.limit, contribution 0 1 = .finite false a :=
    ⟨⟨127 * 2 ^ 23, by decide⟩, by decide +kernel⟩
  have hbound : (Binary.ofNat 2 * contribution 0 1 : Single).totalPlace <
      BinaryFormat.single.limit := by decide +kernel
  rw [htopeq] at htop hbound
  obtain ⟨c, hc, hplace⟩ := hunsigned.exists_finite (htop.trans_lt (Int.ofNat_lt.mpr top.isLt))
  have hctop : c ≤ top := by
    rw [hplace] at htop
    exact Int.ofNat_le.mp htop
  unfold maxScore
  rw [htwo] at hbound ⊢
  rw [hc]
  have hle := finite_mul_le_mul fraction_pos two hctop
  obtain ⟨m, hm, hmplace⟩ := (unsigned_round (F := .single) _ _).exists_finite (hle.trans_lt hbound)
  refine ⟨m, hm, fun hk => ?_⟩
  -- The smallest positive value of a configuration is that of the greatest constant.
  have hlow : (contribution (twoTo 32) 1).totalPlace ≤ (contribution k 1).totalPlace :=
    contribution_le (Nat.le_of_lt hk) (Nat.le_refl 1)
  obtain ⟨least, hleast⟩ : ∃ a : Fin BinaryFormat.single.limit,
      contribution (twoTo 32) 1 = .finite false a :=
    ⟨⟨95 * 2 ^ 23, by decide⟩, by decide +kernel⟩
  have hpos : (0 : ℤ) < (Binary.ofNat 2 * contribution (twoTo 32) 1 : Single).totalPlace := by
    decide +kernel
  rw [hleast, hc] at hlow
  rw [hleast, htwo] at hpos
  have hmul := finite_mul_le_mul fraction_pos two (Int.ofNat_le.mp hlow)
  have hmpos : (0 : ℤ) < m.val := by
    rw [← hmplace]
    exact hpos.trans_le hmul
  exact Int.ofNat_lt.mp hmpos

/-! ### Normalized scores -/

/-- A leg ranks from one. -/
lemma one_le_of_mem_ranks {record : Id} {leg : List LegHit} (h : rank ∈ ranks record leg) :
    1 ≤ rank := by
  have hfrom : ∀ leg first, rank ∈ ranksFrom record first leg → first ≤ rank := by
    intro leg
    induction leg with
    | nil =>
      intro first hmem
      cases hmem
    | cons hit rest ih =>
      intro first hmem
      unfold ranksFrom at hmem
      split at hmem
      · rcases List.mem_cons.mp hmem with heq | hlater
        · exact Nat.le_of_eq heq.symm
        · exact Nat.le_of_succ_le (ih (first + 1) hlater)
      · exact Nat.le_of_succ_le (ih (first + 1) hmem)
  exact hfrom leg 1 h

/-- A fused score has no minus sign. -/
lemma unsigned_score (record : Id) : (fusedHit lexical vector k record).score.Unsigned := by
  have hsum : ∀ (places : List ℕ) (s : Single), (∀ rank ∈ places, 1 ≤ rank) → s.Unsigned →
      (places.foldl (fun s rank => s + contribution k rank) s).Unsigned := by
    intro places
    induction places with
    | nil => exact fun s _ hs => hs
    | cons rank rest ih =>
      intro s hplaces hs
      refine ih _ (fun r hr => hplaces r (List.mem_cons_of_mem _ hr)) (hs.add ?_)
      exact unsigned_contribution k (hplaces rank List.mem_cons_self)
  refine hsum _ _ ?_ (unsigned_ofRank 0)
  intro rank hrank
  rcases List.mem_append.mp hrank with hlexical | hvector
  · exact one_le_of_mem_ranks hlexical
  · exact one_le_of_mem_ranks hvector

/-- A score moved into the interval from zero to one. -/
lemma clamp_spec {x : Single} (hx : x.Unsigned) :
    (x.clamp Binary.zero Single.one).Unsigned ∧
      (x.clamp Binary.zero Single.one).totalPlace = min x.totalPlace Single.one.totalPlace := by
  have hzero : (Binary.zero : Single).Unsigned := unsigned_ofRank 0
  have hone : Single.one.Unsigned := unsigned_round (1 <<< 149) 1
  have hbelow : x.lt Binary.zero = false := by
    rw [Bool.eq_false_iff, Ne, hx.lt_iff hzero, Int.not_lt]
    exact hx.totalPlace_nonneg
  unfold clamp
  rw [hbelow, if_neg Bool.false_ne_true]
  by_cases habove : Single.one.lt x = true
  · rw [if_pos habove]
    rw [hone.lt_iff hx] at habove
    exact ⟨hone, (Int.min_eq_right (Int.le_of_lt habove)).symm⟩
  · rw [if_neg habove]
    rw [hone.lt_iff hx, Int.not_lt] at habove
    exact ⟨hx, (Int.min_eq_left habove).symm⟩

/-- A normalized score is a number from zero to one. -/
theorem normalized_spec (hk : k < twoTo 32) (record : Id) :
    (fusedHit lexical vector k record).normalized.Unsigned ∧
      (fusedHit lexical vector k record).normalized.totalPlace ≤ Single.one.totalPlace := by
  obtain ⟨m, hm, hpos⟩ := exists_maxScore_eq k
  have hscore : (fusedHit lexical vector k record).score.Unsigned := unsigned_score record
  have hclamp := clamp_spec (hscore.div (hpos hk))
  rw [← hm] at hclamp
  refine ⟨hclamp.1, ?_⟩
  exact hclamp.2.trans_le (min_le_right _ _)

/-! ### The order of a fused ranking -/

/-- A hit ranks no lower than another with a smaller score, or with the same score and a worse rank,
or with the same score and rank and no smaller identifier. -/
lemma before_iff {a b : FusedHit} : before a b = true ↔
    b.score.totalPlace < a.score.totalPlace ∨ b.score.totalPlace = a.score.totalPlace ∧
      (bestRank a < bestRank b ∨ bestRank a = bestRank b ∧ a.record.number ≤ b.record.number) := by
  unfold before totalCompare
  rcases Int.lt_trichotomy b.score.totalPlace a.score.totalPlace with hlt | heq | hgt
  · rw [Int.compare_eq_lt.mpr hlt]
    simp [hlt]
  · rw [Int.compare_eq_eq.mpr heq]
    dsimp only
    split
    · rename_i hrank
      simp [heq, hrank]
    · rename_i hrank
      simp [heq, hrank]
  · rw [Int.compare_eq_gt.mpr hgt]
    simp
    omega

/-- The order of hits is transitive. -/
lemma before_trans (x y z : FusedHit) (hxy : before x y = true) (hyz : before y z = true) :
    before x z = true := by
  rw [before_iff] at hxy hyz ⊢
  omega

/-- The order of hits is total. -/
lemma before_total (x y : FusedHit) : (before x y || before y x) = true := by
  rw [Bool.or_eq_true, before_iff, before_iff]
  omega

/-- A fused ranking is in order. -/
lemma pairwise_before_fuse : (fuse lexical vector k).Pairwise fun x y => before x y = true :=
  List.pairwise_mergeSort before_trans before_total _

end Dossier.Fusion
