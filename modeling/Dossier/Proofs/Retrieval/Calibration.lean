import Dossier.Proofs.Retrieval.Fusion

/-!
# The scale of normalized scores

A first place in both legs earns the greatest possible score, which is exactly twice what it earns
in one leg, for doubling loses nothing.  So the greatest normalized score is one, a record of one
leg has at most a half, and both bounds are met exactly by first places, whatever the constant of
fusion (`calibrated_of_mem_fuse`).
-/

namespace Dossier

/-- A half. -/
def Single.half : Single := Binary.ofRatio 1 2

/-- A half has no minus sign. -/
lemma Single.unsigned_half : Single.half.Unsigned := Binary.unsigned_round (1 <<< 149) 2

namespace Fusion

open Binary

variable {lexical vector leg : List LegHit} {k : ℕ} {hit : FusedHit} {record : Id} {x : Single}

/-- The greatest possible score is exactly twice what a first place earns, and both are positive. -/
lemma exists_first_eq (hk : k < twoTo 32) : ∃ c m : Fin BinaryFormat.single.limit,
    contribution k 1 = .finite false c ∧ maxScore k = .finite false m ∧ 0 < m.val ∧
      BinaryFormat.single.units m = 2 * BinaryFormat.single.units c ∧
      contribution k 1 + contribution k 1 = maxScore k := by
  obtain ⟨m, hm, hpos⟩ := exists_maxScore_eq k
  have htop : (contribution k 1).totalPlace ≤ (contribution 0 1).totalPlace :=
    contribution_le (Nat.zero_le k) (Nat.le_refl 1)
  have hbound : (contribution 0 1).totalPlace < BinaryFormat.single.limit := by decide +kernel
  obtain ⟨c, hc, -⟩ :=
    (unsigned_contribution k (Nat.le_refl 1)).exists_finite (htop.trans_lt hbound)
  obtain ⟨two, htwo, hunits⟩ : ∃ a : Fin BinaryFormat.single.limit,
      (Binary.ofNat 2 : Single) = .finite false a ∧
        BinaryFormat.single.units a = 2 * 2 ^ BinaryFormat.single.depth :=
    ⟨⟨128 * 2 ^ 23, by decide⟩, by decide +kernel, by decide +kernel⟩
  obtain ⟨s, hs, hmul, hadd⟩ := exists_double_eq fraction_pos hunits c
  have hmax : maxScore k = ofRank false s := by
    unfold maxScore
    rw [htwo, hc, hmul]
  have hrank : s = m.val := by
    rw [hm] at hmax
    unfold ofRank at hmax
    split at hmax
    · cases hmax
      rfl
    · cases hmax
  refine ⟨c, m, hc, hm, hpos hk, by rw [← hrank, hs], ?_⟩
  rw [hc, hadd, hmax]

/-- A place earns no more than the first one. -/
lemma gain_le_first (k : ℕ) (record : Id) (leg : List LegHit) :
    (gain k (place? record leg)).totalPlace ≤ (contribution k 1).totalPlace := by
  rcases hplace : place? record leg with _ | rank
  · rw [gain, totalPlace_zero]
    exact (unsigned_contribution k (Nat.le_refl 1)).totalPlace_nonneg
  · exact contribution_le_of_rank (Nat.le_refl 1) (one_le_of_place? hplace)

/-- A record earns no more than the greatest possible score. -/
lemma earned_le_maxScore (hk : k < twoTo 32) (record : Id) (lexical vector : List LegHit) :
    (earned k (place? record lexical) (place? record vector)).totalPlace ≤
      (maxScore k).totalPlace := by
  obtain ⟨c, m, -, -, -, -, hsum⟩ := exists_first_eq hk
  have hfirst := unsigned_contribution k (Nat.le_refl 1)
  rw [earned_eq, ← hsum]
  exact Unsigned.add_le_add fraction_pos (unsigned_gain k record lexical) hfirst
    (unsigned_gain k record vector) hfirst (gain_le_first k record lexical)
    (gain_le_first k record vector)

/-- A record of at most one leg earns no more than a first place in one leg. -/
lemma earned_le_first (h : place? record lexical = none ∨ place? record vector = none) :
    (earned k (place? record lexical) (place? record vector)).totalPlace ≤
      (contribution k 1).totalPlace := by
  rw [earned_eq]
  rcases h with hnone | hnone
  · rw [hnone, gain, (unsigned_gain k record vector).zero_add fraction_pos]
    exact gain_le_first k record vector
  · have hzero : gain k none = Binary.zero := by rw [gain]
    rw [hnone, hzero, (unsigned_gain k record lexical).add_zero fraction_pos]
    exact gain_le_first k record lexical

/-- What a first place in one leg earns is half of the greatest possible score. -/
lemma first_div_maxScore (hk : k < twoTo 32) : contribution k 1 / maxScore k = Single.half := by
  obtain ⟨c, m, hc, hm, hpos, hunits, -⟩ := exists_first_eq hk
  rw [hc, hm]
  refine finite_div_finite_eq_ofRatio fraction_pos hpos (by decide) ?_
  rw [hunits]
  ring

/-- The greatest possible score is the whole of itself. -/
lemma maxScore_div_maxScore (hk : k < twoTo 32) : maxScore k / maxScore k = Single.one := by
  obtain ⟨c, m, -, hm, hpos, -, -⟩ := exists_first_eq hk
  have hone : Single.one = Binary.ofRatio 1 1 := by
    unfold Single.one Binary.ofNat Binary.ofRatio
    rfl
  rw [hm, hone]
  refine finite_div_finite_eq_ofRatio fraction_pos hpos Nat.one_pos ?_
  rw [Nat.mul_one, Nat.one_mul]

/-- A score no greater than another is no greater part of the greatest possible score. -/
lemma div_maxScore_le (hk : k < twoTo 32) {y : Single} (hx : x.Unsigned) (hy : y.Unsigned)
    (h : x.totalPlace ≤ y.totalPlace) :
    (x / maxScore k).Unsigned ∧ (x / maxScore k).totalPlace ≤ (y / maxScore k).totalPlace := by
  obtain ⟨m, hm, hpos⟩ := exists_maxScore_eq k
  rw [hm]
  exact ⟨hx.div (hpos hk), hx.div_le_div fraction_pos hy (hpos hk) h⟩

/-- Clamping leaves numbers up to one alone. -/
lemma clamp_eq_self (hx : x.Unsigned) (h : x.totalPlace ≤ Single.one.totalPlace) :
    x.clamp Binary.zero Single.one = x := by
  obtain ⟨hunsigned, hplace⟩ := clamp_spec hx
  refine hunsigned.eq_of_totalPlace hx ?_
  rw [hplace]
  exact min_eq_left h

/-- The scale on which a fused ranking of two legs scores a record. -/
structure Calibrated (lexical vector : List LegHit) (k : ℕ) (hit : FusedHit) : Prop where
  /-- Its score is at most the greatest possible one. -/
  bounded : hit.score.le (maxScore k) = true
  /-- Its normalized score is its part of the greatest possible score, and clamping changes
  nothing. -/
  exact : hit.normalized = hit.score / maxScore k
  /-- Its normalized score is a number from zero to one. -/
  unit : Binary.zero.le hit.normalized = true ∧ hit.normalized.le Single.one = true
  /-- A record of one leg has at most a half. -/
  single : place? hit.record lexical = none ∨ place? hit.record vector = none →
    hit.normalized.le Single.half = true
  /-- The first of one leg has exactly a half, if the other leg does not have it. -/
  first : place? hit.record lexical = some 1 ∧ place? hit.record vector = none ∨
    place? hit.record lexical = none ∧ place? hit.record vector = some 1 →
      hit.normalized = Single.half
  /-- The first of both legs has exactly one. -/
  top : place? hit.record lexical = some 1 → place? hit.record vector = some 1 →
    hit.normalized = Single.one

/-- The hits of a fused ranking are on this scale. -/
theorem calibrated_of_mem_fuse (hk : k < twoTo 32) (hlexical : (lexical.map LegHit.record).Nodup)
    (hvector : (vector.map LegHit.record).Nodup) (h : hit ∈ fuse lexical vector k) :
    Calibrated lexical vector k hit := by
  obtain ⟨c, m, -, hm, -, -, hsum⟩ := exists_first_eq hk
  have htold := told_of_mem_fuse hlexical hvector h
  have hscore := htold.score
  rw [htold.lexicalRank, htold.vectorRank] at hscore
  have hunsigned := unsigned_of_mem_fuse h
  have hfirst := unsigned_contribution k (Nat.le_refl 1)
  have hmax : (maxScore k).Unsigned := by
    rw [hm]
    exact .number m
  have hbounded : hit.score.totalPlace ≤ (maxScore k).totalPlace := by
    rw [hscore]
    exact earned_le_maxScore hk hit.record lexical vector
  obtain ⟨hpart, hle⟩ := div_maxScore_le hk hunsigned hmax hbounded
  rw [maxScore_div_maxScore hk] at hle
  have hnormalized : hit.normalized = hit.score / maxScore k := by
    have hclamp : hit.normalized = (hit.score / maxScore k).clamp Binary.zero Single.one := by
      rw [eq_fusedHit_of_mem_fuse h]
      rfl
    rw [hclamp, clamp_eq_self hpart hle]
  have hzero : (Binary.zero : Single).Unsigned := unsigned_ofRank 0
  have hone : Single.one.Unsigned := unsigned_round (1 <<< 149) 1
  refine { bounded := (hunsigned.le_iff hmax).mpr hbounded, exact := hnormalized, unit := ⟨?_, ?_⟩,
           single := ?_, first := ?_, top := ?_ }
  · rw [hnormalized, hzero.le_iff hpart, totalPlace_zero]
    exact hpart.totalPlace_nonneg
  · rw [hnormalized, hpart.le_iff hone]
    exact hle
  · intro hnone
    have hsingle : hit.score.totalPlace ≤ (contribution k 1).totalPlace := by
      rw [hscore]
      exact earned_le_first hnone
    have hdiv := (div_maxScore_le hk hunsigned hfirst hsingle).2
    rw [first_div_maxScore hk] at hdiv
    rw [hnormalized, hpart.le_iff Single.unsigned_half]
    exact hdiv
  · intro hplaces
    rw [hnormalized, hscore, ← first_div_maxScore hk]
    rcases hplaces with ⟨hl, hv⟩ | ⟨hl, hv⟩
    · rw [hl, hv, earned]
    · rw [hl, hv, earned]
  · intro hl hv
    rw [hnormalized, hscore, hl, hv, earned, hsum, maxScore_div_maxScore hk]

end Fusion

end Dossier
