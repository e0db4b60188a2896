import Dossier.Proofs.Retrieval.Scores

/-!
# Rankings without a vector leg

A ranking that is fused with an empty one keeps its order.  For a great constant of fusion the
scores of neighbouring places are the same number, but they never ascend, and places with equal
scores are ordered by their ranks; so the order is kept for every constant and every length
(`fuse_nil`).
-/

namespace Dossier

/-- A list in which no identifier stands twice has no repetitions to leave out. -/
lemma eraseDups_of_nodup {ids : List Id} (h : ids.Nodup) : ids.eraseDups = ids := by
  induction ids with
  | nil => rfl
  | cons id rest ih =>
    obtain ⟨hnew, hrest⟩ := List.nodup_cons.mp h
    have hkept : rest.filter (fun other => !other == id) = rest := by
      refine List.filter_eq_self.mpr fun other hother => ?_
      simpa using ne_of_mem_of_not_mem hother hnew
    rw [List.eraseDups_cons, hkept, ih hrest]

namespace Fusion

open Binary

variable {k rank : ℕ} {leg : List LegHit}

/-- A record as a fused ranking has it that the lexical leg alone ranks. -/
def single (k rank : ℕ) (hit : LegHit) : FusedHit where
  record := hit.record
  score := Binary.zero + contribution k rank
  normalized := ((Binary.zero + contribution k rank) / maxScore k).clamp Binary.zero Single.one
  method := .lexical
  lexicalRank := some rank
  vectorRank := none
  chunks := hit.chunks

/-! ### One leg -/

/-- A later place earns no more. -/
lemma contribution_le_of_rank {rank' : ℕ} (hrank : 1 ≤ rank) (hle : rank ≤ rank') :
    (contribution k rank').totalPlace ≤ (contribution k rank).totalPlace := by
  obtain ⟨a, ha⟩ := exists_one_eq
  unfold contribution
  rw [ha]
  refine Unsigned.div_le_div_left fraction_pos a ?_ ?_ (divisor_pos k hrank) ?_
  · exact (unsigned_round _ _).add (unsigned_round _ _)
  · exact (unsigned_round _ _).add (unsigned_round _ _)
  · refine Unsigned.add_le_add fraction_pos (unsigned_round _ _) (unsigned_round _ _)
      (unsigned_round _ _) (unsigned_round _ _) (Int.le_refl _) ?_
    exact ofNat_le_ofNat fraction_pos hle

/-- Records that a leg alone ranks do not ascend in their scores. -/
lemma single_score_le {rank' : ℕ} (hrank : 1 ≤ rank) (hle : rank ≤ rank') (hit hit' : LegHit) :
    (single k rank' hit').score.totalPlace ≤ (single k rank hit).score.totalPlace := by
  have hzero : (Binary.zero : Single).Unsigned := unsigned_ofRank 0
  exact Unsigned.add_le_add fraction_pos hzero hzero (unsigned_contribution k (hrank.trans hle))
    (unsigned_contribution k hrank) (Int.le_refl _) (contribution_le_of_rank hrank hle)

/-- A record that the leg alone ranks comes before those that it ranks later. -/
lemma before_single {rank' : ℕ} (hrank : 1 ≤ rank) (hlt : rank < rank') (hit hit' : LegHit) :
    before (single k rank hit) (single k rank' hit') = true := by
  rw [before_iff]
  rcases (single_score_le (k := k) hrank (Nat.le_of_lt hlt) hit hit').lt_or_eq with hless | hsame
  · exact .inl hless
  · exact .inr ⟨hsame, .inl hlt⟩

/-- A record has no rank in a leg that does not have it. -/
lemma ranksFrom_of_not_mem {record : Id} (h : record ∉ leg.map LegHit.record) (first : ℕ) :
    ranksFrom record first leg = [] := by
  induction leg generalizing first with
  | nil => rfl
  | cons hit rest ih =>
    rw [List.map_cons, List.mem_cons, not_or] at h
    unfold ranksFrom
    rw [if_neg fun heq => h.1 heq.symm]
    exact ih h.2 _

/-- A leg that names records once gives each of them its place. -/
lemma ranksFrom_of_nodup (h : (leg.map LegHit.record).Nodup) {i : ℕ} {hit : LegHit}
    (hhit : leg[i]? = some hit) (first : ℕ) : ranksFrom hit.record first leg = [first + i] := by
  induction leg generalizing i first with
  | nil => cases hhit
  | cons head rest ih =>
    obtain ⟨hnew, hrest⟩ := List.nodup_cons.mp h
    unfold ranksFrom
    cases i with
    | zero =>
      rw [List.getElem?_cons_zero] at hhit
      obtain rfl := Option.some.inj hhit
      rw [if_pos rfl, ranksFrom_of_not_mem hnew, Nat.add_zero]
    | succ i =>
      rw [List.getElem?_cons_succ] at hhit
      have hne : head.record ≠ hit.record := fun heq =>
        hnew (heq ▸ List.mem_map_of_mem (List.mem_of_getElem? hhit))
      rw [if_neg hne, ih hrest hhit, Nat.add_assoc, Nat.add_comm 1 i]

/-- A leg that names records once names for each of them the chunks of its place. -/
lemma chunksOf_of_nodup (h : (leg.map LegHit.record).Nodup) {hit : LegHit} (hhit : hit ∈ leg) :
    chunksOf hit.record leg = hit.chunks := by
  induction leg with
  | nil => cases hhit
  | cons head rest ih =>
    obtain ⟨hnew, hrest⟩ := List.nodup_cons.mp h
    have hsplit : chunksOf hit.record (head :: rest) =
        (if head.record == hit.record then head.chunks else []) ++ chunksOf hit.record rest := by
      unfold chunksOf
      rw [List.filter_cons]
      split <;> rfl
    rw [hsplit]
    rcases List.mem_cons.mp hhit with rfl | hlater
    · rw [if_pos (beq_self_eq_true _), chunksOf_of_not_mem hnew, List.append_nil]
    · have hne : ¬ (head.record == hit.record) = true := fun heq =>
        hnew (eq_of_beq heq ▸ List.mem_map_of_mem hlater)
      rw [if_neg hne, List.nil_append]
      exact ih hrest hlater

/-- What an empty vector leg makes of a record of the lexical leg. -/
lemma fusedHit_nil (h : (leg.map LegHit.record).Nodup) {i : ℕ} {hit : LegHit}
    (hhit : leg[i]? = some hit) (hchunks : hit.chunks.Nodup) :
    fusedHit leg [] k hit.record = single k (i + 1) hit := by
  have hranks : ranks hit.record leg = [i + 1] := by
    unfold ranks
    rw [ranksFrom_of_nodup h hhit, Nat.add_comm]
  have hnone : ranks hit.record [] = [] := rfl
  have hnamed : chunksOf hit.record leg = hit.chunks := chunksOf_of_nodup h (List.mem_of_getElem? hhit)
  have hnothing : chunksOf hit.record [] = [] := rfl
  unfold fusedHit single
  dsimp only
  rw [hranks, hnone, hnamed, hnothing, List.append_nil, List.append_nil,
    eraseDups_of_nodup hchunks, List.foldl_cons, List.foldl_nil, List.getLast?_singleton,
    List.getLast?_nil, methodOf]

/-- A lexical ranking of records, each named once and with chunks that it names once, keeps its
order and its chunks when it is fused with an empty vector ranking. -/
theorem fuse_nil (k : ℕ) (h : (leg.map LegHit.record).Nodup)
    (hchunks : ∀ hit ∈ leg, hit.chunks.Nodup) :
    fuse leg [] k = leg.mapIdx fun i hit => single k (i + 1) hit := by
  have hmap : (leg.map LegHit.record).map (fusedHit leg [] k) =
      leg.mapIdx fun i hit => single k (i + 1) hit := by
    refine List.ext_getElem? fun i => ?_
    rw [List.map_map, List.getElem?_map, List.getElem?_mapIdx]
    rcases hhit : leg[i]? with _ | hit
    · rw [Option.map_none, Option.map_none]
    · rw [Option.map_some, Option.map_some, Function.comp_apply,
        fusedHit_nil h hhit (hchunks hit (List.mem_of_getElem? hhit))]
  unfold fuse
  rw [List.append_nil, eraseDups_of_nodup h]
  dsimp only
  rw [hmap]
  refine List.mergeSort_of_pairwise (List.pairwise_iff_getElem.mpr fun i j hi hj hij => ?_)
  rw [List.getElem_mapIdx, List.getElem_mapIdx]
  exact before_single (Nat.succ_le_succ (Nat.zero_le i)) (Nat.succ_lt_succ hij) _ _

end Fusion

end Dossier
