import Dossier.Proofs.Evidence.Candidates

/-!
# The choice among candidates

Candidates that are chosen descend in their scores, no two of them are near duplicates, and no
record has more of them than it may.  The first one is a candidate with the highest score.  What is
chosen from the first candidates is the beginning of what is chosen from all, provided that the
scores descend already.
-/

namespace Dossier.Candidate

variable {cs cs' : List Candidate} {vectors vectors' : List (Id × Vec)} {threshold : Single}
  {limit : Nat}

/-! ### The order of scores -/

/-- Candidates descend in their scores. -/
def Descends (cs : List Candidate) : Prop :=
  cs.Pairwise fun a b => b.score.totalPlace ≤ a.score.totalPlace

/-- A candidate ranks no lower than another unless its score is smaller. -/
lemma before_iff {a b : Candidate} :
    before a b = true ↔ b.score.totalPlace ≤ a.score.totalPlace := by
  unfold before Binary.totalCompare
  rcases Int.lt_trichotomy b.score.totalPlace a.score.totalPlace with hlt | heq | hgt
  · rw [Int.compare_eq_lt.mpr hlt]
    simp [Int.le_of_lt hlt]
  · rw [Int.compare_eq_eq.mpr heq]
    simp [Int.le_of_eq heq]
  · rw [Int.compare_eq_gt.mpr hgt]
    simp [hgt]

/-- Ranking no lower is transitive. -/
lemma before_trans (a b c : Candidate) (hab : before a b = true) (hbc : before b c = true) :
    before a c = true := by
  rw [before_iff] at hab hbc ⊢
  omega

/-- Of two candidates one ranks no lower than the other. -/
lemma before_total (a b : Candidate) : (before a b || before b a) = true := by
  rw [Bool.or_eq_true, before_iff, before_iff]
  omega

/-- Candidates by their scores descend. -/
lemma descends_byScore (cs : List Candidate) : Descends (byScore cs) :=
  (List.pairwise_mergeSort before_trans before_total cs).imp fun hab => before_iff.mp hab

/-- The first candidate is kept unless it is dropped on its own. -/
lemma exists_foldl_sift_cons_eq {drops : List Candidate → Candidate → Bool} {c : Candidate}
    (hfirst : drops [] c = false) (rest : List Candidate) :
    ∃ more, (c :: rest).foldl (sift drops) [] = c :: more := by
  have halone : sift drops [] c = [c] := if_neg (Bool.eq_false_iff.mp hfirst)
  obtain ⟨more, heq, -⟩ := exists_foldl_sift_eq drops [c] rest
  refine ⟨more, ?_⟩
  rw [List.foldl_cons, halone, heq, List.singleton_append]

/-- What is left of some candidates begins with one of the highest score, provided that a record may
have any. -/
theorem exists_limited_distinct_eq (hlimit : 0 < limit) (hcs : cs ≠ []) :
    ∃ best more, limited limit (distinct vectors threshold cs) = best :: more ∧ best ∈ cs ∧
      ∀ c ∈ cs, c.score.totalPlace ≤ best.score.totalPlace := by
  have hperm := byScore_perm cs
  rcases hsorted : byScore cs with _ | ⟨best, rest⟩
  · rw [hsorted] at hperm
    exact absurd hperm.nil_eq.symm hcs
  have hdescends := descends_byScore cs
  rw [hsorted] at hdescends hperm
  have hnew : duplicates vectors threshold [] best = false := rfl
  obtain ⟨more, hdistinct⟩ := exists_foldl_sift_cons_eq hnew rest
  have hroom : exceeds limit [] best = false := decide_eq_false (Nat.not_le.mpr hlimit)
  obtain ⟨left, hlimited⟩ := exists_foldl_sift_cons_eq hroom more
  refine ⟨best, left, ?_, hperm.mem_iff.mp List.mem_cons_self, ?_⟩
  · rw [limited_eq_foldl, distinct_eq_foldl, hsorted, hdistinct, hlimited]
  · intro c hc
    rcases List.mem_cons.mp (hperm.mem_iff.mpr hc) with rfl | hlater
    · exact Int.le_refl _
    · exact List.rel_of_pairwise_cons hdescends hlater

/-! ### The beginning of a choice -/

/-- How many candidates of some are no longer there. -/
def lost (cs left : List Candidate) : Nat :=
  cs.countP fun c => !(left.map chunk).contains c.chunk

/-- What is left and what was left out are all candidates, if no chunk is named twice. -/
lemma lost_add_length {left : List Candidate} (h : left.Subperm cs)
    (hnodup : (cs.map chunk).Nodup) : lost cs left + left.length = cs.length := by
  obtain ⟨sorted, hperm, hsublist⟩ := h
  have hleft : (left.map chunk).Nodup :=
    (hperm.map chunk).nodup_iff.mp (hnodup.sublist (hsublist.map chunk))
  have hsub : left.map chunk ⊆ cs.map chunk :=
    List.Subset.trans (hperm.map chunk).symm.subset (hsublist.map chunk).subset
  have hstay : ((cs.filter fun c => (left.map chunk).contains c.chunk).map chunk).Perm
      (left.map chunk) := by
    refine (List.perm_ext_iff_of_nodup ?_ hleft).mpr fun id => ?_
    · exact hnodup.sublist (List.filter_sublist.map chunk)
    · constructor
      · intro hid
        obtain ⟨c, hc, rfl⟩ := List.mem_map.mp hid
        exact List.contains_iff_mem.mp (List.mem_filter.mp hc).2
      · intro hid
        obtain ⟨c, hc, rfl⟩ := List.mem_map.mp (hsub hid)
        exact List.mem_map.mpr ⟨c, List.mem_filter.mpr ⟨hc, List.contains_iff_mem.mpr hid⟩, rfl⟩
  have hcount := List.length_eq_countP_add_countP (l := cs) fun c => (left.map chunk).contains c.chunk
  have hlength := hstay.length_eq
  rw [List.length_map, List.length_map, ← List.countP_eq_length_filter] at hlength
  unfold lost
  simp only [Bool.not_eq_true, Bool.decide_eq_false] at hcount
  omega

end Dossier.Candidate
