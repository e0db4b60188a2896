import Dossier.Proofs.Evidence.Selection
import Dossier.Proofs.Vector.Similarity
import Dossier.Service.Pack

/-!
# Why a candidate is left out

Two passes leave candidates out: one leaves out near duplicates of what it has kept, the other what
is too much for a record.  Both decide about a candidate by what they have kept before it (`sift`),
so what they do is told by the places that they keep (`foldl_sift`).  A candidate at a place that is
not kept has a cause for it in front of it, and the drops that are reported count these places
(`select_accounts`).
-/

namespace Dossier.Candidate

variable {cs : List Candidate} {c other : Candidate} {i n : ℕ} {stays : ℕ → Bool}
  {drops : List Candidate → Candidate → Bool} {vectors : List (Id × Vec)} {threshold : Single}

/-! ### Sorting -/

/-- Some candidates in a stable order by their scores, the highest first. -/
structure StablySorted (cs sorted : List Candidate) : Prop where
  perm : sorted.Perm cs
  descends : Descends sorted
  /-- Candidates of one score keep their order. -/
  stable : ∀ place,
    sorted.filter (·.score.totalPlace = place) = cs.filter (·.score.totalPlace = place)

/-- Candidates by their scores are in a stable order. -/
lemma stablySorted_byScore (cs : List Candidate) : StablySorted cs (byScore cs) where
  perm := byScore_perm cs
  descends := descends_byScore cs
  stable place := by
    have hpaired : (cs.filter (·.score.totalPlace = place)).Pairwise fun a b => before a b := by
      refine List.pairwise_of_forall_mem_list fun a ha b hb => before_iff.mpr ?_
      have ha' := of_decide_eq_true (List.mem_filter.mp ha).2
      have hb' := of_decide_eq_true (List.mem_filter.mp hb).2
      exact Int.le_of_eq (hb'.trans ha'.symm)
    -- Equal candidates are in order already, so the sort leaves them in it.
    have hsub : (cs.filter (·.score.totalPlace = place)).Sublist
        ((byScore cs).filter (·.score.totalPlace = place)) := by
      have hsorted := List.sublist_mergeSort before_trans before_total hpaired List.filter_sublist
      have hfiltered := hsorted.filter (·.score.totalPlace = place)
      simp only [List.filter_filter, Bool.and_self] at hfiltered
      exact hfiltered
    exact (hsub.eq_of_length ((byScore_perm cs).filter _).length_eq.symm).symm

/-! ### Places that are kept -/

/-- The candidates at some places. -/
def atPlaces (stays : ℕ → Bool) (cs : List Candidate) : List Candidate :=
  (cs.zipIdx.filter fun x => stays x.2).map Prod.fst

/-- How many places of a list of candidates are not among some places. -/
def countLeftOut (stays : ℕ → Bool) (cs : List Candidate) : ℕ :=
  (List.range cs.length).countP fun i => !stays i

/-- A candidate is at one of some places. -/
lemma mem_atPlaces : c ∈ atPlaces stays cs ↔ ∃ i, cs[i]? = some c ∧ stays i = true := by
  unfold atPlaces
  simp only [List.mem_map, List.mem_filter, Prod.exists, exists_and_right, exists_eq_right,
    List.mem_zipIdx_iff_getElem?]

/-- The candidates at some places depend on whether places in range are among them. -/
lemma atPlaces_congr {stays' : ℕ → Bool} (h : ∀ i < cs.length, stays i = stays' i) :
    atPlaces stays cs = atPlaces stays' cs := by
  unfold atPlaces
  refine congrArg (List.map Prod.fst) (List.filter_congr fun x hx => h x.2 ?_)
  exact List.snd_lt_of_mem_zipIdx hx

/-- One more candidate is at the place behind the others. -/
lemma atPlaces_concat (stays : ℕ → Bool) (cs : List Candidate) (c : Candidate) :
    atPlaces stays (cs ++ [c]) = atPlaces stays cs ++ if stays cs.length then [c] else [] := by
  unfold atPlaces
  rw [List.zipIdx_append, List.filter_append, List.map_append, List.zipIdx_singleton, Nat.zero_add]
  cases hstays : stays cs.length <;> simp [hstays]

/-- Every place is kept or left out. -/
lemma length_atPlaces_add (stays : ℕ → Bool) (cs : List Candidate) :
    (atPlaces stays cs).length + countLeftOut stays cs = cs.length := by
  induction cs using List.reverseRecOn with
  | nil => rfl
  | append_singleton cs c ih =>
    unfold countLeftOut at ih ⊢
    rw [atPlaces_concat, List.length_append, List.length_append, List.length_singleton,
      List.range_succ, List.countP_append, List.countP_singleton]
    cases stays cs.length <;> simp <;> omega

/-! ### Passes that leave candidates out -/

/-- Does a pass keep the candidate at a place? -/
def keepsAt (drops : List Candidate → Candidate → Bool) (cs : List Candidate) (i : ℕ) : Bool :=
  cs[i]?.any fun c => !drops ((cs.take i).foldl (sift drops) []) c

/-- Whether a place is kept depends on the candidates up to it. -/
lemma keepsAt_append (hi : i < cs.length) (rest : List Candidate) :
    keepsAt drops (cs ++ rest) i = keepsAt drops cs i := by
  unfold keepsAt
  rw [List.getElem?_append_left hi, List.take_append_of_le_length (Nat.le_of_lt hi)]

/-- A pass keeps the candidates at the places that it keeps. -/
lemma foldl_sift (drops : List Candidate → Candidate → Bool) (cs : List Candidate) :
    cs.foldl (sift drops) [] = atPlaces (keepsAt drops cs) cs := by
  induction cs using List.reverseRecOn with
  | nil => rfl
  | append_singleton cs c ih =>
    have hold : atPlaces (keepsAt drops (cs ++ [c])) cs = atPlaces (keepsAt drops cs) cs :=
      atPlaces_congr fun i hi => keepsAt_append hi [c]
    have hnew : keepsAt drops (cs ++ [c]) cs.length = !drops (cs.foldl (sift drops) []) c := by
      unfold keepsAt
      rw [List.getElem?_concat_length, List.take_left]
      rfl
    rw [List.foldl_append, List.foldl_cons, List.foldl_nil, atPlaces_concat, hold, ← ih, hnew]
    generalize cs.foldl (sift drops) [] = kept
    unfold sift
    cases drops kept c <;> simp

/-- What a pass has kept in front of a place are the candidates at the places that it keeps. -/
lemma mem_foldl_sift_take : other ∈ (cs.take n).foldl (sift drops) [] ↔
    ∃ j < n, cs[j]? = some other ∧ keepsAt drops cs j = true := by
  have hsame : ∀ j < (cs.take n).length, keepsAt drops (cs.take n) j = keepsAt drops cs j := by
    intro j hj
    conv_rhs => rw [← List.take_append_drop n cs]
    exact (keepsAt_append hj _).symm
  rw [foldl_sift, atPlaces_congr hsame, mem_atPlaces]
  refine exists_congr fun j => ?_
  rw [List.getElem?_take]
  split
  · rename_i hj
    rw [and_iff_right hj]
  · rename_i hj
    simp [hj]

/-- A place is kept if its candidate is not dropped because of what is kept in front of it. -/
lemma keepsAt_eq_false_iff (hc : cs[i]? = some c) :
    keepsAt drops cs i = false ↔ drops ((cs.take i).foldl (sift drops) []) c = true := by
  unfold keepsAt
  rw [hc, Option.any_some, Bool.not_eq_false']

/-! ### Near duplicates -/

/-- Two candidates have vectors whose similarity reaches the threshold. -/
def NearDuplicates (vectors : List (Id × Vec)) (threshold : Single) (c other : Candidate) : Prop :=
  ∃ v w s, c.vectorOf vectors = some v ∧ other.vectorOf vectors = some w ∧
    Vec.similarity? v w = some s ∧ threshold.le s = true

/-- Candidates are near duplicates by the similarity of their vectors. -/
lemma similar_eq_true_iff :
    similar vectors threshold c other = true ↔ NearDuplicates vectors threshold c other := by
  unfold similar NearDuplicates
  rcases c.vectorOf vectors with _ | v
  · simp
  rcases other.vectorOf vectors with _ | w
  · simp
  simp [Option.any_eq_true]

/-- Being near duplicates goes both ways. -/
lemma NearDuplicates.symm (h : NearDuplicates vectors threshold c other) :
    NearDuplicates vectors threshold other c := by
  obtain ⟨v, w, s, hv, hw, hs, hle⟩ := h
  have hany : (Vec.similarity? v w).any (threshold.le ·) = true :=
    (Option.any_eq_true _ _).mpr ⟨s, hs, hle⟩
  rw [Vec.similarity_comm] at hany
  obtain ⟨t, ht, hle'⟩ := (Option.any_eq_true _ _).mp hany
  exact ⟨w, v, t, hw, hv, ht, hle'⟩

/-- The places that are kept when near duplicates are left out of candidates in order. -/
structure KeepsApart (vectors : List (Id × Vec)) (threshold : Single) (cs : List Candidate)
    (stays : ℕ → Bool) : Prop where
  /-- A candidate that is left out is a near duplicate of one that is kept in front of it, whose
  score is at least as high. -/
  cause : ∀ i c, cs[i]? = some c → stays i = false → ∃ j other, j < i ∧ cs[j]? = some other ∧
    stays j = true ∧ c.score.totalPlace ≤ other.score.totalPlace ∧
    NearDuplicates vectors threshold c other
  /-- A candidate without a vector is kept. -/
  vectorless : ∀ i c, cs[i]? = some c → c.vectorOf vectors = none → stays i = true
  /-- No two candidates that are kept are near duplicates. -/
  apart : ∀ i j c other, i ≠ j → cs[i]? = some c → cs[j]? = some other → stays i = true →
    stays j = true → ¬ NearDuplicates vectors threshold c other

/-- The places that are kept when near duplicates are left out. -/
def distinctAt (vectors : List (Id × Vec)) (threshold : Single) (cs : List Candidate) : ℕ → Bool :=
  keepsAt (duplicates vectors threshold) cs

/-- Leaving out near duplicates keeps the candidates at these places. -/
lemma distinct_eq_atPlaces : distinct vectors threshold cs =
    atPlaces (distinctAt vectors threshold (byScore cs)) (byScore cs) := by
  rw [distinct_eq_foldl, foldl_sift]
  rfl

/-- A candidate is left out just for a near duplicate that is kept in front of it. -/
lemma distinctAt_eq_false_iff (hc : cs[i]? = some c) :
    distinctAt vectors threshold cs i = false ↔ ∃ j other, j < i ∧ cs[j]? = some other ∧
      distinctAt vectors threshold cs j = true ∧ NearDuplicates vectors threshold c other := by
  unfold distinctAt
  rw [keepsAt_eq_false_iff hc, duplicates, List.any_eq_true]
  constructor
  · rintro ⟨other, hother, hsimilar⟩
    obtain ⟨j, hj, hat, hstays⟩ := mem_foldl_sift_take.mp hother
    exact ⟨j, other, hj, hat, hstays, similar_eq_true_iff.mp hsimilar⟩
  · rintro ⟨j, other, hj, hat, hstays, hnear⟩
    exact ⟨other, mem_foldl_sift_take.mpr ⟨j, hj, hat, hstays⟩, similar_eq_true_iff.mpr hnear⟩

/-- A candidate in front of another one that descends from it has at least its score. -/
lemma Descends.totalPlace_le (h : Descends cs) {j : ℕ} (hj : j < i) (hother : cs[j]? = some other)
    (hc : cs[i]? = some c) : c.score.totalPlace ≤ other.score.totalPlace := by
  obtain ⟨hlt, rfl⟩ := List.getElem?_eq_some_iff.mp hc
  obtain ⟨hlt', rfl⟩ := List.getElem?_eq_some_iff.mp hother
  exact List.pairwise_iff_getElem.mp h j i hlt' hlt hj

/-- Leaving out near duplicates keeps candidates apart and leaves none out without a cause. -/
lemma keepsApart_distinctAt (h : Descends cs) :
    KeepsApart vectors threshold cs (distinctAt vectors threshold cs) where
  cause := by
    intro i c hc hout
    obtain ⟨j, other, hj, hother, hstays, hnear⟩ := (distinctAt_eq_false_iff hc).mp hout
    exact ⟨j, other, hj, hother, hstays, h.totalPlace_le hj hother hc, hnear⟩
  vectorless := by
    intro i c hc hnone
    rw [← Bool.not_eq_false, distinctAt_eq_false_iff hc]
    rintro ⟨-, -, -, -, -, v, -, -, hv, -⟩
    rw [hnone] at hv
    cases hv
  apart := by
    have hfront : ∀ i j c other, j < i → cs[i]? = some c → cs[j]? = some other →
        distinctAt vectors threshold cs i = true → distinctAt vectors threshold cs j = true →
          ¬ NearDuplicates vectors threshold c other := by
      intro i j c other hj hc hother hi hstays hnear
      rw [(distinctAt_eq_false_iff hc).mpr ⟨j, other, hj, hother, hstays, hnear⟩] at hi
      cases hi
    intro i j c other hne hc hother hi hj hnear
    rcases Nat.lt_or_gt_of_ne hne with hlt | hgt
    · exact hfront j i other c hlt hother hc hj hi hnear.symm
    · exact hfront i j c other hgt hc hother hi hj hnear

/-! ### The limit of a record -/

/-- Limiting candidates of records decides about the last one by what is kept of the others. -/
lemma limited_concat (limit : ℕ) (cs : List Candidate) (c : Candidate) :
    limited limit (cs ++ [c]) = sift (exceeds limit) (limited limit cs) c := by
  rw [limited_eq_foldl, limited_eq_foldl, List.foldl_append, List.foldl_cons, List.foldl_nil]

/-- A record keeps its first candidates, as many as it may have. -/
lemma filter_limited (limit : ℕ) (cs : List Candidate) (record : Id) :
    (limited limit cs).filter (·.record == record) =
      (cs.filter (·.record == record)).take limit := by
  induction cs using List.reverseRecOn with
  | nil => exact List.take_nil.symm
  | append_singleton cs c ih =>
    rw [limited_concat, List.filter_append, sift, exceeds]
    simp only [decide_eq_true_eq]
    by_cases hrecord : c.record = record
    · subst hrecord
      have hcount := congrArg List.length ih
      rw [← List.countP_eq_length_filter, List.length_take] at hcount
      have hself : [c].filter (·.record == c.record) = [c] := by simp
      rw [hcount, hself]
      split
      · rename_i hfull
        rw [ih, List.take_append_of_le_length (by omega)]
      · rename_i hroom
        rw [List.filter_append, ih, hself, List.take_of_length_le (by omega),
          List.take_of_length_le (by rw [List.length_append, List.length_singleton]; omega)]
    · have hno : [c].filter (·.record == record) = [] := by simp [hrecord]
      rw [hno, List.append_nil, ← ih]
      split
      · rfl
      · rw [List.filter_append, hno, List.append_nil]

/-- How many candidates of a record are kept. -/
lemma countP_limited (limit : ℕ) (cs : List Candidate) (record : Id) :
    (limited limit cs).countP (·.record == record) =
      min limit (cs.countP (·.record == record)) := by
  rw [List.countP_eq_length_filter, filter_limited, List.length_take,
    ← List.countP_eq_length_filter]

/-- The places of candidates in front of which there are few candidates of the same record. -/
def withinAt (limit : ℕ) (cs : List Candidate) (i : ℕ) : Bool :=
  cs[i]?.any fun c => decide ((cs.take i).countP (·.record == c.record) < limit)

/-- Limiting the candidates of records keeps the candidates at these places. -/
lemma limited_eq_atPlaces (limit : ℕ) (cs : List Candidate) :
    limited limit cs = atPlaces (withinAt limit cs) cs := by
  rw [limited_eq_foldl, foldl_sift]
  refine atPlaces_congr fun i _ => ?_
  unfold keepsAt withinAt
  refine congrArg (Option.any · cs[i]?) (funext fun c => ?_)
  rw [← limited_eq_foldl, exceeds, countP_limited, ← decide_not]
  refine decide_eq_decide.mpr ?_
  omega

/-! ### All together -/

/-- The candidates that are chosen are part of the permitted ones in a stable order by their scores.
What is left out for a near duplicate has one that is kept in front of it, with at least its score;
without a vector nothing is left out for it, and no two candidates that are kept are near
duplicates.  What is left out for its record is what has the limit of candidates of the same record
in front of it.  The drops that are reported are the numbers of places that are left out by either
pass. -/
theorem select_accounts (cfg : EvidenceConfig) (vectors : List (Id × Vec)) (permissionDrops : ℕ)
    (cs : List Candidate) :
    let sorted := byScore cs
    let apart := distinct vectors cfg.dedupThreshold cs
    let selection := EvidencePack.select cfg vectors permissionDrops cs
    StablySorted cs sorted ∧ selection.kept.Sublist sorted ∧
    (∃ stays, KeepsApart vectors cfg.dedupThreshold sorted stays ∧ apart = atPlaces stays sorted ∧
      selection.drops.duplicate = countLeftOut stays sorted) ∧
    (∃ stays, (∀ i c, apart[i]? = some c → (stays i = true ↔
        (apart.take i).countP (·.record == c.record) < cfg.maxSourcesPerRecord)) ∧
      selection.kept = atPlaces stays apart ∧
      selection.drops.diversity = countLeftOut stays apart) ∧
    ∀ record, selection.kept.filter (·.record == record) =
      (apart.filter (·.record == record)).take cfg.maxSourcesPerRecord := by
  intro sorted apart selection
  have hapart : apart = atPlaces _ sorted := distinct_eq_atPlaces
  have hkept : selection.kept = atPlaces _ apart :=
    limited_eq_atPlaces cfg.maxSourcesPerRecord apart
  refine ⟨stablySorted_byScore cs, limited_sublist.trans distinct_sublist,
    ⟨_, keepsApart_distinctAt (descends_byScore cs), hapart, ?_⟩, ⟨_, ?_, hkept, ?_⟩,
    filter_limited _ apart⟩
  · have hsum := length_atPlaces_add (distinctAt vectors cfg.dedupThreshold sorted) sorted
    have hdrops : selection.drops.duplicate + apart.length = sorted.length :=
      Pass.dropped_add_length sorted
    rw [← hapart] at hsum
    omega
  · intro i c hc
    unfold withinAt
    rw [hc, Option.any_some, decide_eq_true_eq]
  · have hsum := length_atPlaces_add (withinAt cfg.maxSourcesPerRecord apart) apart
    have hdrops : selection.drops.diversity + selection.kept.length = apart.length :=
      Pass.dropped_add_length apart
    rw [← hkept] at hsum
    omega

end Dossier.Candidate
