import Mathlib.Data.List.Induction
import Mathlib.Data.List.Perm.Subperm
import Mathlib.Tactic.Common
import Dossier.Evidence.Candidate

/-!
# Where candidates come from

No step that candidates go through makes one up: redaction and marking change what is shown of a
candidate and leave the rest of it alone, and choosing only leaves candidates out.
-/

namespace Dossier.Candidate

variable {cs out : List Candidate}

/-! ### Candidates and hits -/

/-- The candidates of a hit have the chunks that it names, each from a context, its score and its
method. -/
lemma of_mem_ofHit {snippetLimit : Nat} {contexts : List ChunkContext} {hit : FusedHit}
    {c : Candidate} (h : c ∈ ofHit snippetLimit contexts hit) :
    c.context ∈ contexts ∧ c.chunk ∈ hit.chunks ∧ c.score = hit.normalized ∧
      c.method = hit.method := by
  unfold ofHit at h
  obtain ⟨id, hid, hmap⟩ := List.mem_filterMap.mp h
  obtain ⟨ctx, hfind, rfl⟩ := Option.map_eq_some_iff.mp hmap
  have hwhich := List.find?_some hfind
  refine ⟨List.mem_of_find?_eq_some hfind, ?_, rfl, rfl⟩
  rw [beq_iff_eq] at hwhich
  rw [← hwhich] at hid
  exact hid

/-- The candidates of some hits have a chunk that a hit names, from a context, and the score and the
method of this hit. -/
lemma of_mem_ofHits {snippetLimit : Nat} {hits : List FusedHit} {contexts : List ChunkContext}
    {c : Candidate} (h : c ∈ ofHits snippetLimit hits contexts) :
    c.context ∈ contexts ∧
      ∃ hit ∈ hits, c.chunk ∈ hit.chunks ∧ c.score = hit.normalized ∧ c.method = hit.method := by
  obtain ⟨hit, hhit, hof⟩ := List.mem_flatMap.mp h
  obtain ⟨hcontext, hrest⟩ := of_mem_ofHit hof
  exact ⟨hcontext, hit, hhit, hrest⟩

/-- The candidates of some hits show the first characters of their chunks. -/
lemma snippet_of_mem_ofHits {snippetLimit : Nat} {hits : List FusedHit}
    {contexts : List ChunkContext} {c : Candidate} (h : c ∈ ofHits snippetLimit hits contexts) :
    c.snippet = cut snippetLimit c.context.chunk.text := by
  obtain ⟨hit, -, hof⟩ := List.mem_flatMap.mp h
  obtain ⟨id, -, hmap⟩ := List.mem_filterMap.mp hof
  obtain ⟨ctx, -, rfl⟩ := Option.map_eq_some_iff.mp hmap
  rfl

/-- The chunks of the candidates are chunks that the hits name, in their order. -/
lemma map_chunk_ofHits_sublist (snippetLimit : Nat) (hits : List FusedHit)
    (contexts : List ChunkContext) :
    ((ofHits snippetLimit hits contexts).map chunk).Sublist (hits.flatMap FusedHit.chunks) := by
  have hhit : ∀ ids : List Id, ∀ hit : FusedHit, ((ids.filterMap fun id =>
      (contexts.find? (·.chunk.id == id)).map (ofContext snippetLimit hit)).map chunk).Sublist
        ids := by
    intro ids hit
    induction ids with
    | nil => exact .refl _
    | cons id rest ih =>
      rw [List.filterMap_cons]
      split
      · exact ih.cons id
      · rename_i c hc
        obtain ⟨ctx, hfind, rfl⟩ := Option.map_eq_some_iff.mp hc
        have hwhich := List.find?_some hfind
        rw [beq_iff_eq] at hwhich
        rw [List.map_cons, ← hwhich]
        exact ih.cons_cons _
  unfold ofHits
  induction hits with
  | nil => exact .refl _
  | cons hit rest ih =>
    rw [List.flatMap_cons, List.flatMap_cons, List.map_append]
    exact (hhit hit.chunks hit).append ih

/-! ### What is shown of candidates -/

/-- A candidate without what is shown of it. -/
def bare (c : Candidate) : Candidate := { c with snippet := "", redacted := false, stale := false }

/-- Redaction changes what is shown of a candidate. -/
lemma map_bare_of_withRedactions {items : List RedactedItem}
    (h : withRedactions items cs = some out) : out.map bare = cs.map bare := by
  unfold withRedactions at h
  induction cs generalizing out with
  | nil =>
    cases h
    rfl
  | cons c rest ih =>
    rw [List.mapM_cons] at h
    obtain ⟨shown, hshown, hrest⟩ := Option.bind_eq_some_iff.mp h
    obtain ⟨others, hothers, hpure⟩ := Option.bind_eq_some_iff.mp hrest
    cases hpure
    obtain ⟨item, -, rfl⟩ := Option.map_eq_some_iff.mp hshown
    rw [List.map_cons, List.map_cons, ih hothers]
    rfl

/-- Marking changes what is shown of a candidate. -/
lemma map_bare_marked (now : Instant) (after : Int) (cs : List Candidate) :
    (cs.map (marked now after)).map bare = cs.map bare := by
  rw [List.map_map]
  rfl

/-- What does not depend on what is shown of candidates is the same for the same candidates. -/
lemma map_eq_of_map_bare {α : Type} {f : Candidate → α} (hf : ∀ c, f (bare c) = f c)
    (h : out.map bare = cs.map bare) : out.map f = cs.map f := by
  have hout := congrArg (List.map f) h
  rw [List.map_map, List.map_map] at hout
  have hcomp : f ∘ bare = f := funext hf
  rw [hcomp] at hout
  exact hout

/-! ### Passes -/

/-- The kept candidates and one more, unless it is dropped because of what is kept. -/
def sift (drops : List Candidate → Candidate → Bool) (kept : List Candidate) (c : Candidate) :
    List Candidate :=
  if drops kept c then kept else kept ++ [c]

section

variable {drops : List Candidate → Candidate → Bool} {kept : List Candidate}

/-- What is kept already stays where it is, and candidates at hand come behind it in their order. -/
lemma exists_foldl_sift_eq (drops : List Candidate → Candidate → Bool) (kept cs : List Candidate) :
    ∃ more, cs.foldl (sift drops) kept = kept ++ more ∧ more.Sublist cs := by
  induction cs generalizing kept with
  | nil => exact ⟨[], (List.append_nil kept).symm, .refl _⟩
  | cons c rest ih =>
    rw [List.foldl_cons]
    obtain ⟨more, heq, hsub⟩ := ih (sift drops kept c)
    unfold sift at heq ⊢
    split at heq
    · rename_i hdrops
      rw [if_pos hdrops]
      exact ⟨more, heq, hsub.cons c⟩
    · rename_i hstays
      rw [if_neg hstays]
      refine ⟨c :: more, ?_, hsub.cons_cons c⟩
      rw [heq, List.append_assoc, List.singleton_append]

/-- Nothing is made up, and the order stays. -/
lemma foldl_sift_sublist (cs : List Candidate) : (cs.foldl (sift drops) []).Sublist cs := by
  obtain ⟨more, heq, hsub⟩ := exists_foldl_sift_eq drops [] cs
  rw [heq]
  exact hsub

/-- A pass keeps or drops one more candidate. -/
lemma Pass.next_eq (drops : List Candidate → Candidate → Bool) (p : Pass) (c : Candidate) :
    (p.next drops c).kept = sift drops p.kept c ∧
      (p.next drops c).dropped + (p.next drops c).kept.length = p.dropped + p.kept.length + 1 := by
  unfold next sift
  split
  · exact ⟨rfl, Nat.add_right_comm _ _ _⟩
  · refine ⟨rfl, ?_⟩
    rw [List.length_append, List.length_singleton, ← Nat.add_assoc]

/-- A pass that goes on with more candidates keeps or drops all of them. -/
lemma Pass.foldl_next (drops : List Candidate → Candidate → Bool) (cs : List Candidate) (p : Pass) :
    (cs.foldl (next drops) p).kept = cs.foldl (sift drops) p.kept ∧
      (cs.foldl (next drops) p).dropped + (cs.foldl (next drops) p).kept.length =
        p.dropped + p.kept.length + cs.length := by
  induction cs generalizing p with
  | nil => exact ⟨rfl, rfl⟩
  | cons c rest ih =>
    obtain ⟨hfirst, hone⟩ := p.next_eq drops c
    obtain ⟨hkept, hseen⟩ := ih (p.next drops c)
    rw [List.foldl_cons, List.foldl_cons, hseen, hone, hkept, hfirst, List.length_cons,
      Nat.add_assoc, Nat.add_comm 1]
    exact ⟨rfl, rfl⟩

/-- What a pass keeps. -/
lemma Pass.kept_through (cs : List Candidate) : (through drops cs).kept = cs.foldl (sift drops) [] :=
  (foldl_next drops cs {}).1

/-- A pass keeps or drops every candidate. -/
lemma Pass.dropped_add_length (cs : List Candidate) :
    (through drops cs).dropped + (through drops cs).kept.length = cs.length := by
  have hseen := (foldl_next drops cs {}).2
  rw [List.length_nil, Nat.zero_add] at hseen
  exact hseen

end

/-- The candidates that may be seen are let through. -/
lemma kept_permittedPass (f : PermissionFilter) (cs : List Candidate) :
    (permittedPass f cs).kept = cs.filter (permitted f) := by
  unfold permittedPass
  rw [Pass.kept_through]
  induction cs using List.reverseRecOn with
  | nil => rfl
  | append_singleton rest c ih =>
    rw [List.foldl_append, ih, List.filter_append, List.foldl_cons, List.foldl_nil, sift, forbidden]
    cases hpermitted : c.permitted f <;> simp [hpermitted]

/-- The candidates by their scores are the same candidates. -/
lemma byScore_perm (cs : List Candidate) : (byScore cs).Perm cs := List.mergeSort_perm cs before

/-- What is left of some candidates without near duplicates. -/
def distinct (vectors : List (Id × Vec)) (threshold : Single) (cs : List Candidate) :
    List Candidate :=
  (distinctPass vectors threshold cs).kept

/-- What is left of some candidates when their records are limited. -/
def limited (limit : Nat) (cs : List Candidate) : List Candidate := (limitedPass limit cs).kept

variable {vectors : List (Id × Vec)} {threshold : Single} {limit : Nat} {c : Candidate}

/-- Near duplicates of kept candidates are sifted out of the candidates by their scores. -/
lemma distinct_eq_foldl :
    distinct vectors threshold cs = (byScore cs).foldl (sift (duplicates vectors threshold)) [] :=
  Pass.kept_through (byScore cs)

/-- Candidates whose record has enough are sifted out. -/
lemma limited_eq_foldl : limited limit cs = cs.foldl (sift (exceeds limit)) [] := Pass.kept_through cs

/-- Those are counted that may not be seen. -/
lemma dropped_permittedPass (f : PermissionFilter) (cs : List Candidate) :
    (permittedPass f cs).dropped = cs.length - (cs.filter (permitted f)).length := by
  rw [← kept_permittedPass]
  exact Nat.eq_sub_of_add_eq (Pass.dropped_add_length cs)

/-- The near duplicates are counted that are left out. -/
lemma dropped_distinctPass : (distinctPass vectors threshold cs).dropped =
    cs.length - (distinct vectors threshold cs).length := by
  rw [← (byScore_perm cs).length_eq]
  exact Nat.eq_sub_of_add_eq (Pass.dropped_add_length (byScore cs))

/-- Those are counted that are too many for their record. -/
lemma dropped_limitedPass :
    (limitedPass limit cs).dropped = cs.length - (limited limit cs).length :=
  Nat.eq_sub_of_add_eq (Pass.dropped_add_length cs)

/-- Leaving out near duplicates keeps the order of scores. -/
lemma distinct_sublist : (distinct vectors threshold cs).Sublist (byScore cs) := by
  rw [distinct_eq_foldl]
  exact foldl_sift_sublist _

/-- What is left without near duplicates is a part of the candidates, in another order. -/
lemma distinct_subperm : (distinct vectors threshold cs).Subperm cs :=
  distinct_sublist.subperm.trans (byScore_perm cs).subperm

/-- Leaving out near duplicates makes no candidate up. -/
lemma mem_of_mem_distinct (h : c ∈ distinct vectors threshold cs) : c ∈ cs :=
  distinct_subperm.subset h

/-- Limiting the candidates of a record keeps their order. -/
lemma limited_sublist : (limited limit cs).Sublist cs := by
  rw [limited_eq_foldl]
  exact foldl_sift_sublist _

/-- Limiting the candidates of a record makes none up. -/
lemma mem_of_mem_limited (h : c ∈ limited limit cs) : c ∈ cs := limited_sublist.subset h

end Dossier.Candidate
