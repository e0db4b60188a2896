import Mathlib.Data.List.Nodup
import Mathlib.Data.List.Perm.Basic
import Mathlib.Tactic.Common
import Dossier.Proofs.Work
import Dossier.Retrieval.Lexical
import Dossier.Vector.Index

/-!
# The order of rankings

Both indexes put the higher score first and, among equal scores, the smaller identifier.  A list in
this order that names no chunk twice is determined by its members (`Ranked.eq_of_members`).  So a
ranking does not depend on the order in which an index keeps its entries, and what is taken out of a
ranking stands there as if it had been ranked alone.
-/

namespace Dossier

variable {α β : Type}

/-- Does the first of two scored chunks rank no lower than the second? -/
def precedes (a b : Single × Id) : Bool :=
  match b.1.totalCompare a.1 with
  | .lt => true
  | .gt => false
  | .eq => a.2.number ≤ b.2.number

/-- One scored chunk ranks no lower than another with a higher score, or with the same score and a
greater identifier. -/
lemma precedes_iff {a b : Single × Id} :
    precedes a b ↔ b.1.totalPlace < a.1.totalPlace ∨
      b.1.totalPlace = a.1.totalPlace ∧ a.2.number ≤ b.2.number := by
  unfold precedes Binary.totalCompare
  rcases hcompare : compare b.1.totalPlace a.1.totalPlace with _ | _ | _
  · have hlt := Int.compare_eq_lt.mp hcompare
    simp [hlt]
  · have heq := Int.compare_eq_eq.mp hcompare
    simp [heq]
  · have hgt := Int.compare_eq_gt.mp hcompare
    simp
    omega

/-- Ranks are compared along a chain. -/
lemma precedes_trans {a b c : Single × Id} (hab : precedes a b) (hbc : precedes b c) :
    precedes a c := by
  rw [precedes_iff] at hab hbc ⊢
  omega

/-- Of two scored chunks one ranks no lower than the other. -/
lemma precedes_total (a b : Single × Id) : (precedes a b || precedes b a) = true := by
  rw [Bool.or_eq_true, precedes_iff, precedes_iff]
  omega

/-- Scored chunks that rank no lower than each other are one chunk. -/
lemma eq_of_precedes {a b : Single × Id} (hab : precedes a b) (hba : precedes b a) : a.2 = b.2 := by
  rw [precedes_iff] at hab hba
  have hnumber : a.2.number = b.2.number := by omega
  rcases a with ⟨_, ⟨m⟩⟩
  rcases b with ⟨_, ⟨n⟩⟩
  exact congrArg Id.mk hnumber

/-! ### Rankings -/

/-- A ranking of things that are scored chunks in some way: in order, and no chunk is named
twice. -/
structure Ranked (key : α → Single × Id) (l : List α) : Prop where
  ordered : l.Pairwise fun a b => precedes (key a) (key b)
  nodup : (l.map fun a => (key a).2).Nodup

namespace Ranked

variable {key : α → Single × Id} {l l' : List α}

/-- Rankings with the same members are the same. -/
theorem eq_of_members (h : Ranked key l) (h' : Ranked key l') (hmem : ∀ a, a ∈ l ↔ a ∈ l') :
    l = l' := by
  have hperm : l.Perm l' :=
    (List.perm_ext_iff_of_nodup (.of_map _ h.nodup) (.of_map _ h'.nodup)).mpr hmem
  refine hperm.eq_of_pairwise ?_ h.ordered h'.ordered
  intro a b ha hb hab hba
  exact List.inj_on_of_nodup_map h.nodup ha ((hmem b).mpr hb) (eq_of_precedes hab hba)

/-- Sorting makes a ranking of things that name no chunk twice. -/
lemma mergeSort (hnodup : (l.map fun a => (key a).2).Nodup) :
    Ranked key (l.mergeSort fun a b => precedes (key a) (key b)) where
  ordered := by
    refine List.pairwise_mergeSort ?_ ?_ l
    · exact fun a b c hab hbc => precedes_trans hab hbc
    · exact fun a b => precedes_total (key a) (key b)
  nodup := ((List.mergeSort_perm l _).map _).nodup_iff.mpr hnodup

/-- What is taken out of a ranking with its scores and chunks is a ranking. -/
lemma filterMap (h : Ranked key l) {key' : β → Single × Id} {f : α → Option β}
    (hf : ∀ a b, f a = some b → key' b = key a) : Ranked key' (l.filterMap f) where
  ordered := by
    refine h.ordered.filterMap f ?_
    intro a a' haa' b hb b' hb'
    rw [hf a b hb, hf a' b' hb']
    exact haa'
  nodup := nodup_map_filterMap h.nodup fun a b hb => congrArg Prod.snd (hf a b hb)

end Ranked

/-! ### Rankings by an index -/

/-- Scored chunks that rank no lower than others by the lexical index. -/
lemma LexicalIndex.Hit.before_eq :
    before = fun a b => precedes (a.score, a.chunk) (b.score, b.chunk) := rfl

/-- Scored chunks that rank no lower than others by the vector index. -/
lemma VectorIndex.Hit.before_eq :
    before = fun a b => precedes (a.similarity, a.chunk) (b.similarity, b.chunk) := rfl

namespace LexicalIndex

variable {entries entries' : List LexicalEntry}

/-- The number of terms does not depend on the order of chunks. -/
lemma totalLength_eq_of_perm (h : entries.Perm entries') :
    totalLength entries = totalLength entries' := by
  unfold totalLength
  refine h.foldr_eq' ?_ 0
  intro e _ e' _ n
  omega

/-- The average number of terms does not depend on the order of chunks. -/
lemma averageLength_eq_of_perm (h : entries.Perm entries') :
    averageLength entries = averageLength entries' := by
  unfold averageLength
  rw [totalLength_eq_of_perm h, h.length_eq]

/-- The weights of terms do not depend on the order of chunks. -/
lemma weights_eq_of_perm (h : entries.Perm entries') (ts : List String) :
    weights entries ts = weights entries' ts := by
  have hholding : ∀ term, holding entries term = holding entries' term := fun term => h.countP_eq _
  unfold weights
  rw [h.length_eq]
  simp only [hholding]

/-- The ranking of chunks that are named once does not depend on their order. -/
theorem rank_eq_of_perm (h : entries.Perm entries') (hnodup : (entries.map (·.chunk)).Nodup)
    (ts : List String) : rank entries ts = rank entries' ts := by
  unfold rank
  dsimp only
  rw [weights_eq_of_perm h, averageLength_eq_of_perm h, Hit.before_eq]
  set found := fun entry : LexicalEntry =>
    (score? (weights entries' ts) (averageLength entries') entry).map fun score =>
      (⟨entry.chunk, entry.record, score⟩ : Hit) with hfound
  have hname : ∀ entry hit, found entry = some hit → hit.chunk = entry.chunk := by
    intro entry hit heq
    obtain ⟨score, -, rfl⟩ := Option.map_eq_some_iff.mp heq
    rfl
  have hhits := h.filterMap found
  have hdistinct := nodup_map_filterMap hnodup hname
  refine (Ranked.mergeSort hdistinct).eq_of_members
    (Ranked.mergeSort ((hhits.map Hit.chunk).nodup_iff.mp hdistinct)) ?_
  intro hit
  rw [List.mem_mergeSort, List.mem_mergeSort, hhits.mem_iff]

end LexicalIndex

end Dossier
