import Dossier.Proofs.Retrieval.Order
import Dossier.Proofs.Work
import Dossier.Service.Embed
import Dossier.Service.Project

/-!
# Entries of the vector index

Every way in which vectors get into an index, when they are written as when they are taken over,
puts them in place one after the other.  A ranking has the chunks that compare with the query, in
order.
-/

namespace Dossier.VectorIndex

variable {index : VectorIndex} {e entry : Id × Vec} {entries : List (Id × Vec)}

/-! ### Putting vectors in place -/

/-- The index with a vector put in place of any that its chunk had. -/
def put (index : VectorIndex) (entry : Id × Vec) : VectorIndex :=
  { index with entries := entry :: index.entries.filter (·.1 != entry.1) }

/-- The index with some vectors put in place, one after the other. -/
def putAll (index : VectorIndex) (entries : List (Id × Vec)) : VectorIndex :=
  entries.foldl put index

/-- A vector that fits is put in place. -/
lemma upsert_of_fits {chunk : Id} {v : Vec} (h : v.length = index.dimension) :
    index.upsert chunk v = .ok (index.put (chunk, v)) := by
  unfold upsert
  rw [if_neg (not_not.mpr h)]
  rfl

/-- Vectors that fit are put in place. -/
lemma upsertAll_of_fits (h : ∀ entry ∈ entries, entry.2.length = index.dimension) :
    index.upsertAll entries = .ok (index.putAll entries) := by
  unfold upsertAll
  induction entries generalizing index with
  | nil => rfl
  | cons entry rest ih =>
    rw [List.foldlM_cons]
    simp only [upsert_of_fits (h entry List.mem_cons_self), bind, Except.bind]
    exact ih fun entry' hentry' => h entry' (List.mem_cons_of_mem _ hentry')

/-- Vectors that are taken into an index are put in place. -/
lemma upsertAll_eq_ok {index' : VectorIndex} (h : index.upsertAll entries = .ok index') :
    index' = index.putAll entries := by
  unfold upsertAll at h
  induction entries generalizing index with
  | nil =>
    cases h
    rfl
  | cons entry rest ih =>
    rw [List.foldlM_cons] at h
    by_cases hfits : entry.2.length = index.dimension
    · simp only [upsert_of_fits hfits, bind, Except.bind] at h
      exact ih h
    · unfold upsert at h
      simp [hfits, bind, Except.bind] at h

/-- Whether vectors can be taken into an index is a matter of its dimension. -/
lemma upsertAll_cases {index' : VectorIndex} (hdim : index'.dimension = index.dimension)
    (entries : List (Id × Vec)) :
    (∃ mismatch, index.upsertAll entries = .error mismatch ∧
        index'.upsertAll entries = .error mismatch) ∨
      index.upsertAll entries = .ok (index.putAll entries) ∧
        index'.upsertAll entries = .ok (index'.putAll entries) := by
  unfold upsertAll
  induction entries generalizing index index' with
  | nil => exact .inr ⟨rfl, rfl⟩
  | cons entry rest ih =>
    rw [List.foldlM_cons, List.foldlM_cons]
    by_cases hfits : entry.2.length = index.dimension
    · have hfits' : entry.2.length = index'.dimension := hfits.trans hdim.symm
      simp only [upsert_of_fits hfits, upsert_of_fits hfits', bind, Except.bind]
      have hput : (index'.put entry).dimension = (index.put entry).dimension := hdim
      exact ih hput
    · left
      refine ⟨.vector entry.2.length index.dimension, ?_, ?_⟩
      · simp [upsert, hfits, bind, Except.bind]
      · simp [upsert, hdim, hfits, bind, Except.bind]

/-- Putting vectors in place keeps the dimension of an index. -/
lemma dimension_putAll : (index.putAll entries).dimension = index.dimension := by
  induction entries generalizing index with
  | nil => rfl
  | cons entry rest ih => exact ih

/-- The entries of an index with one more vector. -/
lemma mem_put : e ∈ (index.put entry).entries ↔ e = entry ∨ e ∈ index.entries ∧ e.1 ≠ entry.1 := by
  unfold put
  rw [List.mem_cons, List.mem_filter, bne_iff_ne]

/-- The entries of an index with more vectors of different chunks. -/
lemma mem_putAll (h : (entries.map (·.1)).Nodup) :
    e ∈ (index.putAll entries).entries ↔
      e ∈ entries ∨ e ∈ index.entries ∧ e.1 ∉ entries.map (·.1) := by
  induction entries generalizing index with
  | nil => simp [putAll]
  | cons entry rest ih =>
    obtain ⟨hfirst, hrest⟩ := List.nodup_cons.mp h
    change e ∈ ((index.put entry).putAll rest).entries ↔ _
    rw [ih hrest, mem_put, List.mem_cons, List.map_cons, List.mem_cons, not_or]
    constructor
    · rintro (hlater | ⟨rfl | ⟨hold, hne⟩, hnot⟩)
      · exact .inl (.inr hlater)
      · exact .inl (.inl rfl)
      · exact .inr ⟨hold, hne, hnot⟩
    · rintro ((rfl | hlater) | ⟨hold, hne, hnot⟩)
      · exact .inr ⟨.inl rfl, hfirst⟩
      · exact .inl hlater
      · exact .inr ⟨.inr ⟨hold, hne⟩, hnot⟩

/-- The entries of an index with more vectors are old ones and these. -/
lemma of_mem_putAll (h : e ∈ (index.putAll entries).entries) : e ∈ index.entries ∨ e ∈ entries := by
  induction entries generalizing index with
  | nil => exact .inl h
  | cons entry rest ih =>
    rcases ih h with hput | hlater
    · rcases mem_put.mp hput with rfl | ⟨hold, -⟩
      · exact .inr List.mem_cons_self
      · exact .inl hold
    · exact .inr (List.mem_cons_of_mem _ hlater)

/-- An entry of another chunk stays in an index with more vectors. -/
lemma mem_putAll_of_not_mem (h : e ∈ index.entries) (hother : e.1 ∉ entries.map (·.1)) :
    e ∈ (index.putAll entries).entries := by
  induction entries generalizing index with
  | nil => exact h
  | cons entry rest ih =>
    rw [List.map_cons, List.mem_cons, not_or] at hother
    exact ih (mem_put.mpr (.inr ⟨h, hother.1⟩)) hother.2

/-- An index that names every chunk once does so with one more vector. -/
lemma nodup_put (h : (index.entries.map (·.1)).Nodup) :
    ((index.put entry).entries.map (·.1)).Nodup := by
  unfold put
  rw [List.map_cons, List.nodup_cons]
  refine ⟨?_, h.sublist (List.filter_sublist.map _)⟩
  intro hmem
  obtain ⟨e, he, heq⟩ := List.mem_map.mp hmem
  exact bne_iff_ne.mp (List.mem_filter.mp he).2 heq

/-- An index that names every chunk once does so with more vectors. -/
lemma nodup_putAll (h : (index.entries.map (·.1)).Nodup) :
    ((index.putAll entries).entries.map (·.1)).Nodup := by
  induction entries generalizing index with
  | nil => exact h
  | cons entry rest ih => exact ih (nodup_put h)

/-- What is left of an index without some chunks. -/
lemma mem_remove {chunks : List Id} :
    e ∈ (index.remove chunks).entries ↔ e ∈ index.entries ∧ e.1 ∉ chunks := by
  unfold remove
  rw [List.mem_filter, Bool.not_eq_true', ← Bool.not_eq_true, List.contains_iff_mem]

/-- The vector of an entry of an index that names every chunk once is found by its chunk. -/
lemma find?_eq_some (hnodup : (index.entries.map (·.1)).Nodup) (he : e ∈ index.entries) :
    index.find? e.1 = some e.2 := by
  unfold find?
  have hfound : index.entries.find? (·.1 == e.1) = some e :=
    find?_eq_some_of_unique he (beq_self_eq_true e.1) fun other hother hwhich =>
      List.inj_on_of_nodup_map hnodup hother he (beq_iff_eq.mp hwhich)
  rw [hfound]
  rfl

/-- An index that names every chunk once finds exactly the vectors of its entries. -/
lemma find?_eq_some_iff (hnodup : (index.entries.map (·.1)).Nodup) {chunk : Id} {v : Vec} :
    index.find? chunk = some v ↔ (chunk, v) ∈ index.entries := by
  constructor
  · intro h
    obtain ⟨e, he, rfl⟩ := Option.map_eq_some_iff.mp h
    have hid := List.find?_some he
    rw [beq_iff_eq] at hid
    rw [← hid]
    exact List.mem_of_find?_eq_some he
  · exact fun he => find?_eq_some hnodup he

/-- A vector that was put in place, among others of different chunks, is found by its chunk. -/
lemma find?_putAll (hnodup : (entries.map (·.1)).Nodup) (he : e ∈ entries) :
    (index.putAll entries).find? e.1 = some e.2 := by
  have hfound : (index.putAll entries).entries.find? (·.1 == e.1) = some e := by
    refine find?_eq_some_of_unique ((mem_putAll hnodup).mpr (.inl he)) (beq_self_eq_true e.1) ?_
    intro other hother hwhich
    have hname : other.1 = e.1 := beq_iff_eq.mp hwhich
    rcases (mem_putAll hnodup).mp hother with hnew | ⟨-, hnot⟩
    · exact List.inj_on_of_nodup_map hnodup hnew he hname
    · rw [hname] at hnot
      exact absurd (List.mem_map_of_mem he) hnot
  unfold find?
  rw [hfound]
  rfl

/-! ### Taking over listed vectors -/

/-- Does a listed vector fit the index? -/
def fits (index : VectorIndex) (row : ListedVector) : Bool := row.2.2.length == index.dimension

/-- A listed vector that fits is put in place and counted as taken over, and one that does not is
counted as refused. -/
lemma Intake.next_eq (i : Intake) (row : ListedVector) :
    i.next row = bif i.index.fits row then
      ⟨i.index.put row.2, row.2.1 :: i.covered, i.taken + 1, i.refused⟩
    else { i with refused := i.refused + 1 } := by
  by_cases hfits : row.2.2.length = i.index.dimension
  · have hkept : i.index.fits row = true := beq_iff_eq.mpr hfits
    rw [hkept, cond_true]
    unfold next
    rw [upsert_of_fits hfits]
  · have hdropped : i.index.fits row = false := beq_eq_false_iff_ne.mpr hfits
    rw [hdropped, cond_false]
    unfold next upsert
    rw [if_pos hfits]

/-- What taking over listed vectors comes to, whatever went before: those that fit are put in place
and counted, and the others are counted too. -/
lemma Intake.foldl_next (rows : List ListedVector) (i : Intake) :
    rows.foldl next i =
      { index := i.index.putAll ((rows.filter i.index.fits).map (·.2))
        covered := ((rows.filter i.index.fits).map (·.2.1)).reverse ++ i.covered
        taken := i.taken + rows.countP i.index.fits
        refused := i.refused + rows.countP fun row => !i.index.fits row } := by
  induction rows generalizing i with
  | nil => rfl
  | cons row rest ih =>
    rw [List.foldl_cons, ih, next_eq]
    -- Putting a vector in place keeps the dimension, so that the same vectors fit afterwards.
    have hsame : (i.index.put row.2).fits = i.index.fits := rfl
    cases hfits : i.index.fits row
    · simp [hfits, Nat.add_assoc, Nat.add_comm 1]
    · simp only [hsame, cond_true, hfits, List.filter_cons_of_pos, List.map_cons, List.reverse_cons,
        List.append_assoc, List.singleton_append, List.countP_cons_of_pos, Bool.not_true,
        Bool.false_eq_true, not_false_eq_true, List.countP_cons_of_neg, Nat.add_assoc,
        Nat.add_comm 1]
      rfl

/-- Of listed vectors those that fit are put in place. -/
lemma index_intake (rows : List ListedVector) :
    (index.intake rows).index = index.putAll ((rows.filter index.fits).map (·.2)) := by
  rw [intake, Intake.foldl_next]

/-- The chunks are known whose vectors were taken over. -/
lemma mem_covered_intake {rows : List ListedVector} {chunk : Id} :
    chunk ∈ (index.intake rows).covered ↔ chunk ∈ (rows.filter index.fits).map (·.2.1) := by
  rw [intake, Intake.foldl_next, List.append_nil, List.mem_reverse]

/-- The vectors that fit are counted. -/
lemma taken_intake (rows : List ListedVector) :
    (index.intake rows).taken = rows.countP index.fits := by
  rw [intake, Intake.foldl_next, Nat.zero_add]

/-- Every listed vector is counted once, as one that was taken over or as one that does not fit. -/
lemma taken_add_refused_intake (rows : List ListedVector) :
    (index.intake rows).taken + (index.intake rows).refused = rows.length := by
  rw [intake, Intake.foldl_next, Nat.zero_add, Nat.zero_add,
    List.length_eq_countP_add_countP index.fits]
  simp only [Bool.not_eq_true, Bool.decide_eq_false]

/-- Taking over vectors keeps the dimension of an index. -/
lemma dimension_intake (rows : List ListedVector) :
    (index.intake rows).index.dimension = index.dimension := by
  rw [index_intake, dimension_putAll]

/-- The listed vectors that fit are of different chunks if all listed ones are. -/
lemma nodup_fitting {rows : List ListedVector} (hnodup : (rows.map (·.2.1)).Nodup) :
    (((rows.filter index.fits).map (·.2)).map (·.1)).Nodup := by
  rw [List.map_map]
  exact hnodup.sublist (List.filter_sublist.map _)

/-- The entries of an index that takes listed vectors of different chunks: those that fit, and its
own for the other chunks. -/
lemma mem_intake {rows : List ListedVector} (hnodup : (rows.map (·.2.1)).Nodup) :
    e ∈ (index.intake rows).index.entries ↔ (∃ row ∈ rows, index.fits row ∧ row.2 = e) ∨
      e ∈ index.entries ∧ ∀ row ∈ rows, index.fits row → row.2.1 ≠ e.1 := by
  rw [index_intake, mem_putAll (nodup_fitting hnodup)]
  simp only [List.map_map, List.mem_map, List.mem_filter, Function.comp_apply, not_exists,
    not_and, and_assoc, ne_eq]

/-- An index that names every chunk once does so when it has taken listed vectors. -/
lemma nodup_intake (h : (index.entries.map (·.1)).Nodup) (rows : List ListedVector) :
    ((index.intake rows).index.entries.map (·.1)).Nodup := by
  rw [index_intake]
  exact nodup_putAll h

/-- A listed vector that fits, among others of different chunks, is found by its chunk. -/
lemma find?_intake {rows : List ListedVector} (hnodup : (rows.map (·.2.1)).Nodup)
    {row : ListedVector} (hrow : row ∈ rows) (hfits : index.fits row = true) :
    (index.intake rows).index.find? row.2.1 = some row.2.2 := by
  rw [index_intake]
  refine find?_putAll (nodup_fitting hnodup) (List.mem_map_of_mem ?_)
  exact List.mem_filter.mpr ⟨hrow, hfits⟩

/-! ### Rankings -/

/-- An index of the dimension of a query ranks, and an index of another one does not. -/
lemma rank_isOk_iff {query : Vec} :
    (∃ hits, index.rank query = .ok hits) ↔ query.length = index.dimension := by
  unfold rank
  split
  · rename_i hne
    simp [hne]
  · rename_i heq
    simp [not_not.mp heq]

/-- A ranking by an index that names every chunk once has the chunks that compare with the query,
each with its similarity. -/
lemma ranked_of_rank (hnodup : (index.entries.map (·.1)).Nodup) {query : Vec} {hits : List Hit}
    (h : index.rank query = .ok hits) :
    Ranked (fun hit : Hit => (hit.similarity, hit.chunk)) hits ∧
      ∀ hit, hit ∈ hits ↔ ∃ e ∈ index.entries, e.1 = hit.chunk ∧
        Vec.similarity? query e.2 = some hit.similarity := by
  unfold rank at h
  split at h
  · cases h
  cases h
  rw [Hit.before_eq]
  refine ⟨Ranked.mergeSort (nodup_map_filterMap hnodup ?_), ?_⟩
  · rintro ⟨chunk, v⟩ hit heq
    obtain ⟨similarity, -, rfl⟩ := Option.map_eq_some_iff.mp heq
    rfl
  · intro hit
    rw [List.mem_mergeSort, List.mem_filterMap]
    constructor
    · rintro ⟨⟨chunk, v⟩, he, heq⟩
      obtain ⟨similarity, hsimilarity, rfl⟩ := Option.map_eq_some_iff.mp heq
      exact ⟨_, he, rfl, hsimilarity⟩
    · rintro ⟨⟨chunk, v⟩, he, rfl, hsimilarity⟩
      exact ⟨_, he, Option.map_eq_some_iff.mpr ⟨_, hsimilarity, rfl⟩⟩

/-- A ranking depends on the entries of an index, not on their order. -/
lemma rank_eq_of_perm {index' : VectorIndex} (hdim : index'.dimension = index.dimension)
    (hperm : index.entries.Perm index'.entries) (hnodup : (index.entries.map (·.1)).Nodup)
    (query : Vec) : index.rank query = index'.rank query := by
  by_cases hlength : query.length = index.dimension
  · obtain ⟨hits, hhits⟩ := rank_isOk_iff.mpr hlength
    obtain ⟨hits', hhits'⟩ := rank_isOk_iff.mpr (hlength.trans hdim.symm)
    obtain ⟨hranked, hmem⟩ := ranked_of_rank hnodup hhits
    have hnodup' := (hperm.map (·.1)).nodup_iff.mp hnodup
    obtain ⟨hranked', hmem'⟩ := ranked_of_rank hnodup' hhits'
    have heq : hits = hits' := by
      refine hranked.eq_of_members hranked' fun hit => ?_
      rw [hmem, hmem']
      simp only [hperm.mem_iff]
    rw [hhits, hhits', heq]
  · unfold rank
    rw [hdim, if_pos hlength, if_pos hlength]

end Dossier.VectorIndex
