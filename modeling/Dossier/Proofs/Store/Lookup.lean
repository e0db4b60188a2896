import Dossier.Proofs.Store.Keyed

/-!
# Vectors that are looked up

The tables of a store keep the names of chunks apart, hold at most one vector of a chunk for a
tenant, and number vectors from one (`Store.Constrained`).  Nothing else is certain of a store that
was written under another configuration: records may be deleted with their chunks in place, and
vectors may be of any dimension, of any tenant or missing.  Even so the vectors that are loaded for
some chunks are those that the store holds for them, at most one for each.
-/

namespace Dossier.Store

variable {s t : Store} {tenant : String} {ids : List Id} {rows : List (Id × Vec)} {chunk : Id}
  {v w : Vec}

/-- The store holds a vector of a chunk for a tenant. -/
def Holds (s : Store) (tenant : String) (chunk : Id) (v : Vec) : Prop :=
  ∃ row ∈ s.vectors, row.chunk = chunk ∧ row.tenant = tenant ∧ StoredVector.value row = .ok v

/-- A store with the same tables holds the same vectors. -/
lemma Holds.of_sameTables (h : s.Holds tenant chunk v) (hsame : SameTables s t) :
    t.Holds tenant chunk v := by
  unfold Holds
  rw [hsame.vectors]
  exact h

/-- A store whose tables are as they must be: chunks have names of their own, a chunk has at most
one vector for a tenant, and vectors are numbered from one. -/
structure Constrained (s : Store) : Prop where
  chunks : (s.chunks.map (·.id)).Nodup
  vectors : (s.vectors.map fun v => (v.chunk, v.tenant)).Nodup
  numbered : ∀ v ∈ s.vectors, 0 < v.seq

/-- The tables of a keyed store are as they must be. -/
lemma Keyed.constrained (hs : s.Keyed) : s.Constrained where
  chunks := hs.chunks
  vectors := by
    refine List.Nodup.of_map Prod.fst ?_
    rw [List.map_map]
    exact hs.vectors
  numbered := fun v hv => (hs.bounded v hv).1

/-- A store holds at most one vector of a chunk for a tenant. -/
lemma Constrained.holds_unique (hs : s.Constrained) (h : s.Holds tenant chunk v)
    (h' : s.Holds tenant chunk w) : v = w := by
  obtain ⟨row, hrow, hchunk, htenant, hvalue⟩ := h
  obtain ⟨row', hrow', hchunk', htenant', hvalue'⟩ := h'
  have hsame : (row.chunk, row.tenant) = (row'.chunk, row'.tenant) := by
    rw [hchunk, htenant, hchunk', htenant']
  rw [List.inj_on_of_nodup_map hs.vectors hrow hrow' hsame, hvalue'] at hvalue
  cases hvalue
  rfl

/-- The rows of some batches are the rows of the tenant for the chunks in them. -/
lemma mem_flatMap_vectorBatch {row : StoredVector} :
    row ∈ (batches batchLimit ids).flatMap (vectorBatch s tenant) ↔
      row ∈ s.vectors ∧ row.tenant = tenant ∧ row.chunk ∈ ids := by
  have hids : row.chunk ∈ ids ↔ ∃ batch ∈ batches batchLimit ids, row.chunk ∈ batch := by
    conv_lhs => rw [← flatten_batches batchLimit ids]
    exact List.mem_flatten
  rw [List.mem_flatMap, hids]
  unfold vectorBatch
  constructor
  · rintro ⟨batch, hbatch, hrow⟩
    rw [List.mem_mergeSort, List.mem_filter, Bool.and_eq_true, beq_iff_eq,
      List.contains_iff_mem] at hrow
    exact ⟨hrow.1, hrow.2.1, batch, hbatch, hrow.2.2⟩
  · rintro ⟨hrow, htenant, batch, hbatch, hmem⟩
    refine ⟨batch, hbatch, ?_⟩
    rw [List.mem_mergeSort, List.mem_filter, Bool.and_eq_true, beq_iff_eq, List.contains_iff_mem]
    exact ⟨hrow, htenant, hmem⟩

/-- The vectors that are loaded for some chunks are those that the store holds. -/
lemma loadVectors_eq_ok (h : perform (loadVectors tenant ids) s = (.ok rows, t)) :
    t = s ∧ ∀ chunk v, (chunk, v) ∈ rows ↔ chunk ∈ ids ∧ s.Holds tenant chunk v := by
  unfold loadVectors at h
  obtain ⟨-, h⟩ := perform_statement_eq_ok.mp h
  rcases hfound : ((batches batchLimit ids).flatMap (vectorBatch s tenant)).mapM fun row =>
      (StoredVector.value row).map fun value => (row.chunk, value) with e | found
  · rw [hfound] at h
    cases h
  · rw [hfound] at h
    cases h
    refine ⟨rfl, fun chunk v => ?_⟩
    rw [mem_of_mapM_eq_ok hfound]
    constructor
    · rintro ⟨row, hrow, hvalue⟩
      obtain ⟨hmem, htenant, hid⟩ := mem_flatMap_vectorBatch.mp hrow
      rcases hread : StoredVector.value row with e | value
      · rw [hread] at hvalue
        cases hvalue
      · rw [hread] at hvalue
        cases hvalue
        exact ⟨hid, row, hmem, rfl, htenant, hread⟩
    · rintro ⟨hid, row, hmem, rfl, htenant, hread⟩
      refine ⟨row, mem_flatMap_vectorBatch.mpr ⟨hmem, htenant, hid⟩, ?_⟩
      rw [hread]
      rfl

/-- The vector that is found for a chunk is the one that the store holds. -/
lemma Constrained.find?_loadVectors (hs : s.Constrained)
    (h : perform (loadVectors tenant ids) s = (.ok rows, t)) (hid : chunk ∈ ids) :
    (rows.find? (·.1 == chunk)).map (·.2) = some v ↔ s.Holds tenant chunk v := by
  obtain ⟨-, hrows⟩ := loadVectors_eq_ok h
  constructor
  · intro hfind
    obtain ⟨⟨id, value⟩, hpair, rfl⟩ := Option.map_eq_some_iff.mp hfind
    have hwhich := List.find?_some hpair
    obtain rfl : id = chunk := beq_iff_eq.mp hwhich
    exact ((hrows id value).mp (List.mem_of_find?_eq_some hpair)).2
  · intro hheld
    have hfind : rows.find? (·.1 == chunk) = some (chunk, v) := by
      refine find?_eq_some_of_unique ((hrows chunk v).mpr ⟨hid, hheld⟩) (beq_self_eq_true chunk) ?_
      rintro ⟨id, value⟩ hother hwhich
      obtain rfl : id = chunk := beq_iff_eq.mp hwhich
      rw [hs.holds_unique ((hrows id value).mp hother).2 hheld]
    rw [hfind]
    rfl

/-- The vector that is found for a chunk is the one that a keyed store holds. -/
lemma Keyed.find?_loadVectors (hs : s.Keyed)
    (h : perform (loadVectors tenant ids) s = (.ok rows, t)) (hid : chunk ∈ ids) :
    (rows.find? (·.1 == chunk)).map (·.2) = some v ↔ s.Holds tenant chunk v :=
  hs.constrained.find?_loadVectors h hid

end Dossier.Store
