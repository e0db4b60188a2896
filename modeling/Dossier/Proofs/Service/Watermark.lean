import Dossier.Proofs.Service.Reachable
import Dossier.Proofs.Store.Live
import Dossier.Proofs.Vector.Index
import Dossier.Proofs.Vector.Text

/-!
# What a process has seen of the vectors

A process remembers the number of the last vector that it has taken over from the store.
`Memory.Tracks` is what this number stands for: a stored vector up to it that has the dimension of
the index is in the index, with the value that its text has.  Nothing is said of vectors with
greater numbers nor of entries whose vectors are gone.  So the process may put vectors in place
itself without moving the number, and others may write and delete what they like
(`Tracks.of_ensues`); and when the process takes over what was written since, it has all
(`Tracks.seen_follow`).
-/

namespace Dossier

variable {σ : Type}

/-! ### Listed vectors -/

namespace Store

variable {s t : Store}

/-- The value of a stored vector is what its text reads as. -/
lemma StoredVector.value_eq_ok_iff {v : StoredVector} {x : Vec} :
    value v = .ok x ↔ Vec.parse v.text = .ok x := by
  unfold value
  rcases Vec.parse v.text with e | y <;> simp [Except.mapError]

/-- Every vector of a keyed store can be read. -/
lemma Keyed.exists_value (hs : s.Keyed) {v : StoredVector} (hv : v ∈ s.vectors) :
    ∃ x, StoredVector.value v = .ok x ∧ x.length = v.dimension := by
  obtain ⟨x, htext, hlength⟩ := hs.rendered v hv
  refine ⟨x.map Binary.written, ?_, (List.length_map _).trans hlength⟩
  unfold StoredVector.value
  rw [htext, Vec.parse_text]
  rfl

/-- Every vector of a keyed store is listed. -/
lemma Keyed.isLiveVector_of_mem (hs : s.Keyed) {v : StoredVector} (hv : v ∈ s.vectors) :
    s.isLiveVector v = true := by
  obtain ⟨c, hc, hid, -, r, hr, hrecord, htenant⟩ := hs.backed v hv
  have hcontext : s.context? c = some ⟨c, r⟩ := by
    unfold context?
    rw [← hrecord, hs.record?_eq_some hr]
    exact if_pos (hs.live_of_chunk hc hr hrecord)
  unfold isLiveVector
  rw [← hid, hs.chunk?_eq_some hc, Option.bind_some, hcontext]
  exact beq_iff_eq.mpr htenant

/-- The vectors of a keyed store can be listed. -/
lemma Keyed.exists_listedAfter (hs : s.Keyed) (seq : Nat) :
    ∃ rows, s.listedAfter seq = .ok rows := by
  refine exists_mapM_eq_ok ?_
  intro v hv
  obtain ⟨x, hx, -⟩ := hs.exists_value (List.mem_filter.mp hv).1
  refine ⟨(v.seq, v.chunk, x), ?_⟩
  rw [hx]
  rfl

/-- A vector as it is listed. -/
lemma listed_eq_ok {v : StoredVector} {row : ListedVector}
    (h : ((StoredVector.value v).map fun x => (v.seq, v.chunk, x)) = .ok row) :
    StoredVector.value v = .ok row.2.2 ∧ v.seq = row.1 ∧ v.chunk = row.2.1 := by
  rcases hv : StoredVector.value v with e | x
  · rw [hv] at h
    cases h
  · rw [hv] at h
    cases h
    exact ⟨rfl, rfl, rfl⟩

/-- The rows of a listing are the vectors of live chunks behind the number, with their values. -/
lemma mem_listedAfter_iff {seq : Nat} {rows : List ListedVector} (h : s.listedAfter seq = .ok rows)
    {row : ListedVector} :
    row ∈ rows ↔ ∃ v ∈ s.vectors, seq < v.seq ∧ s.isLiveVector v = true ∧
      StoredVector.value v = .ok row.2.2 ∧ v.seq = row.1 ∧ v.chunk = row.2.1 := by
  unfold listedAfter at h
  rw [mem_of_mapM_eq_ok h]
  constructor
  · rintro ⟨v, hv, hrow⟩
    obtain ⟨hmem, hlisted⟩ := List.mem_filter.mp hv
    rw [Bool.and_eq_true, decide_eq_true_eq] at hlisted
    exact ⟨v, hmem, hlisted.1, hlisted.2, listed_eq_ok hrow⟩
  · rintro ⟨v, hv, hseq, hlive, hvalue, hnumber, hchunk⟩
    refine ⟨v, List.mem_filter.mpr ⟨hv, ?_⟩, ?_⟩
    · rw [hlive, Bool.and_true, decide_eq_true_eq]
      exact hseq
    · rw [hvalue, hnumber, hchunk]
      rfl

/-- The rows of a listing of a keyed store are the vectors behind the number, with their values. -/
lemma Keyed.mem_listedAfter (hs : s.Keyed) {seq : Nat} {rows : List ListedVector}
    (h : s.listedAfter seq = .ok rows) {row : ListedVector} :
    row ∈ rows ↔ ∃ v ∈ s.vectors, seq < v.seq ∧ StoredVector.value v = .ok row.2.2 ∧
      v.seq = row.1 ∧ v.chunk = row.2.1 := by
  rw [mem_listedAfter_iff h]
  constructor
  · rintro ⟨v, hv, hseq, -, hrow⟩
    exact ⟨v, hv, hseq, hrow⟩
  · rintro ⟨v, hv, hseq, hrow⟩
    exact ⟨v, hv, hseq, hs.isLiveVector_of_mem hv, hrow⟩

/-- A listing of a keyed store names a chunk once. -/
lemma Keyed.nodup_listedAfter (hs : s.Keyed) {seq : Nat} {rows : List ListedVector}
    (h : s.listedAfter seq = .ok rows) : (rows.map (·.2.1)).Nodup := by
  unfold listedAfter at h
  rw [map_eq_of_mapM_eq_ok h fun v row hrow => (listed_eq_ok hrow).2.2.symm]
  exact hs.vectors.sublist (List.filter_sublist.map _)

/-- The vectors of other records are those of none of a record's chunks. -/
lemma mem_vectorsBeside_iff {record : Id} {v : StoredVector} :
    v ∈ s.vectorsBeside record ↔ v ∈ s.vectors ∧ v.chunk ∉ s.chunkIds record := by
  rw [mem_vectorsBeside, mem_chunkIds]
  simp

/-- The transaction of a draft drops the vectors of the chunks that it replaces. -/
lemma mem_vectors_staging {d : Draft} {fresh : Nat → Id} {now : Instant} {staged : Staged}
    (h : d.Staging fresh now s staged t) {v : StoredVector} :
    v ∈ t.vectors ↔ v ∈ s.vectors ∧ v.chunk ∉ staged.replaced := by
  cases h with
  | created hnone hid hrows =>
    change v ∈ s.vectors ↔ v ∈ s.vectors ∧ v.chunk ∉ []
    simp
  | replaced hheld hrows => exact mem_vectorsBeside_iff

end Store

/-- A number behind some vectors is at most every bound of the number before and of the vectors. -/
lemma lastNumber_le {least bound : Nat} {rows : List ListedVector} (hleast : least ≤ bound)
    (hrows : ∀ row ∈ rows, row.1 ≤ bound) : lastNumber least rows ≤ bound := by
  unfold lastNumber
  induction rows generalizing least with
  | nil => exact hleast
  | cons first rest ih =>
    have hfirst := hrows first List.mem_cons_self
    exact ih (Nat.max_le.mpr ⟨hleast, hfirst⟩) fun row hrow =>
      hrows row (List.mem_cons_of_mem _ hrow)

/-! ### What the watermark stands for -/

/-- What a process knows of a store by the number that it remembers: the values of the vectors up to
this number whose dimension is that of its index.  The index names a chunk once. -/
structure Memory.Tracks (m : Memory) (s : Store) : Prop where
  named : (m.vectors.entries.map (·.1)).Nodup
  seen : ∀ v ∈ s.vectors, v.seq ≤ m.watermark → v.dimension = m.vectors.dimension →
    ∃ x, Store.StoredVector.value v = .ok x ∧ (v.chunk, x) ∈ m.vectors.entries
  bounded : m.watermark ≤ s.lastSeq

/-- Taking vectors into an index keeps its dimension. -/
lemma Memory.dimension_takingIn (m : Memory) (written : List (Id × Vec)) :
    (m.takingIn written).vectors.dimension = m.vectors.dimension := by
  unfold takingIn
  split
  · rename_i vectors h
    rw [VectorIndex.upsertAll_eq_ok h]
    exact VectorIndex.dimension_putAll
  · rfl

/-- What a process has taken in is in its index besides what it had. -/
lemma Memory.mem_takingIn {m : Memory} {written : List (Id × Vec)} {e : Id × Vec}
    (h : e ∈ (m.takingIn written).vectors.entries) : e ∈ m.vectors.entries ∨ e ∈ written := by
  unfold takingIn at h
  split at h
  · rename_i vectors hupsert
    rw [VectorIndex.upsertAll_eq_ok hupsert] at h
    exact VectorIndex.of_mem_putAll h
  · exact .inl h

/-- Taking over vectors keeps the dimension of the index. -/
lemma Memory.dimension_follow (m : Memory) (rows : List ListedVector) :
    (m.follow rows).vectors.dimension = m.vectors.dimension :=
  VectorIndex.dimension_intake rows

/-- Making the indexes anew keeps the dimension of the vector index. -/
lemma Memory.dimension_rebuilt (m : Memory) (sources : List ChunkContext)
    (rows : List ListedVector) :
    (m.rebuilt sources rows).vectors.dimension = m.vectors.dimension := by
  have hcleared : m.vectors.clear.dimension = m.vectors.dimension := rfl
  exact (VectorIndex.dimension_intake rows).trans hcleared

namespace Memory.Tracks

variable {s t : Store} {m m' : Memory} {rows : List ListedVector}

/-- A process with an empty index that has seen nothing tracks every keyed store. -/
lemma of_unseen (hs : s.Keyed) (hempty : m.vectors.entries = []) (hunseen : m.watermark = 0) :
    m.Tracks s where
  named := by
    rw [hempty]
    exact List.nodup_nil
  seen := by
    intro v hv hseq
    have hpos := (hs.bounded v hv).1
    omega
  bounded := by
    rw [hunseen]
    exact Nat.zero_le _

/-- Whatever else of the memory changes, a process with the same index and the same number tracks
the store. -/
lemma of_index (h : m.Tracks s) (hvectors : m'.vectors = m.vectors)
    (hmark : m'.watermark = m.watermark) : m'.Tracks s where
  named := by
    rw [hvectors]
    exact h.named
  seen := by
    rw [hvectors, hmark]
    exact h.seen
  bounded := by
    rw [hmark]
    exact h.bounded

/-- A process tracks what has become of a store: what was written has numbers that it has not seen,
and what was deleted does not matter. -/
lemma of_ensues {new : Id → Prop} (h : m.Tracks s) (hensues : Store.Ensues new s t) :
    m.Tracks t where
  named := h.named
  seen := by
    intro v hv hseq hdim
    rcases hensues.written v hv with hold | hlate
    · exact h.seen v hold hseq hdim
    · have hbounded := h.bounded
      omega
  bounded := Nat.le_trans h.bounded hensues.number

/-- A process may drop chunks that have no vectors. -/
lemma without (h : m.Tracks s) {gone : List Id} (hgone : ∀ v ∈ s.vectors, v.chunk ∉ gone)
    (hvectors : m'.vectors = m.vectors.remove gone) (hmark : m'.watermark = m.watermark) :
    m'.Tracks s where
  named := by
    rw [hvectors]
    exact h.named.sublist (List.filter_sublist.map _)
  seen := by
    rw [hvectors, hmark]
    intro v hv hseq hdim
    obtain ⟨x, hx, he⟩ := h.seen v hv hseq hdim
    exact ⟨x, hx, VectorIndex.mem_remove.mpr ⟨he, hgone v hv⟩⟩
  bounded := by
    rw [hmark]
    exact h.bounded

/-- A process may take in vectors of chunks of which it has seen none. -/
lemma takingIn (h : m.Tracks s) {written : List (Id × Vec)}
    (hfree : ∀ v ∈ s.vectors, v.seq ≤ m.watermark → v.chunk ∉ written.map (·.1)) :
    (m.takingIn written).Tracks s := by
  unfold Memory.takingIn
  split
  · rename_i vectors hupsert
    obtain rfl := VectorIndex.upsertAll_eq_ok hupsert
    refine ⟨VectorIndex.nodup_putAll h.named, ?_, h.bounded⟩
    intro v hv hseq hdim
    rw [VectorIndex.dimension_putAll] at hdim
    obtain ⟨x, hx, he⟩ := h.seen v hv hseq hdim
    exact ⟨x, hx, VectorIndex.mem_putAll_of_not_mem he (hfree v hv hseq)⟩
  · exact h

/-- A process that takes in the vectors of a batch that count tracks the store behind the
commitment. -/
lemma committed (h : m.Tracks s) (hs : s.Keyed) (tenant : String) (record : Id) (version : String)
    (now : Instant) (batch : List (StoredChunk × Vec)) :
    (m.takingIn (Store.counted tenant version s batch)).Tracks
      (s.committed tenant record version now batch) := by
  have hensues : Store.Ensues (fun _ => False) s (s.committed tenant record version now batch) :=
    Store.ensues_committed s tenant record version now batch
  refine (h.of_ensues hensues).takingIn ?_
  intro v hv hseq hcounted
  -- What the process has seen was there before, and then its chunk was not pending.
  have hbounded := h.bounded
  have hold := (hensues.written v hv).resolve_right (by omega)
  obtain ⟨entry, hentry, hchunk⟩ := List.mem_map.mp hcounted
  have hpending := Store.isPending_of_mem_counted hentry
  exact hs.not_vector_of_isPending hpending v hold hchunk.symm

/-! ### Taking over what was written -/

/-- The index of a process that takes over what was written since: the rows that fit, and its own
entries for the other chunks. -/
lemma mem_entries_follow (hs : s.Keyed) (hrows : s.listedAfter m.watermark = .ok rows)
    {e : Id × Vec} :
    e ∈ (m.follow rows).vectors.entries ↔
      (∃ row ∈ rows, m.vectors.fits row ∧ row.2 = e) ∨
        e ∈ m.vectors.entries ∧ ∀ row ∈ rows, m.vectors.fits row → row.2.1 ≠ e.1 :=
  VectorIndex.mem_intake (hs.nodup_listedAfter hrows)

/-- A process that has taken over what was written since has every stored vector of the dimension of
its index. -/
theorem seen_follow (h : m.Tracks s) (hs : s.Keyed)
    (hrows : s.listedAfter m.watermark = .ok rows) {v : StoredVector} (hv : v ∈ s.vectors)
    (hdim : v.dimension = m.vectors.dimension) :
    ∃ x, Store.StoredVector.value v = .ok x ∧ (v.chunk, x) ∈ (m.follow rows).vectors.entries := by
  by_cases hseen : v.seq ≤ m.watermark
  · obtain ⟨x, hx, he⟩ := h.seen v hv hseen hdim
    refine ⟨x, hx, (mem_entries_follow hs hrows).mpr (.inr ⟨he, ?_⟩)⟩
    -- A chunk has one vector only, so that none is listed for this chunk.
    intro row hin _ hchunk
    obtain ⟨v', hv', hlate, -, -, hchunk'⟩ := (hs.mem_listedAfter hrows).mp hin
    obtain rfl := hs.vector_eq hv' hv (hchunk'.trans hchunk)
    omega
  · obtain ⟨x, hx, hlength⟩ := hs.exists_value hv
    have hin : (v.seq, v.chunk, x) ∈ rows :=
      (hs.mem_listedAfter hrows).mpr ⟨v, hv, Nat.lt_of_not_le hseen, hx, rfl, rfl⟩
    have hfits : m.vectors.fits (v.seq, v.chunk, x) = true := beq_iff_eq.mpr (hlength.trans hdim)
    exact ⟨x, hx, (mem_entries_follow hs hrows).mpr (.inl ⟨_, hin, hfits, rfl⟩)⟩

/-- A process that takes over what was written since tracks the store. -/
lemma followed (h : m.Tracks s) (hs : s.Keyed) (hrows : s.listedAfter m.watermark = .ok rows) :
    (m.follow rows).Tracks s where
  named := VectorIndex.nodup_intake h.named rows
  seen := by
    rw [dimension_follow]
    exact fun v hv _ hdim => h.seen_follow hs hrows hv hdim
  bounded := by
    refine lastNumber_le h.bounded ?_
    intro row hin
    obtain ⟨v, hv, -, -, hnumber, -⟩ := (hs.mem_listedAfter hrows).mp hin
    rw [← hnumber]
    exact (hs.bounded v hv).2

/-- A process that makes its indexes anew tracks the store, whatever it has known before. -/
lemma rebuilt (hs : s.Keyed) {sources : List ChunkContext} (hrows : s.listedAfter 0 = .ok rows) :
    (m.rebuilt sources rows).Tracks s := by
  have hcleared : Tracks { m with
      lexical := Memory.lexicalOf sources
      vectors := m.vectors.clear
      watermark := 0 } s := .of_unseen hs rfl rfl
  exact hcleared.followed hs hrows

end Memory.Tracks

/-! ### Processes at work -/

variable {svc : Service σ} {w w' : World σ}

/-- A process tracks its store when the same tables and indexes are left. -/
lemma Memory.Tracks.still (hw : w.memory.Tracks w.store) (h : w.Still w') :
    w'.memory.Tracks w'.store := by
  have hensues : Store.Ensues (fun _ => False) w.store w'.store := h.tables.ensues
  exact (hw.of_ensues hensues).of_index h.vectors h.watermark

/-- Behind a move for a tenant the process tracks the store. -/
lemma MoveOf.tracks {tenant : String} (h : MoveOf svc tenant w w') (hs : w.store.Keyed)
    (hw : w.memory.Tracks w.store) : w'.memory.Tracks w'.store := by
  have hchanged : ∀ t, Store.Ensues (fun _ => False) w.store t → w.memory.Tracks t :=
    fun t => hw.of_ensues
  cases h with
  | still h => exact hw.still h
  | staged htenant hd h =>
    refine (hw.of_ensues (Store.ensues_staging hs.owner h)).without ?_ rfl rfl
    exact fun v hv => ((Store.mem_vectors_staging h).mp hv).2
  | @retired r hr htenant now =>
    refine (hchanged _ (Store.ensues_retired w.store r now)).without ?_ rfl rfl
    exact fun v hv => (Store.mem_vectorsBeside_iff.mp hv).2
  | committed record now hlength hdim => exact hw.committed hs _ _ _ _ _
  | failed record error => exact hchanged _ (Store.ensues_failed _ _ _)
  | followed h => exact hw.followed hs h

/-- Behind a move the process tracks the store. -/
lemma Move.tracks (h : Move svc w w') (hs : w.store.Keyed) (hw : w.memory.Tracks w.store) :
    w'.memory.Tracks w'.store := by
  cases h with
  | of tenant h => exact h.tracks hs hw
  | requeued =>
    have hensues : Store.Ensues (fun _ => False) w.store w.store.requeued :=
      Store.ensues_requeued w.store
    exact hw.of_ensues hensues
  | rebuilt hsources hrows => exact .rebuilt hs hrows

end Dossier
