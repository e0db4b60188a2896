import Dossier.Proofs.Service.Reachable
import Dossier.Proofs.Store.Live

/-!
# Batches that are still as they were listed

A batch is committed or given up after a call to the provider, and in general only some of its
chunks are pending by then.  When nobody has written to the store since the batch was listed, the
batch is `Ready`: every chunk of it is still there, pending, and named once.  Then all of it counts,
so that a commitment embeds exactly the chunks of the batch, each with the vector at its own
position, and a failure marks exactly the chunks of the batch.
-/

namespace Dossier

/-- A chunk once it is embedded. -/
def StoredChunk.embedded (c : StoredChunk) : StoredChunk :=
  { c with status := .embedded, lastError := none }

/-- A chunk once its embedding has failed. -/
def StoredChunk.failing (error : String) (c : StoredChunk) : StoredChunk :=
  { c with status := .failed, lastError := some error }

namespace Store

variable {s : Store} {tenant version : String} {record : Id} {batch : List StoredChunk}

/-- The store with the chunks of a batch changed. -/
def changeBatch (s : Store) (batch : List StoredChunk) (change : StoredChunk → StoredChunk) : Store :=
  s.changeChunks (fun c => decide (c ∈ batch)) change

/-- The rows of the vectors of a batch: the chunk at a position has the vector at this position. -/
def rowsOf (s : Store) (tenant version : String) (pairs : List (StoredChunk × Vec)) :
    List StoredVector :=
  pairs.mapIdx fun i pair =>
    ⟨s.lastSeq + i + 1, pair.1.id, tenant, version, pair.2.length, pair.2.text⟩

/-- The store with a batch embedded: its chunks, their vectors behind all others, and a note when
the record was indexed. -/
def withEmbedded (s : Store) (tenant : String) (record : Id) (version : String) (now : Instant)
    (batch : List StoredChunk) (vs : List Vec) : Store :=
  { s.changeBatch batch StoredChunk.embedded with
    vectors := s.vectors ++ s.rowsOf tenant version (batch.zip vs)
    lastSeq := s.lastSeq + batch.length
    records := s.records.map (noteOn record now) }

/-- The store with a batch failed. -/
def withFailed (s : Store) (batch : List StoredChunk) (error : String) : Store :=
  s.changeBatch batch (StoredChunk.failing error)

/-- A batch that is as it was listed: its chunks are stored, pending and named once, and whoever has
it knows of them. -/
structure Ready (s : Store) (tenant : String) (record : Id) (batch : List StoredChunk) : Prop where
  stored : ∀ c ∈ batch, c ∈ s.chunks ∧ c.status = .pending
  named : (batch.map (·.id)).Nodup
  knows : s.Knows tenant record batch

/-- The pending chunks of a record of a tenant are those of its chunks that are pending. -/
lemma Keyed.mem_pendingOf_iff (hs : s.Keyed) {r : Record} (hr : r ∈ s.records) {c : StoredChunk} :
    c ∈ s.pendingOf r.tenant r.id ↔ c ∈ s.chunks ∧ c.record = r.id ∧ c.status = .pending := by
  constructor
  · intro hc
    obtain ⟨hmem, hstatus, hrecord, -⟩ := mem_pendingOf hc
    exact ⟨hmem, hrecord, hstatus⟩
  · rintro ⟨hc, hrecord, hstatus⟩
    unfold pendingOf inOrder
    rw [List.mem_mergeSort, List.mem_map]
    refine ⟨⟨c, r⟩, List.mem_filter.mpr ⟨hs.mem_liveChunks hc hr hrecord.symm, ?_⟩, rfl⟩
    simp [hstatus]

/-- The pending chunks of a record are ready when they have been listed. -/
lemma Keyed.ready_pendingOf (hs : s.Keyed) (hsome : s.pendingOf tenant record ≠ []) :
    s.Ready tenant record (s.pendingOf tenant record) where
  stored := by
    intro c hc
    obtain ⟨hmem, hstatus, -⟩ := mem_pendingOf hc
    exact ⟨hmem, hstatus⟩
  named := by
    unfold pendingOf inOrder
    refine ((List.mergeSort_perm _ _).map _).nodup_iff.mpr ?_
    rw [List.map_map]
    exact hs.nodup_liveChunks.sublist (List.filter_sublist.map _)
  knows := hs.knows_pendingOf hsome

/-! ### Commitments -/

/-- It only matters which of the stored chunks are changed. -/
lemma changeChunks_congr {which which' : StoredChunk → Bool} {change : StoredChunk → StoredChunk}
    (h : ∀ c ∈ s.chunks, which c = which' c) :
    s.changeChunks which change = s.changeChunks which' change := by
  unfold changeChunks
  congr 1
  refine List.map_congr_left fun c hc => ?_
  rw [h c hc]

/-- Marking a pending chunk changes this chunk only. -/
lemma Keyed.marked_eq (hs : s.Keyed) {c : StoredChunk}
    (hc : c ∈ s.chunks ∧ c.status = .pending) :
    s.marked c.id = s.changeBatch [c] StoredChunk.embedded := by
  refine changeChunks_congr fun held hheld => ?_
  rw [Bool.eq_iff_iff, Bool.and_eq_true, beq_iff_eq, beq_iff_eq, decide_eq_true_eq,
    List.mem_singleton]
  constructor
  · rintro ⟨hid, -⟩
    exact hs.chunk_eq hheld hc.1 hid
  · rintro rfl
    exact ⟨rfl, hc.2⟩

/-- Committing a pair whose chunk is ready embeds this chunk and puts its vector behind all
others. -/
lemma Keyed.embedOne_eq (hs : s.Keyed) (tenant version : String) {pair : StoredChunk × Vec}
    (hpair : pair.1 ∈ s.chunks ∧ pair.1.status = .pending) :
    Store.embedOne tenant version s pair = { s.changeBatch [pair.1] StoredChunk.embedded with
      vectors := s.vectors ++ [s.vectorRow pair.1.id tenant version pair.2]
      lastSeq := s.lastSeq + 1 } := by
  have hpending : s.isPending pair.1.id := isPending_iff.mpr ⟨pair.1, hpair.1, rfl, hpair.2⟩
  unfold Store.embedOne
  rw [if_pos hpending, ← hs.marked_eq hpair, ← hs.vectors_withVector hpending]
  rfl

/-- The rest of a ready batch is ready when its first chunk has been committed. -/
lemma Ready.rest {pair : StoredChunk × Vec} {rest : List StoredChunk}
    (h : s.Ready tenant record (pair.1 :: rest)) (version : String) :
    (embedOne tenant version s pair).Ready tenant record rest where
  stored := by
    intro c hc
    obtain ⟨hmem, hstatus⟩ := h.stored c (List.mem_cons_of_mem _ hc)
    refine ⟨?_, hstatus⟩
    have hne : c.id ≠ pair.1.id := by
      intro heq
      exact (List.nodup_cons.mp h.named).1 (List.mem_map.mpr ⟨c, hc, heq⟩)
    unfold embedOne
    split
    · refine List.mem_map.mpr ⟨c, hmem, if_neg ?_⟩
      simp [hne]
    · exact hmem
  named := (List.nodup_cons.mp h.named).2
  knows := (h.knows.mono (List.subset_cons_self _ _)).embedOne version pair

/-- What is known of a ready batch is known of its first chunk. -/
lemma Ready.knows_first {c : StoredChunk} {rest : List StoredChunk}
    (h : s.Ready tenant record (c :: rest)) : s.Knows tenant record [c] := by
  refine h.knows.mono ?_
  intro c' hc'
  rw [List.mem_singleton.mp hc']
  exact List.mem_cons_self

/-- Every pair of a ready batch counts. -/
lemma Ready.counted_eq {pairs : List (StoredChunk × Vec)}
    (h : s.Ready tenant record (pairs.map (·.1))) :
    counted tenant version s pairs = pairs.map fun pair => (pair.1.id, pair.2) := by
  induction pairs generalizing s with
  | nil => rfl
  | cons pair rest ih =>
    obtain ⟨hmem, hstatus⟩ := h.stored pair.1 List.mem_cons_self
    unfold counted
    rw [if_pos (isPending_iff.mpr ⟨pair.1, hmem, rfl, hstatus⟩), ih (h.rest version)]
    rfl

/-- Embedding a chunk and then others comes to embedding all of them, as long as the first one is no
longer among the others once it is embedded. -/
lemma changeBatch_cons {c : StoredChunk} {rest : List StoredChunk} (hdone : c.embedded ∉ rest) :
    (s.changeBatch [c] StoredChunk.embedded).changeBatch rest StoredChunk.embedded =
      s.changeBatch (c :: rest) StoredChunk.embedded := by
  unfold changeBatch changeChunks
  rw [List.map_map]
  congr 1
  refine List.map_congr_left fun c' _ => ?_
  rw [Function.comp_apply]
  by_cases heq : c' = c
  · simp [heq, hdone]
  · simp [heq]

/-- The rows of a batch are the row of its first pair and those of the rest behind it. -/
lemma rowsOf_cons {t : Store} (pair : StoredChunk × Vec) (rest : List (StoredChunk × Vec))
    (hseq : t.lastSeq = s.lastSeq + 1) :
    s.rowsOf tenant version (pair :: rest) =
      s.vectorRow pair.1.id tenant version pair.2 :: t.rowsOf tenant version rest := by
  unfold rowsOf
  rw [List.mapIdx_cons, hseq]
  simp only [Nat.add_right_comm s.lastSeq 1]
  rfl

/-- Committing a ready batch embeds its chunks, each with its own vector. -/
lemma Ready.embedAll_eq (hs : s.Keyed) {pairs : List (StoredChunk × Vec)}
    (h : s.Ready tenant record (pairs.map (·.1))) :
    embedAll tenant version s pairs = { s.changeBatch (pairs.map (·.1)) StoredChunk.embedded with
      vectors := s.vectors ++ s.rowsOf tenant version pairs
      lastSeq := s.lastSeq + pairs.length } := by
  induction pairs generalizing s with
  | nil => simp [embedAll, changeBatch, changeChunks, rowsOf]
  | cons pair rest ih =>
    have hone := hs.embedOne_eq tenant version (h.stored pair.1 List.mem_cons_self)
    have hrest := ih (hs.embedOne h.knows_first version) (h.rest version)
    have hdone : pair.1.embedded ∉ rest.map (·.1) := by
      intro hmem
      have hpending := (h.stored _ (List.mem_cons_of_mem _ hmem)).2
      cases hpending
    have hseq : (embedOne tenant version s pair).lastSeq = s.lastSeq + 1 := by
      rw [hone]
    change embedAll tenant version (embedOne tenant version s pair) rest = _
    rw [hrest, rowsOf_cons pair rest hseq, hseq, hone, List.map_cons, ← changeBatch_cons hdone,
      List.length_cons, Nat.add_right_comm s.lastSeq 1, ← List.append_cons]
    rfl

/-- Committing a ready batch, which is not empty, with one vector for each of its chunks. -/
lemma Ready.committed_eq (hs : s.Keyed) (h : s.Ready tenant record batch) (hsome : batch ≠ [])
    {vs : List Vec} (hlength : vs.length = batch.length) (now : Instant) :
    s.committed tenant record version now (batch.zip vs) =
      s.withEmbedded tenant record version now batch vs := by
  have hfirst : (batch.zip vs).map (·.1) = batch :=
    List.map_fst_zip (Nat.le_of_eq hlength.symm)
  have hready : s.Ready tenant record ((batch.zip vs).map (·.1)) := by
    rwa [hfirst]
  have hzip : (batch.zip vs).length = batch.length := by
    rw [List.length_zip, hlength, Nat.min_self]
  unfold committed
  rw [if_neg, hready.embedAll_eq hs, hfirst, hzip]
  · rfl
  · rw [hready.counted_eq, List.isEmpty_iff, List.map_eq_nil_iff]
    intro hnil
    rw [hnil] at hfirst
    exact hsome hfirst.symm

/-! ### Failures -/

/-- A statement that writes and is not refused does what it says. -/
lemma perform_writing_of_accepted {α : Type} {st : Statement} (haccepts : s.refused = [])
    (write : Store → α × Store) : perform (writing st write) s = (.ok (write s).1, (write s).2) := by
  refine perform_writing_eq_ok.mpr ⟨?_, rfl⟩
  rw [haccepts]
  exact List.not_mem_nil

/-- A ready batch fails as a whole, and nothing else does. -/
lemma Ready.failed_eq (hs : s.Keyed) (h : s.Ready tenant record batch) (error : String) :
    s.failed (batch.map (·.id)) error = s.withFailed batch error := by
  refine changeChunks_congr fun c hc => ?_
  rw [Bool.eq_iff_iff, Bool.and_eq_true, List.contains_iff_mem, beq_iff_eq, decide_eq_true_eq]
  constructor
  · rintro ⟨hid, -⟩
    obtain ⟨c', hc', heq⟩ := List.mem_map.mp hid
    rwa [← hs.chunk_eq (h.stored c' hc').1 hc heq]
  · intro hmem
    exact ⟨List.mem_map_of_mem hmem, (h.stored c hmem).2⟩

end Store

end Dossier
