import Dossier.Proofs.Service.Reachable

/-!
# What holds of every store that a service has written

The invariant of sound stores in the terms of whoever reads the store: which record is live for an
entity, what the chunks of a record are, what is left of a deleted record, and which chunks have a
vector.
-/

namespace Dossier

namespace Text

/-- The chunks of a text are counted from zero. -/
lemma map_index_chunks (chunking : Chunking) (cs : List Char) :
    (chunks chunking cs).map (·.index) = List.range (chunks chunking cs).length := by
  unfold chunks
  split
  · rfl
  · refine List.ext_getElem (by simp) ?_
    intro i hi hi'
    rw [List.getElem_map, List.getElem_mapIdx, List.getElem_range]
    rfl

/-- The extents of the chunks of a text are counted from zero. -/
lemma map_index_extents (chunking : Chunking) (text : String) :
    (extents chunking text).map Extent.index =
      (List.range (extents chunking text).length).map Int.ofNat := by
  have hindex : (extents chunking text).map Extent.index =
      ((chunks chunking text.toList).map (·.index)).map Int.ofNat := by
    unfold extents
    rw [List.map_map, List.map_map]
    rfl
  rw [hindex, map_index_chunks]
  unfold extents
  rw [List.length_map]

end Text

namespace Store

variable {chunking : Text.Chunking} {dimension : Nat} {s : Store}

/-- For every entity of a tenant the store has at most one live record. -/
def OneLiveEach (s : Store) : Prop :=
  ∀ tenant link, (s.records.filter (·.isLiveFor tenant link)).length ≤ 1

/-- The chunks of a record in order are counted from zero and are those that its raw text is cut
into, and its searchable text is that of its raw text. -/
structure CutFrom (chunking : Text.Chunking) (s : Store) (r : Record) : Prop where
  indices : (inOrder (s.chunksOf r.id)).map (·.index) =
    (List.range (s.chunksOf r.id).length).map Int.ofNat
  extents : (inOrder (s.chunksOf r.id)).map (·.extent) = Text.extents chunking r.content.raw
  normalized : r.content.normalized = Text.normalizeString r.content.raw

/-- The row of a record is in the store as it is, and no chunk and no vector belong to it. -/
structure Bare (s : Store) (r : Record) : Prop where
  row : s.record? r.id = some r
  chunks : s.chunksOf r.id = []
  vectors : ∀ v ∈ s.vectors, ∃ c ∈ s.chunks, c.id = v.chunk ∧ c.record ≠ r.id

/-- A chunk has exactly one vector, which has the tenant of the chunk's record and a dimension. -/
def HasVector (dimension : Nat) (s : Store) (c : StoredChunk) : Prop :=
  ∃ r v, s.record? c.record = some r ∧ s.vectors.filter (·.chunk == c.id) = [v] ∧
    v.tenant = r.tenant ∧ v.dimension = dimension

/-- A chunk is embedded exactly when it has its vector; then it has no error, and its record says
when it was indexed. -/
structure EmbeddedWithVector (dimension : Nat) (s : Store) (c : StoredChunk) : Prop where
  vector : c.status = .embedded ↔ s.HasVector dimension c
  clean : c.status = .embedded → c.lastError = none
  indexed : c.status = .embedded → ∃ r, s.record? c.record = some r ∧ r.indexedAt.isSome

/-- A sound store has at most one live record for every entity of a tenant. -/
lemma Sound.oneLiveEach (hs : Sound chunking dimension s) : s.OneLiveEach := by
  intro tenant link
  rcases hlist : s.records.filter (·.isLiveFor tenant link) with _ | ⟨a, _ | ⟨b, rest⟩⟩
  · rw [hlist]
    exact Nat.zero_le 1
  · rw [hlist]
    exact Nat.le_refl 1
  · have hmem : ∀ r ∈ a :: b :: rest, r ∈ s.records ∧ r.isLiveFor tenant link := by
      intro r hr
      rw [← hlist] at hr
      exact List.mem_filter.mp hr
    obtain ⟨ha, hfor⟩ := hmem a (by simp)
    obtain ⟨hb, hfor'⟩ := hmem b (by simp)
    have hnodup : ((a :: b :: rest).map (·.id)).Nodup := by
      rw [← hlist]
      exact hs.records.nodup.sublist (List.filter_sublist.map _)
    have heq := hs.records.linked a ha b hb tenant link hfor hfor'
    simp [heq] at hnodup

/-- The chunks of a live record of a sound store are in order already. -/
lemma Sound.inOrder_chunksOf (hs : Sound chunking dimension s) {r : Record} (hr : r ∈ s.records)
    (hlive : r.live) : inOrder (s.chunksOf r.id) = s.chunksOf r.id := by
  have hindices : (s.chunksOf r.id).map (·.index) =
      (List.range (Text.extents chunking r.content.raw).length).map Int.ofNat := by
    rw [← Text.map_index_extents, ← hs.chunks.covers r hr hlive, List.map_map]
    rfl
  unfold inOrder
  refine List.mergeSort_of_pairwise ?_
  have hsorted : ((s.chunksOf r.id).map (·.index)).Pairwise (· ≤ ·) := by
    rw [hindices, List.pairwise_map]
    exact List.pairwise_le_range.imp fun h => Int.ofNat_le.mpr h
  rw [List.pairwise_map] at hsorted
  exact hsorted.imp fun h => decide_eq_true h

/-- The chunks of a live record of a sound store are those that its text is cut into. -/
lemma Sound.cutFrom (hs : Sound chunking dimension s) {r : Record} (hr : r ∈ s.records)
    (hlive : r.live) : s.CutFrom chunking r := by
  have hextents : (s.chunksOf r.id).map (·.extent) = Text.extents chunking r.content.raw :=
    hs.chunks.covers r hr hlive
  have hlength : (Text.extents chunking r.content.raw).length = (s.chunksOf r.id).length := by
    rw [← hextents, List.length_map]
  refine ⟨?_, ?_, hs.records.normalized r hr⟩
  · rw [hs.inOrder_chunksOf hr hlive, ← hlength, ← Text.map_index_extents, ← hextents,
      List.map_map]
    rfl
  · rw [hs.inOrder_chunksOf hr hlive]
    exact hextents

/-- Nothing belongs to a deleted record of a sound store. -/
lemma Sound.bare (hs : Sound chunking dimension s) {r : Record} (hr : r ∈ s.records)
    (hdead : r.live = false) : s.Bare r := by
  have hnone := hs.chunksOf_of_not_live hr hdead
  refine ⟨hs.keyed.record?_eq_some hr, hnone, ?_⟩
  intro v hv
  obtain ⟨c, hc, hid, -⟩ := hs.vectors.backed v hv
  refine ⟨c, hc, hid, ?_⟩
  intro hrecord
  unfold chunksOf at hnone
  rw [List.filter_eq_nil_iff] at hnone
  exact hnone c hc (beq_iff_eq.mpr hrecord)

/-- The vectors of an embedded chunk of a sound store are one. -/
lemma VectorsSound.filter_eq_singleton (hs : VectorsSound dimension s) {v : StoredVector}
    (hv : v ∈ s.vectors) : s.vectors.filter (·.chunk == v.chunk) = [v] := by
  have hsub : s.vectors.filter (·.chunk == v.chunk) ⊆ [v] := by
    intro w hw
    obtain ⟨hmem, hchunk⟩ := List.mem_filter.mp hw
    rw [List.mem_singleton]
    exact List.inj_on_of_nodup_map hs.nodup hmem hv (beq_iff_eq.mp hchunk)
  have hmem : v ∈ s.vectors.filter (·.chunk == v.chunk) :=
    List.mem_filter.mpr ⟨hv, beq_self_eq_true v.chunk⟩
  have hnodup : (s.vectors.filter (·.chunk == v.chunk)).Nodup :=
    (List.Nodup.of_map _ hs.nodup).filter _
  have hperm : (s.vectors.filter (·.chunk == v.chunk)).Perm [v] := by
    refine (List.perm_ext_iff_of_nodup hnodup (List.nodup_singleton v)).mpr fun w => ?_
    constructor
    · exact fun hw => hsub hw
    · intro hw
      rw [List.mem_singleton] at hw
      rwa [hw]
  exact List.perm_singleton.mp hperm

/-- The embedded chunks of a sound store are those with a vector. -/
lemma Sound.embeddedWithVector (hs : Sound chunking dimension s) {c : StoredChunk}
    (hc : c ∈ s.chunks) : s.EmbeddedWithVector dimension c where
  vector := by
    constructor
    · intro hstatus
      obtain ⟨r, hr, hid, v, hv, hchunk, htenant, hdim⟩ := hs.vectors.covers c hc hstatus
      refine ⟨r, v, ?_, ?_, htenant, hdim⟩
      · rw [← hid]
        exact hs.keyed.record?_eq_some hr
      · rw [← hchunk]
        exact hs.vectors.filter_eq_singleton hv
    · rintro ⟨r, v, -, hfilter, -, -⟩
      have hv : v ∈ s.vectors.filter (·.chunk == c.id) := by
        rw [hfilter]
        exact List.mem_singleton_self v
      obtain ⟨hmem, hchunk⟩ := List.mem_filter.mp hv
      obtain ⟨c', hc', hid, hstatus⟩ := hs.vectors.backed v hmem
      rw [← hs.keyed.chunk_eq hc' hc (hid.trans (beq_iff_eq.mp hchunk))]
      exact hstatus
  clean := hs.vectors.clean c hc
  indexed := by
    intro hstatus
    obtain ⟨r, hr, hid, hindexed⟩ := hs.indexed c hc hstatus
    refine ⟨r, ?_, hindexed⟩
    rw [← hid]
    exact hs.keyed.record?_eq_some hr

end Store

/-! ### Reachable stores -/

variable {σ : Type} {svc : Service σ} {w : World σ}

/-- In every world that a service reaches from an empty store, by whatever operations succeed or
fail: an entity of a tenant has at most one live record; the chunks of a live record are those that
its text is cut into; a deleted record has neither chunks nor vectors, and its row stays as it is as
long as the service runs; and the embedded chunks are those with exactly one vector, of the tenant
of their record and of the dimension of the service, and then they have no error and their record
says when it was indexed. -/
theorem reachable_store_orderly (hq : svc.Quiet) (hw : Reachable svc w) :
    w.store.OneLiveEach ∧
      (∀ r ∈ w.store.records, r.live → w.store.CutFrom svc.cutting r) ∧
      (∀ r ∈ w.store.records, r.live = false → ∀ w', Run svc w w' → w'.store.Bare r) ∧
      ∀ c ∈ w.store.chunks, w.store.EmbeddedWithVector svc.dimension c := by
  have hs := hw.sound hq
  refine ⟨hs.oneLiveEach, ?_, ?_, ?_⟩
  · intro r hr hlive
    exact hs.cutFrom hr hlive
  · intro r hr hdead w' hrun
    have hs' := (hw.run hrun).sound hq
    exact hs'.bare (Run.keeps_deleted hq hrun hs hr hdead) hdead
  · intro c hc
    exact hs.embeddedWithVector hc

/-- A service on its own that has kept a note, embedded it and replaced it by another. -/
theorem reachable_store_orderly_standalone :
    let svc := Service.standalone .small
    let w := Service.standaloneAfter [.ingest (.sampleNote "acme" "Call" "Renewal is due."),
      .embedBacklog, .ingest (.sampleNote "acme" "Mail" "Renewal is done.")]
    svc.Quiet ∧ Reachable svc w ∧ w.store.OneLiveEach ∧
      (∀ r ∈ w.store.records, r.live → w.store.CutFrom svc.cutting r) ∧
      (∀ r ∈ w.store.records, r.live = false → ∀ w', Run svc w w' → w'.store.Bare r) ∧
      ∀ c ∈ w.store.chunks, w.store.EmbeddedWithVector svc.dimension c := by
  have hq := Service.quiet_standalone .small
  have hw := Service.reachable_standaloneAfter [
    .ingest (.sampleNote "acme" "Call" "Renewal is due."), .embedBacklog,
    .ingest (.sampleNote "acme" "Mail" "Renewal is done.")]
  exact ⟨hq, hw, reachable_store_orderly hq hw⟩

end Dossier
