import Dossier.Proofs.Store.Succession

/-!
# Live chunks

What a tenant may be shown of a store: the chunks of its live records.  `LiveChunk` says that a
chunk is one of them, and the lemmas say which changes of the store keep it so and what
`loadContexts` finds.
-/

namespace Dossier

namespace Store

/-- Is there a chunk with an identifier, of a live record of a tenant with another? -/
def LiveChunk (s : Store) (tenant : String) (record chunk : Id) : Prop :=
  (∃ r ∈ s.records, r.id = record ∧ r.live ∧ r.tenant = tenant) ∧
    ∃ c ∈ s.chunks, c.id = chunk ∧ c.record = record

variable {chunking : Text.Chunking} {dimension : Nat} {s t : Store} {tenant : String}
  {record chunk : Id}

/-! ### Chunks with their records -/

/-- The chunks of live records are the chunks whose records are found and live. -/
lemma mem_liveChunks {ctx : ChunkContext} :
    ctx ∈ s.liveChunks ↔
      ctx.chunk ∈ s.chunks ∧ s.record? ctx.chunk.record = some ctx.record ∧ ctx.record.live := by
  unfold liveChunks
  rw [List.mem_filterMap]
  constructor
  · rintro ⟨c, hc, hctx⟩
    unfold context? at hctx
    split at hctx
    · rename_i r hr
      split at hctx
      · rename_i hlive
        cases hctx
        exact ⟨hc, hr, hlive⟩
      · cases hctx
    · cases hctx
  · rintro ⟨hc, hr, hlive⟩
    refine ⟨ctx.chunk, hc, ?_⟩
    unfold context?
    rw [hr]
    dsimp only
    rw [if_pos hlive]

/-- The record that an identifier finds is in the store and has this identifier. -/
lemma of_record?_eq_some {id : Id} {r : Record} (h : s.record? id = some r) :
    r ∈ s.records ∧ r.id = id := by
  unfold record? at h
  have hid := List.find?_some h
  rw [beq_iff_eq] at hid
  exact ⟨List.mem_of_find?_eq_some h, hid⟩

/-- The chunks of live records are in the order of the chunks, each once. -/
lemma Keyed.nodup_liveChunks (hs : s.Keyed) : (s.liveChunks.map (·.chunk.id)).Nodup := by
  have hchunk : ∀ c ctx, s.context? c = some ctx → ctx.chunk = c := by
    intro c ctx hctx
    unfold context? at hctx
    split at hctx
    · split at hctx
      · cases hctx
        rfl
      · cases hctx
    · cases hctx
  refine nodup_map_filterMap hs.chunks ?_
  intro c ctx hctx
  rw [hchunk c ctx hctx]

/-- Every chunk of a keyed store is live, with its record. -/
lemma Keyed.mem_liveChunks (hs : s.Keyed) {c : StoredChunk} {r : Record} (hc : c ∈ s.chunks)
    (hr : r ∈ s.records) (hid : r.id = c.record) : (⟨c, r⟩ : ChunkContext) ∈ s.liveChunks := by
  have hfound : s.record? c.record = some r := by
    rw [← hid]
    exact hs.record?_eq_some hr
  exact Store.mem_liveChunks.mpr ⟨hc, hfound, hs.live_of_chunk hc hr hid⟩

/-- A chunk of a live record is a live chunk of the record's tenant. -/
lemma liveChunk_of_mem_liveChunks {ctx : ChunkContext} (h : ctx ∈ s.liveChunks) :
    s.LiveChunk ctx.record.tenant ctx.record.id ctx.chunk.id := by
  obtain ⟨hc, hr, hlive⟩ := mem_liveChunks.mp h
  obtain ⟨hrecord, hid⟩ := of_record?_eq_some hr
  exact ⟨⟨ctx.record, hrecord, rfl, hlive, rfl⟩, ctx.chunk, hc, rfl, hid.symm⟩

/-- Every vector of a sound store belongs to a live record of its tenant and has the dimension of
the store. -/
lemma Sound.owner_of_vector (hs : Sound chunking dimension s) {v : StoredVector}
    (hv : v ∈ s.vectors) : ∃ ctx ∈ s.liveChunks, ctx.chunk.id = v.chunk ∧
      ctx.record.tenant = v.tenant ∧ v.dimension = dimension := by
  obtain ⟨c, hc, hid, hstatus⟩ := hs.vectors.backed v hv
  obtain ⟨r, hr, hrecord, v', hv', hchunk, htenant, hdim⟩ := hs.vectors.covers c hc hstatus
  obtain rfl : v' = v := hs.keyed.vector_eq hv' hv (hchunk.trans hid)
  exact ⟨⟨c, r⟩, hs.keyed.mem_liveChunks hc hr hrecord, hid, htenant.symm, hdim⟩

/-- The live chunks of a tenant among some identifiers. -/
def contextsOf (s : Store) (tenant : String) (ids : List Id) : List ChunkContext :=
  (batches batchLimit ids).flatMap (contextBatch s tenant)

/-- The live chunks of a tenant among some identifiers have its records and these identifiers. -/
lemma mem_contextsOf {ids : List Id} {ctx : ChunkContext} :
    ctx ∈ s.contextsOf tenant ids ↔
      ctx ∈ s.liveChunks ∧ ctx.record.tenant = tenant ∧ ctx.chunk.id ∈ ids := by
  have hids : ctx.chunk.id ∈ ids ↔ ∃ batch ∈ batches batchLimit ids, ctx.chunk.id ∈ batch := by
    conv_lhs => rw [← flatten_batches batchLimit ids]
    exact List.mem_flatten
  unfold contextsOf contextBatch
  rw [List.mem_flatMap, hids]
  constructor
  · rintro ⟨batch, hbatch, hctx⟩
    obtain ⟨hlive, hwhich⟩ := List.mem_filter.mp hctx
    rw [Bool.and_eq_true, beq_iff_eq, List.contains_iff_mem] at hwhich
    exact ⟨hlive, hwhich.1, batch, hbatch, hwhich.2⟩
  · rintro ⟨hlive, htenant, batch, hbatch, hmem⟩
    refine ⟨batch, hbatch, List.mem_filter.mpr ⟨hlive, ?_⟩⟩
    rw [Bool.and_eq_true, beq_iff_eq, List.contains_iff_mem]
    exact ⟨htenant, hmem⟩

/-! ### Changes that keep a chunk live -/

/-- The identifiers of the chunks of a record. -/
lemma mem_chunkIds {record id : Id} :
    id ∈ s.chunkIds record ↔ ∃ c ∈ s.chunks, c.record = record ∧ c.id = id := by
  unfold chunkIds inOrder chunksOf
  rw [List.mem_map]
  simp only [List.mem_mergeSort, List.mem_filter, beq_iff_eq, and_assoc]

/-- A live chunk is one of the chunks of its record. -/
lemma LiveChunk.mem_chunkIds (h : s.LiveChunk tenant record chunk) :
    chunk ∈ s.chunkIds record := by
  obtain ⟨-, c, hc, hid, hrecord⟩ := h
  exact Store.mem_chunkIds.mpr ⟨c, hc, hrecord, hid⟩

/-- A live chunk is live in a store with the same tables. -/
lemma LiveChunk.of_sameTables (h : s.LiveChunk tenant record chunk) (hsame : SameTables s t) :
    t.LiveChunk tenant record chunk := by
  unfold LiveChunk
  rw [hsame.records, hsame.chunks]
  exact h

/-- A live chunk is live in a store whose chunks have the same places and which has a live state of
every live record. -/
lemma LiveChunk.of_places (h : s.LiveChunk tenant record chunk)
    (hplaces : t.chunks.map (·.place) = s.chunks.map (·.place))
    (hrecords : ∀ r ∈ s.records, r.live → ∃ r' ∈ t.records, r.SameAs r' ∧ r'.live) :
    t.LiveChunk tenant record chunk := by
  obtain ⟨⟨r, hr, hid, hlive, htenant⟩, c, hc, hchunk, hrecord⟩ := h
  obtain ⟨r', hr', hsame, hlive'⟩ := hrecords r hr hlive
  have hplace : c.place ∈ t.chunks.map (·.place) := by
    rw [hplaces]
    exact List.mem_map_of_mem hc
  obtain ⟨c', hc', heq⟩ := List.mem_map.mp hplace
  refine ⟨⟨r', hr', hsame.id.trans hid, hlive', hsame.tenant.trans htenant⟩, c', hc', ?_, ?_⟩
  · exact (congrArg Place.id heq).trans hchunk
  · exact (congrArg Place.record heq).trans hrecord

/-- A live chunk of another record is live in a renewed store. -/
lemma LiveChunk.renewed (h : s.LiveChunk tenant record chunk) {id : Id} {records : List Record}
    {rows : List StoredChunk} (hnew : Renews chunking s id records rows) (hne : record ≠ id) :
    (s.renewed id records rows).LiveChunk tenant record chunk := by
  obtain ⟨⟨r, hr, hid, hlive, htenant⟩, c, hc, hchunk, hrecord⟩ := h
  refine ⟨⟨r, ?_, hid, hlive, htenant⟩, c, ?_, hchunk, hrecord⟩
  · refine (hnew.beside r ?_).mpr hr
    rw [hid]
    exact hne
  · refine mem_chunks_renewed.mpr (.inl ⟨hc, ?_⟩)
    rw [hrecord]
    exact hne

/-- A live chunk is live behind the commitment of a batch. -/
lemma LiveChunk.committed (h : s.LiveChunk tenant record chunk) (tenant' : String) (record' : Id)
    (version : String) (now : Instant) (batch : List (StoredChunk × Vec)) :
    (s.committed tenant' record' version now batch).LiveChunk tenant record chunk := by
  refine h.of_places ?_ ?_
  · rw [chunks_committed]
    exact map_place_embedAll tenant' version batch
  · intro r hr hlive
    rcases records_committed s tenant' record' version now batch with heq | heq
    · rw [heq]
      exact ⟨r, hr, .refl r, hlive⟩
    · rw [heq]
      refine ⟨_, List.mem_map_of_mem hr, sameAs_noteOn record' now r, ?_⟩
      rw [noteOn_eq]
      exact hlive

/-- A live chunk is live behind a change of the states of embedding. -/
lemma LiveChunk.changeChunks (h : s.LiveChunk tenant record chunk) {which : StoredChunk → Bool}
    {change : StoredChunk → StoredChunk} (hplace : ∀ c, (change c).place = c.place) :
    (s.changeChunks which change).LiveChunk tenant record chunk :=
  h.of_places (map_place_changeChunks hplace) fun r hr hlive => ⟨r, hr, .refl r, hlive⟩

/-- A live chunk that is none of a retired record's is live behind the retirement. -/
lemma LiveChunk.retired (h : s.LiveChunk tenant record chunk) (hs : Sound chunking dimension s)
    {r : Record} (hr : ∀ held ∈ s.records, held.id = r.id → held.tenant = r.tenant) (now : Instant)
    (hchunk : chunk ∉ s.chunkIds r.id) : (s.retired r now).LiveChunk tenant record chunk := by
  rw [retired_eq_renewed]
  refine h.renewed (renews_retired hs hr now) ?_
  rintro rfl
  exact hchunk h.mem_chunkIds

/-- A live chunk that is none of those that a draft replaces is live behind its transaction. -/
lemma LiveChunk.staging (h : s.LiveChunk tenant record chunk) (hs : Sound chunking dimension s)
    {d : Draft} {fresh : Nat → Id} {now : Instant} {staged : Staged} (hd : d.CutBy chunking)
    (hstaged : d.Staging fresh now s staged t) (hchunk : chunk ∉ staged.replaced) :
    t.LiveChunk tenant record chunk := by
  cases hstaged with
  | created hnone hid hrows =>
    rw [Draft.created_eq_renewed hs.chunks.owner hid]
    refine h.renewed (Draft.renews_created hs hd hnone hid hrows) ?_
    rintro rfl
    obtain ⟨⟨r, hr, hrid, -⟩, -⟩ := h
    unfold record? at hid
    rw [List.find?_eq_none] at hid
    exact hid r hr (beq_iff_eq.mpr hrid)
  | replaced hheld hrows =>
    rw [Draft.replaced_eq_renewed]
    refine h.renewed (Draft.renews_replaced hs hd hheld hrows) ?_
    rintro rfl
    exact hchunk h.mem_chunkIds

/-- The rows of a draft are live chunks behind its transaction. -/
lemma liveChunk_of_mem_rows {d : Draft} {fresh : Nat → Id} {now : Instant} {staged : Staged}
    (hstaged : d.Staging fresh now s staged t) {c : StoredChunk} (hc : c ∈ staged.rows) :
    t.LiveChunk staged.tenant staged.record c.id := by
  cases hstaged with
  | created hnone hid hrows =>
    have hmem : d.newRecord (fresh 0) now ∈ (d.created fresh now s).records :=
      List.mem_append_right _ (List.mem_singleton_self _)
    exact ⟨⟨_, hmem, rfl, rfl, rfl⟩, c, List.mem_append_right _ hc, rfl,
      (Draft.of_mem_rows hc).1⟩
  | @replaced held hheld hrows =>
    obtain ⟨hmem, link, -, hfor⟩ := Draft.of_target?_eq_some hheld
    obtain ⟨hlive, htenant, -⟩ := Record.isLiveFor_iff.mp hfor
    rw [Draft.replaced_eq_renewed]
    refine ⟨⟨_, List.mem_map_of_mem hmem, ?_⟩, c, List.mem_append_right _ hc, rfl,
      (Draft.of_mem_rows hc).1⟩
    rw [Draft.rewriteOf_eq]
    exact ⟨rfl, hlive, htenant⟩

/-- A draft is staged for its tenant. -/
lemma tenant_of_staging {d : Draft} {fresh : Nat → Id} {now : Instant} {staged : Staged}
    (hstaged : d.Staging fresh now s staged t) : staged.tenant = d.tenant := by
  cases hstaged <;> rfl

/-- The chunks that a draft replaces are live chunks of its tenant. -/
lemma liveChunk_of_mem_replaced {d : Draft} {fresh : Nat → Id} {now : Instant} {staged : Staged}
    (hstaged : d.Staging fresh now s staged t) (h : chunk ∈ staged.replaced) :
    s.LiveChunk d.tenant staged.record chunk := by
  cases hstaged with
  | created hnone hid hrows => cases h
  | @replaced held hheld hrows =>
    obtain ⟨hmem, link, -, hfor⟩ := Draft.of_target?_eq_some hheld
    obtain ⟨hlive, htenant, -⟩ := Record.isLiveFor_iff.mp hfor
    obtain ⟨c, hc, hrecord, hid⟩ := Store.mem_chunkIds.mp h
    exact ⟨⟨held, hmem, rfl, hlive, htenant⟩, c, hc, hid, hrecord⟩

/-- A chunk of a sound store is live for one tenant. -/
lemma Sound.tenant_eq_of_liveChunk (hs : Sound chunking dimension s) {tenant' : String}
    {record' : Id} (h : s.LiveChunk tenant record chunk) (h' : s.LiveChunk tenant' record' chunk) :
    tenant = tenant' := by
  obtain ⟨⟨r, hr, hid, -, rfl⟩, c, hc, hchunk, hrecord⟩ := h
  obtain ⟨⟨r', hr', hid', -, rfl⟩, c', hc', hchunk', hrecord'⟩ := h'
  obtain rfl := hs.keyed.chunk_eq hc hc' (hchunk.trans hchunk'.symm)
  rw [hs.keyed.record_eq hr hr' (hid.trans (hrecord.symm.trans (hrecord'.trans hid'.symm)))]

end Store

end Dossier
