import Dossier.Proofs.Store.Keyed

/-!
# Sound stores

`Store.Sound` is the invariant of a store that is written by services of one configuration only: it
is keyed, links are unique, the chunks of a live record are those that its text is cut into, exactly
the embedded chunks have a vector, and a record with an embedded chunk says when it was indexed.  A
deleted record has neither chunks nor vectors.
-/

namespace Dossier

/-- What a part of a text covers. -/
def Text.Chunk.extent (piece : Text.Chunk) : Extent :=
  ⟨piece.index, piece.start, piece.stop, String.ofList piece.text, piece.tokenCount⟩

/-- The extents of the parts that a text is cut into. -/
def Text.extents (chunking : Text.Chunking) (text : String) : List Extent :=
  (Text.chunks chunking text.toList).map Chunk.extent

namespace Store

/-! ### The invariant -/

/-- Records whose identifiers are unique, of which at most one is the live record of a tenant for an
entity, and whose searchable texts belong to their raw texts. -/
structure RecordsSound (records : List Record) : Prop where
  nodup : (records.map (·.id)).Nodup
  linked : ∀ r ∈ records, ∀ r' ∈ records, ∀ tenant link,
    r.isLiveFor tenant link → r'.isLiveFor tenant link → r.id = r'.id
  normalized : ∀ r ∈ records, r.content.normalized = Text.normalizeString r.content.raw

/-- Chunks whose identifiers are unique, which belong to live records, and which for every live
record are those that its text is cut into. -/
structure ChunksSound (chunking : Text.Chunking) (records : List Record)
    (chunks : List StoredChunk) : Prop where
  nodup : (chunks.map (·.id)).Nodup
  owner : ∀ c ∈ chunks, ∃ r ∈ records, r.id = c.record ∧ r.live
  covers : ∀ r ∈ records, r.live →
    (chunks.filter (·.record == r.id)).map (·.extent) = Text.extents chunking r.content.raw

/-- Vectors in the order of their numbers, one for every embedded chunk and none for any other, with
the tenant of the record that the chunk belongs to and of one dimension. -/
structure VectorsSound (dimension : Nat) (s : Store) : Prop where
  nodup : (s.vectors.map (·.chunk)).Nodup
  numbered : s.vectors.Pairwise fun v w => v.seq < w.seq
  bounded : ∀ v ∈ s.vectors, 0 < v.seq ∧ v.seq ≤ s.lastSeq
  rendered : ∀ v ∈ s.vectors, ∃ x : Vec, v.text = x.text ∧ x.length = v.dimension
  backed : ∀ v ∈ s.vectors, ∃ c ∈ s.chunks, c.id = v.chunk ∧ c.status = .embedded
  clean : ∀ c ∈ s.chunks, c.status = .embedded → c.lastError = none
  covers : ∀ c ∈ s.chunks, c.status = .embedded → ∃ r ∈ s.records, r.id = c.record ∧
    ∃ v ∈ s.vectors, v.chunk = c.id ∧ v.tenant = r.tenant ∧ v.dimension = dimension

/-- A store whose tables agree with each other. -/
structure Consistent (chunking : Text.Chunking) (dimension : Nat) (s : Store) : Prop where
  records : RecordsSound s.records
  chunks : ChunksSound chunking s.records s.chunks
  vectors : VectorsSound dimension s

/-- A store whose tables agree with each other and whose records with an embedded chunk say when
they were indexed. -/
structure Sound (chunking : Text.Chunking) (dimension : Nat) (s : Store) : Prop
    extends Consistent chunking dimension s where
  indexed : ∀ c ∈ s.chunks, c.status = .embedded →
    ∃ r ∈ s.records, r.id = c.record ∧ r.indexedAt.isSome

variable {chunking : Text.Chunking} {dimension : Nat} {s t : Store}

/-- A store without rows is sound. -/
lemma sound_empty (chunking : Text.Chunking) (dimension : Nat) : Sound chunking dimension {} where
  records := ⟨List.nodup_nil, by simp, by simp⟩
  chunks := ⟨List.nodup_nil, by simp, by simp⟩
  vectors := ⟨List.nodup_nil, List.Pairwise.nil, by simp, by simp, by simp, by simp, by simp⟩
  indexed := by simp

/-- A store with the same tables as a sound one is sound. -/
lemma Sound.of_sameTables (hs : Sound chunking dimension s) (h : SameTables s t) :
    Sound chunking dimension t := by
  obtain ⟨hrecords, hchunks, hvectors, hseq⟩ := h
  rcases s with ⟨_, _, _, _, _, _, _⟩
  rcases t with ⟨_, _, _, _, _, _, _⟩
  dsimp only at hrecords hchunks hvectors hseq
  subst hrecords hchunks hvectors hseq
  exact ⟨⟨hs.records, hs.chunks, ⟨hs.vectors.nodup, hs.vectors.numbered, hs.vectors.bounded,
    hs.vectors.rendered, hs.vectors.backed, hs.vectors.clean, hs.vectors.covers⟩⟩, hs.indexed⟩

/-- A store whose tables agree with each other is keyed. -/
lemma Consistent.keyed (hs : Consistent chunking dimension s) : s.Keyed where
  records := hs.records.nodup
  chunks := hs.chunks.nodup
  vectors := hs.vectors.nodup
  owner := hs.chunks.owner
  backed := by
    intro v hv
    obtain ⟨c, hc, hid, hstatus⟩ := hs.vectors.backed v hv
    obtain ⟨r, hr, hrid, v', hv', hchunk, htenant, -⟩ := hs.vectors.covers c hc hstatus
    obtain rfl : v' = v := List.inj_on_of_nodup_map hs.vectors.nodup hv' hv (hchunk.trans hid)
    exact ⟨c, hc, hid, hstatus, r, hr, hrid, htenant.symm⟩
  bounded := hs.vectors.bounded
  rendered := hs.vectors.rendered

/-- The vectors of a keyed store are sound if they are in order and the embedded chunks, which have
no error, have one each. -/
lemma Keyed.vectorsSound (hs : s.Keyed)
    (hnumbered : s.vectors.Pairwise fun v w => v.seq < w.seq)
    (hclean : ∀ c ∈ s.chunks, c.status = .embedded → c.lastError = none)
    (hcovers : ∀ c ∈ s.chunks, c.status = .embedded → ∃ r ∈ s.records, r.id = c.record ∧
      ∃ v ∈ s.vectors, v.chunk = c.id ∧ v.tenant = r.tenant ∧ v.dimension = dimension) :
    VectorsSound dimension s where
  nodup := hs.vectors
  numbered := hnumbered
  bounded := hs.bounded
  rendered := hs.rendered
  backed := by
    intro v hv
    obtain ⟨c, hc, hid, hstatus, -⟩ := hs.backed v hv
    exact ⟨c, hc, hid, hstatus⟩
  clean := hclean
  covers := hcovers

/-- Two chunks with the same identifier are one. -/
lemma ChunksSound.eq_of_id {records : List Record} {chunks : List StoredChunk}
    (h : ChunksSound chunking records chunks) {c c' : StoredChunk}
    (hc : c ∈ chunks) (hc' : c' ∈ chunks) (hid : c.id = c'.id) : c = c' :=
  List.inj_on_of_nodup_map h.nodup hc hc' hid

/-- A deleted record has no chunks. -/
lemma Consistent.chunksOf_of_not_live (hs : Consistent chunking dimension s) {r : Record}
    (hr : r ∈ s.records) (hdead : r.live = false) : s.chunksOf r.id = [] := by
  unfold chunksOf
  rw [List.filter_eq_nil_iff]
  intro c hc hrecord
  have hlive := hs.keyed.live_of_chunk hc hr (LawfulBEq.eq_of_beq hrecord).symm
  rw [hdead] at hlive
  exact Bool.false_ne_true hlive

/-! ### Renewing a record -/

/-- New records and chunks that may replace all that a sound store holds of one record. -/
structure Renews (chunking : Text.Chunking) (s : Store) (id : Id) (records : List Record)
    (rows : List StoredChunk) : Prop extends Replaces s id records rows where
  sound : RecordsSound records
  pending : ∀ c ∈ rows, c.status = .pending
  covers : ∀ r ∈ records, r.id = id → r.live →
    rows.map (·.extent) = Text.extents chunking r.content.raw

/-- The embedded chunks of a renewed store were embedded before and belong to other records. -/
lemma Renews.of_embedded {id : Id} {records : List Record} {rows : List StoredChunk}
    (h : Renews chunking s id records rows) {c : StoredChunk}
    (hc : c ∈ (s.renewed id records rows).chunks) (hstatus : c.status = .embedded) :
    c ∈ s.chunks ∧ c.record ≠ id := by
  rcases mem_chunks_renewed.mp hc with hold | hnew
  · exact hold
  · have hpending := h.pending c hnew
    rw [hstatus] at hpending
    cases hpending

/-- The chunks of a renewed store are sound. -/
lemma Renews.chunksSound {id : Id} {records : List Record} {rows : List StoredChunk}
    (h : Renews chunking s id records rows) (hs : Consistent chunking dimension s) :
    ChunksSound chunking records (s.renewed id records rows).chunks where
  nodup := (hs.keyed.renewed h.toReplaces h.sound.nodup).chunks
  owner := (hs.keyed.renewed h.toReplaces h.sound.nodup).owner
  covers := by
    intro r hr hlive
    unfold renewed
    rw [List.filter_append, List.filter_filter]
    by_cases hid : r.id = id
    · have hold : s.chunks.filter (fun c => (c.record == r.id) && (c.record != id)) = [] := by
        rw [List.filter_eq_nil_iff]
        intro c _
        simp [hid]
      have hnew : rows.filter (·.record == r.id) = rows := by
        rw [List.filter_eq_self]
        intro c hc
        rw [h.own c hc, hid, beq_self_eq_true]
      rw [hold, hnew, List.nil_append]
      exact h.covers r hr hid hlive
    · have hold : s.chunks.filter (fun c => (c.record == r.id) && (c.record != id)) =
          s.chunks.filter (·.record == r.id) := by
        refine List.filter_congr fun c _ => ?_
        by_cases hc : c.record = r.id
        · simp [hc, hid]
        · simp [hc]
      have hnew : rows.filter (·.record == r.id) = [] := by
        rw [List.filter_eq_nil_iff]
        intro c hc
        rw [h.own c hc, beq_iff_eq]
        exact fun heq => hid heq.symm
      rw [hold, hnew, List.append_nil]
      exact hs.chunks.covers r ((h.beside r hid).mp hr) hlive

/-- The vectors of a renewed store are sound. -/
lemma Renews.vectorsSound {id : Id} {records : List Record} {rows : List StoredChunk}
    (h : Renews chunking s id records rows) (hs : Consistent chunking dimension s) :
    VectorsSound dimension (s.renewed id records rows) := by
  refine (hs.keyed.renewed h.toReplaces h.sound.nodup).vectorsSound ?numbered ?clean ?covers
  case numbered => exact hs.vectors.numbered.sublist List.filter_sublist
  case clean =>
    intro c hc hstatus
    exact hs.vectors.clean c (h.of_embedded hc hstatus).1 hstatus
  case covers =>
    intro c hc hstatus
    obtain ⟨hold, hne⟩ := h.of_embedded hc hstatus
    obtain ⟨r, hr, hid, v, hv, hchunk, htenant, hdim⟩ := hs.vectors.covers c hold hstatus
    have hrne : r.id ≠ id := by rwa [hid]
    refine ⟨r, (h.beside r hrne).mpr hr, hid, v, ?_, hchunk, htenant, hdim⟩
    refine mem_vectorsBeside.mpr ⟨hv, ?_⟩
    intro c' hc' hrecord heq
    rw [hs.keyed.chunk_eq hc' hold (heq.trans hchunk)] at hrecord
    exact hne hrecord

/-- A renewed store is sound. -/
lemma Sound.renewed {id : Id} {records : List Record} {rows : List StoredChunk}
    (hs : Sound chunking dimension s) (h : Renews chunking s id records rows) :
    Sound chunking dimension (s.renewed id records rows) where
  records := h.sound
  chunks := h.chunksSound hs.toConsistent
  vectors := h.vectorsSound hs.toConsistent
  indexed := by
    intro c hc hstatus
    obtain ⟨hold, hne⟩ := h.of_embedded hc hstatus
    obtain ⟨r, hr, hid, hindexed⟩ := hs.indexed c hold hstatus
    rw [← hid] at hne
    exact ⟨r, (h.beside r hne).mpr hr, hid, hindexed⟩

/-! ### States of embedding -/

/-- Whether chunks are sound depends on their places only. -/
lemma ChunksSound.of_places {records : List Record} {chunks chunks' : List StoredChunk}
    (hs : ChunksSound chunking records chunks)
    (h : chunks'.map (·.place) = chunks.map (·.place)) : ChunksSound chunking records chunks' where
  nodup := by
    rw [map_id_of_places h]
    exact hs.nodup
  owner := owner_of_places hs.owner h
  covers := by
    intro r hr hlive
    have hextents : ∀ cs : List StoredChunk, (cs.filter (·.record == r.id)).map (·.extent) =
        ((cs.map (·.place)).filter (·.record == r.id)).map Place.extent := by
      intro cs
      rw [List.filter_map, List.map_map]
      rfl
    rw [hextents, h, ← hextents]
    exact hs.covers r hr hlive

/-- A store is still sound behind a change beside the embedded chunks. -/
lemma Sound.changeChunks {which : StoredChunk → Bool} {change : StoredChunk → StoredChunk}
    (hs : Sound chunking dimension s) (h : BesideEmbedded which change) :
    Sound chunking dimension (s.changeChunks which change) where
  records := hs.records
  chunks := hs.chunks.of_places (map_place_changeChunks h.place)
  vectors := by
    refine (hs.keyed.changeChunks h).vectorsSound hs.vectors.numbered ?_ ?_
    · intro c hc hstatus
      exact hs.vectors.clean c ((h.mem_iff hstatus).mp hc) hstatus
    · intro c hc hstatus
      exact hs.vectors.covers c ((h.mem_iff hstatus).mp hc) hstatus
  indexed := by
    intro c hc hstatus
    exact hs.indexed c ((h.mem_iff hstatus).mp hc) hstatus

/-! ### Committing a batch -/

/-- The vectors stay sound when one more pair of a batch is committed. -/
lemma Consistent.vectorsSound_embedOne (hs : Consistent chunking dimension s) {tenant : String}
    {record : Id} {chunk : StoredChunk} {v : Vec} (hknows : s.Knows tenant record [chunk])
    (hv : v.length = dimension) (version : String) (hpending : s.isPending chunk.id) :
    VectorsSound dimension ((s.marked chunk.id).withVector chunk.id tenant version v) := by
  have hvectors := hs.keyed.vectors_withVector hpending tenant version v
  have hmem : ∀ held : StoredVector,
      held ∈ ((s.marked chunk.id).withVector chunk.id tenant version v).vectors ↔
        held ∈ s.vectors ∨ held = s.vectorRow chunk.id tenant version v := by
    intro held
    rw [hvectors, List.mem_append, List.mem_singleton]
  refine (hs.keyed.withVector hknows hpending version v).vectorsSound ?numbered ?clean ?covers
  case numbered =>
    rw [hvectors, List.pairwise_append]
    refine ⟨hs.vectors.numbered, List.pairwise_singleton _ _, ?_⟩
    intro held hheld row hrow
    rw [List.mem_singleton] at hrow
    rw [hrow]
    exact Nat.lt_succ_of_le (hs.vectors.bounded held hheld).2
  case clean =>
    intro c' hc' hembedded
    rcases of_mem_marked hc' hembedded with hold | ⟨-, herror, -⟩
    · exact hs.vectors.clean c' hold hembedded
    · exact herror
  case covers =>
    intro c' hc' hembedded
    rcases of_mem_marked hc' hembedded with hold | ⟨hid', -, held, hheld, hheldId, -, hplace⟩
    · obtain ⟨r, hr, hrid, w, hw, hrest⟩ := hs.vectors.covers c' hold hembedded
      exact ⟨r, hr, hrid, w, (hmem w).mpr (.inl hw), hrest⟩
    · obtain ⟨r, hr, hrid, -⟩ := hs.chunks.owner held hheld
      have hrecord : held.record = record :=
        (congrArg Place.record (hknows.place chunk (List.mem_singleton_self _) held hheld
          hheldId)).trans (hknows.own chunk (List.mem_singleton_self _))
      refine ⟨r, hr, hrid.trans (congrArg Place.record hplace), _, (hmem _).mpr (.inr rfl),
        hid'.symm, ?_, hv⟩
      exact (hknows.tenant r hr (hrid.trans hrecord)).symm

/-- Committing one pair of a batch keeps a store consistent. -/
lemma Consistent.embedOne (hs : Consistent chunking dimension s) {tenant : String}
    {record : Id} {pair : StoredChunk × Vec} (hknows : s.Knows tenant record [pair.1])
    (hv : pair.2.length = dimension) (version : String) :
    Consistent chunking dimension (embedOne tenant version s pair) := by
  have hplaces := map_place_embedOne (s := s) tenant version pair
  refine ⟨?_, ?_, ?_⟩
  · rw [records_embedOne]
    exact hs.records
  · rw [records_embedOne]
    exact hs.chunks.of_places hplaces
  · unfold Store.embedOne
    split
    · exact hs.vectorsSound_embedOne hknows hv version ‹_›
    · exact hs.vectors

/-- Committing a batch keeps a store consistent. -/
lemma Consistent.embedAll (hs : Consistent chunking dimension s) {tenant : String} {record : Id}
    {batch : List (StoredChunk × Vec)} (hknows : s.Knows tenant record (batch.map (·.1)))
    (hdim : ∀ pair ∈ batch, pair.2.length = dimension) (version : String) :
    Consistent chunking dimension (embedAll tenant version s batch) := by
  unfold Store.embedAll
  induction batch generalizing s with
  | nil => exact hs
  | cons pair rest ih =>
    have hfirst : s.Knows tenant record [pair.1] := hknows.mono (by simp)
    have hothers : s.Knows tenant record (rest.map (·.1)) := hknows.mono (by simp)
    rw [List.foldl_cons]
    refine ih (hs.embedOne hfirst ?_ version) (hothers.embedOne version pair) ?_
    · exact hdim pair List.mem_cons_self
    · intro pair' hpair'
      exact hdim pair' (List.mem_cons_of_mem _ hpair')

/-- A chunk that is embedded behind a batch was embedded before, or belongs to the record of the
batch, and then some pair has counted. -/
lemma of_mem_embedAll {tenant version : String} {record : Id} {batch : List (StoredChunk × Vec)}
    (hknows : s.Knows tenant record (batch.map (·.1))) {c : StoredChunk}
    (hc : c ∈ (embedAll tenant version s batch).chunks) (hstatus : c.status = .embedded) :
    c ∈ s.chunks ∨ c.record = record ∧ counted tenant version s batch ≠ [] := by
  unfold embedAll at hc
  induction batch generalizing s with
  | nil => exact .inl hc
  | cons pair rest ih =>
    have hothers : s.Knows tenant record (rest.map (·.1)) := hknows.mono (by simp)
    cases hp : s.isPending pair.1.id
    · rw [List.foldl_cons] at hc
      unfold embedOne at hc
      unfold counted
      rw [hp] at hc ⊢
      exact ih hothers hc
    · have hnonempty : counted tenant version s (pair :: rest) ≠ [] := by
        unfold counted
        rw [hp]
        exact List.cons_ne_nil _ _
      rw [List.foldl_cons] at hc
      rcases ih (hothers.embedOne version pair) hc with hbefore | ⟨hrecord, -⟩
      · unfold embedOne at hbefore
        rw [hp] at hbefore
        rcases of_mem_marked hbefore hstatus with hold | ⟨-, -, held, hheld, hid, -, hplace⟩
        · exact .inl hold
        · have hrecord : held.record = record :=
            (congrArg Place.record (hknows.place pair.1 (by simp) held hheld hid)).trans
              (hknows.own pair.1 (by simp))
          exact .inr ⟨(congrArg Place.record hplace).symm.trans hrecord, hnonempty⟩
      · exact .inr ⟨hrecord, hnonempty⟩

/-- Some chunk of the record of a batch is in the store if a pair of the batch counts. -/
lemma Knows.exists_chunk {tenant version : String} {record : Id}
    {batch : List (StoredChunk × Vec)} (hknows : s.Knows tenant record (batch.map (·.1)))
    (hcounted : counted tenant version s batch ≠ []) : ∃ c ∈ s.chunks, c.record = record := by
  induction batch with
  | nil => exact absurd rfl hcounted
  | cons pair rest ih =>
    cases hp : s.isPending pair.1.id
    · unfold counted at hcounted
      rw [hp] at hcounted
      exact ih (hknows.mono (by simp)) hcounted
    · obtain ⟨c, hc, hid, -⟩ := isPending_iff.mp hp
      have hplace := hknows.place pair.1 (by simp) c hc hid
      exact ⟨c, hc, (congrArg Place.record hplace).trans (hknows.own pair.1 (by simp))⟩

/-- Records stay sound when each of them changes so that it keeps its identifier, is the live record
of an entity only if it was, and has a searchable text that belongs to its raw text. -/
lemma RecordsSound.map {records : List Record} (h : RecordsSound records) {change : Record → Record}
    (hid : ∀ r, (change r).id = r.id)
    (hlive : ∀ r tenant link, (change r).isLiveFor tenant link → r.isLiveFor tenant link)
    (hnormalized : ∀ r ∈ records,
      (change r).content.normalized = Text.normalizeString (change r).content.raw) :
    RecordsSound (records.map change) where
  nodup := by
    rw [map_id_map hid]
    exact h.nodup
  linked := by
    intro r hr r' hr' tenant link hfor hfor'
    obtain ⟨a, ha, rfl⟩ := List.mem_map.mp hr
    obtain ⟨b, hb, rfl⟩ := List.mem_map.mp hr'
    rw [hid, hid]
    exact h.linked a ha b hb tenant link (hlive a tenant link hfor) (hlive b tenant link hfor')
  normalized := by
    intro r hr
    obtain ⟨a, ha, rfl⟩ := List.mem_map.mp hr
    exact hnormalized a ha

/-- A note keeps a store consistent. -/
lemma Consistent.noted (hs : Consistent chunking dimension s) (record : Id) (now : Instant) :
    Consistent chunking dimension (s.noted record now) where
  records := by
    change RecordsSound (s.records.map (noteOn record now))
    refine hs.records.map ?_ ?_ ?_
    · intro r
      rw [noteOn_eq]
    · intro r tenant link hfor
      rw [noteOn_eq] at hfor
      exact hfor
    · intro r hr
      rw [noteOn_eq]
      exact hs.records.normalized r hr
  chunks := by
    refine ⟨hs.chunks.nodup, (hs.keyed.noted record now).owner, ?_⟩
    intro r hr hlive
    obtain ⟨r', hr', rfl⟩ := mem_records_noted.mp hr
    rw [noteOn_eq] at hlive ⊢
    exact hs.chunks.covers r' hr' hlive
  vectors := by
    refine (hs.keyed.noted record now).vectorsSound hs.vectors.numbered hs.vectors.clean ?_
    intro c hc hstatus
    obtain ⟨r, hr, hid, v, hv, hchunk, htenant, hdim⟩ := hs.vectors.covers c hc hstatus
    refine ⟨noteOn record now r, mem_records_noted.mpr ⟨r, hr, rfl⟩, ?_⟩
    rw [noteOn_eq]
    exact ⟨hid, v, hv, hchunk, htenant, hdim⟩

/-- No more pairs of a batch count than it has. -/
lemma length_counted_le (tenant version : String) (batch : List (StoredChunk × Vec)) (s : Store) :
    (counted tenant version s batch).length ≤ batch.length := by
  induction batch generalizing s with
  | nil => exact Nat.le_refl 0
  | cons pair rest ih =>
    unfold counted
    split
    · rw [List.length_cons, List.length_cons]
      exact Nat.succ_le_succ (ih _)
    · exact Nat.le_succ_of_le (ih s)

/-- The vectors that count are those of pairs of the batch. -/
lemma of_mem_counted {tenant version : String} {batch : List (StoredChunk × Vec)} {s : Store}
    {entry : Id × Vec} (h : entry ∈ counted tenant version s batch) :
    ∃ pair ∈ batch, entry = (pair.1.id, pair.2) := by
  induction batch generalizing s with
  | nil => cases h
  | cons pair rest ih =>
    unfold counted at h
    split at h
    · rcases List.mem_cons.mp h with rfl | hrest
      · exact ⟨pair, List.mem_cons_self, rfl⟩
      · obtain ⟨pair', hpair', heq⟩ := ih hrest
        exact ⟨pair', List.mem_cons_of_mem _ hpair', heq⟩
    · obtain ⟨pair', hpair', heq⟩ := ih h
      exact ⟨pair', List.mem_cons_of_mem _ hpair', heq⟩

/-- A store without a pair that counts is not changed by a batch. -/
lemma embedAll_of_counted_nil {tenant version : String} {batch : List (StoredChunk × Vec)}
    (h : counted tenant version s batch = []) : embedAll tenant version s batch = s := by
  unfold embedAll
  induction batch with
  | nil => rfl
  | cons pair rest ih =>
    cases hp : s.isPending pair.1.id
    · unfold counted at h
      rw [hp] at h
      rw [List.foldl_cons]
      unfold embedOne
      rw [hp]
      exact ih h
    · unfold counted at h
      rw [hp] at h
      cases h

/-- A sound store is still sound when a batch is committed of which whoever commits it knows. -/
lemma Sound.committed (hs : Sound chunking dimension s) {tenant : String} {record : Id}
    {batch : List (StoredChunk × Vec)} (hknows : s.Knows tenant record (batch.map (·.1)))
    (hdim : ∀ pair ∈ batch, pair.2.length = dimension) (version : String) (now : Instant) :
    Sound chunking dimension (s.committed tenant record version now batch) := by
  unfold Store.committed
  split
  · rename_i hempty
    rw [embedAll_of_counted_nil (List.isEmpty_iff.mp hempty)]
    exact hs
  · have hall := hs.toConsistent.embedAll hknows hdim version
    refine ⟨hall.noted record now, ?_⟩
    intro c hc hstatus
    rcases of_mem_embedAll hknows hc hstatus with hold | ⟨hrecord, -⟩
    · obtain ⟨r, hr, hid, hindexed⟩ := hs.indexed c hold hstatus
      refine ⟨noteOn record now r, mem_records_noted.mpr ⟨r, by rwa [records_embedAll], rfl⟩, ?_⟩
      unfold noteOn
      split
      · exact ⟨hid, rfl⟩
      · exact ⟨hid, hindexed⟩
    · obtain ⟨r, hr, hid, -⟩ := hall.chunks.owner c hc
      refine ⟨noteOn record now r, mem_records_noted.mpr ⟨r, hr, rfl⟩, ?_⟩
      unfold noteOn
      rw [if_pos (by rw [hid, hrecord, beq_self_eq_true])]
      exact ⟨hid, rfl⟩

end Store

end Dossier
