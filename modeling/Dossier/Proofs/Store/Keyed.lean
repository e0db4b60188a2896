import Mathlib.Data.List.Nodup
import Dossier.Proofs.Store.Effects

/-!
# Keyed stores

What holds of a store whoever writes to it, however these services are configured: identifiers are
unique, chunks belong to live records, and a vector belongs to an embedded chunk and to the tenant
of its record.  `Store.Keyed` leaves out what depends on how texts are cut and on the dimension of
vectors, so that it also holds of a store that services of different configurations share.

Rewriting and retiring a record are both `Store.renewed`, which replaces all that the store holds of
one record, and every change of a state of embedding is a `changeChunks` that keeps the place of
each chunk.  That these two and the commitment of a batch keep a store keyed is proved once for
each.
-/

namespace Dossier

/-! ### Places -/

/-- What a chunk covers of a text: its position, its byte offsets, its text and its words. -/
structure Extent where
  index : Int
  start : Int
  stop : Int
  text : String
  tokenCount : Int
deriving DecidableEq

/-- What a stored chunk covers. -/
def StoredChunk.extent (c : StoredChunk) : Extent :=
  ⟨c.index, c.start, c.stop, c.text, c.tokenCount⟩

/-- All of a chunk that the state of its embedding leaves out. -/
structure Place where
  id : Id
  record : Id
  extent : Extent
deriving DecidableEq

/-- The place of a chunk. -/
def StoredChunk.place (c : StoredChunk) : Place := ⟨c.id, c.record, c.extent⟩

namespace Store

/-- A store whose rows refer to each other as they should: records, chunks and vectors have names of
their own, the record of a chunk is live, and a vector has the tenant of the record of its chunk,
which is embedded, and a number that was given out. -/
structure Keyed (s : Store) : Prop where
  records : (s.records.map (·.id)).Nodup
  chunks : (s.chunks.map (·.id)).Nodup
  vectors : (s.vectors.map (·.chunk)).Nodup
  owner : ∀ c ∈ s.chunks, ∃ r ∈ s.records, r.id = c.record ∧ r.live
  backed : ∀ v ∈ s.vectors, ∃ c ∈ s.chunks, c.id = v.chunk ∧ c.status = .embedded ∧
    ∃ r ∈ s.records, r.id = c.record ∧ r.tenant = v.tenant
  bounded : ∀ v ∈ s.vectors, 0 < v.seq ∧ v.seq ≤ s.lastSeq
  rendered : ∀ v ∈ s.vectors, ∃ x : Vec, v.text = x.text ∧ x.length = v.dimension

variable {s t : Store}

/-- A store without rows is keyed. -/
lemma keyed_empty : Keyed {} :=
  ⟨List.nodup_nil, List.nodup_nil, List.nodup_nil, by simp, by simp, by simp, by simp⟩

/-- A store with the same tables as a keyed one is keyed. -/
lemma Keyed.of_sameTables (hs : s.Keyed) (h : SameTables s t) : t.Keyed := by
  obtain ⟨hrecords, hchunks, hvectors, hseq⟩ := h
  refine ⟨?_, ?_, ?_, ?_, ?_, ?_, ?_⟩
  · rw [hrecords]
    exact hs.records
  · rw [hchunks]
    exact hs.chunks
  · rw [hvectors]
    exact hs.vectors
  · rw [hrecords, hchunks]
    exact hs.owner
  · rw [hrecords, hchunks, hvectors]
    exact hs.backed
  · rw [hvectors, hseq]
    exact hs.bounded
  · rw [hvectors]
    exact hs.rendered

/-! ### Rows that are unique -/

/-- Two records of a keyed store with the same identifier are one. -/
lemma Keyed.record_eq (hs : s.Keyed) {r r' : Record} (hr : r ∈ s.records) (hr' : r' ∈ s.records)
    (hid : r.id = r'.id) : r = r' :=
  List.inj_on_of_nodup_map hs.records hr hr' hid

/-- Two chunks of a keyed store with the same identifier are one. -/
lemma Keyed.chunk_eq (hs : s.Keyed) {c c' : StoredChunk} (hc : c ∈ s.chunks) (hc' : c' ∈ s.chunks)
    (hid : c.id = c'.id) : c = c' :=
  List.inj_on_of_nodup_map hs.chunks hc hc' hid

/-- Two vectors of a keyed store with the same chunk are one. -/
lemma Keyed.vector_eq (hs : s.Keyed) {v v' : StoredVector} (hv : v ∈ s.vectors)
    (hv' : v' ∈ s.vectors) (hchunk : v.chunk = v'.chunk) : v = v' :=
  List.inj_on_of_nodup_map hs.vectors hv hv' hchunk

/-- A record of a keyed store is found by its identifier. -/
lemma Keyed.record?_eq_some (hs : s.Keyed) {r : Record} (hr : r ∈ s.records) :
    s.record? r.id = some r :=
  find?_eq_some_of_unique hr (beq_self_eq_true r.id) fun _ hother hid =>
    hs.record_eq hother hr (beq_iff_eq.mp hid)

/-- A chunk of a keyed store is found by its identifier. -/
lemma Keyed.chunk?_eq_some (hs : s.Keyed) {c : StoredChunk} (hc : c ∈ s.chunks) :
    s.chunk? c.id = some c :=
  find?_eq_some_of_unique hc (beq_self_eq_true c.id) fun _ hother hid =>
    hs.chunk_eq hother hc (beq_iff_eq.mp hid)

/-- The record of a chunk of a keyed store is live. -/
lemma Keyed.live_of_chunk (hs : s.Keyed) {c : StoredChunk} {r : Record} (hc : c ∈ s.chunks)
    (hr : r ∈ s.records) (hid : r.id = c.record) : r.live = true := by
  obtain ⟨owner, howner, hownerId, hlive⟩ := hs.owner c hc
  rw [hs.record_eq hr howner (hid.trans hownerId.symm)]
  exact hlive

/-- A chunk of a keyed store that is not embedded has no vector. -/
lemma Keyed.not_vector_of_not_embedded (hs : s.Keyed) {c : StoredChunk} (hc : c ∈ s.chunks)
    (hstatus : c.status ≠ .embedded) : ∀ v ∈ s.vectors, v.chunk ≠ c.id := by
  intro v hv hchunk
  obtain ⟨c', hc', hid, hembedded, -⟩ := hs.backed v hv
  have heq : c' = c := hs.chunk_eq hc' hc (hid.trans hchunk)
  rw [heq] at hembedded
  exact hstatus hembedded

/-! ### Renewing a record -/

/-- Chunks that can be added to others keep identifiers unique. -/
lemma Insertable.nodup {held rows : List StoredChunk} (h : Insertable held rows)
    (hheld : (held.map (·.id)).Nodup) : ((held ++ rows).map (·.id)).Nodup := by
  unfold Insertable at h
  induction rows generalizing held with
  | nil => rwa [List.append_nil]
  | cons c rest ih =>
    unfold addChunks at h
    split at h
    · cases h
    · rename_i hclash
      have hcons : held ++ c :: rest = held ++ [c] ++ rest := by simp
      rw [hcons] at h ⊢
      refine ih h ?_
      rw [List.map_append, List.nodup_append]
      refine ⟨hheld, List.nodup_singleton _, ?_⟩
      intro id hid id' hid' heq
      obtain ⟨c', hc', rfl⟩ := List.mem_map.mp hid
      rw [List.map_singleton, List.mem_singleton] at hid'
      refine hclash (List.any_eq_true.mpr ⟨c', hc', ?_⟩)
      rw [heq, hid', beq_self_eq_true, Bool.true_or]

/-- The store with all that it holds of one record replaced: the record itself, as the new list of
records has it, and its chunks, which have no vectors yet. -/
def renewed (s : Store) (id : Id) (records : List Record) (rows : List StoredChunk) : Store :=
  { s with
    records
    chunks := s.chunks.filter (·.record != id) ++ rows
    vectors := s.vectorsBeside id }

/-- New records and chunks that may replace all that a store holds of one record: nothing is said of
other records but that they stay, and the chunks are the record's own. -/
structure Replaces (s : Store) (id : Id) (records : List Record) (rows : List StoredChunk) :
    Prop where
  beside : ∀ r : Record, r.id ≠ id → (r ∈ records ↔ r ∈ s.records)
  own : ∀ c ∈ rows, c.record = id
  insertable : Insertable (s.chunks.filter (·.record != id)) rows
  owner : rows ≠ [] → ∃ r ∈ records, r.id = id ∧ r.live

/-- The chunks of a renewed store. -/
lemma mem_chunks_renewed {id : Id} {records : List Record} {rows : List StoredChunk}
    {c : StoredChunk} :
    c ∈ (s.renewed id records rows).chunks ↔ (c ∈ s.chunks ∧ c.record ≠ id) ∨ c ∈ rows := by
  unfold renewed
  rw [List.mem_append, List.mem_filter, bne_iff_ne]

/-- The vectors that do not belong to a chunk of a record. -/
lemma mem_vectorsBeside {record : Id} {v : StoredVector} :
    v ∈ s.vectorsBeside record ↔
      v ∈ s.vectors ∧ ∀ c ∈ s.chunks, c.record = record → c.id ≠ v.chunk := by
  unfold vectorsBeside chunksOf
  rw [List.mem_filter]
  simp

/-- A renewed store is keyed if the new records have names of their own. -/
lemma Keyed.renewed (hs : s.Keyed) {id : Id} {records : List Record} {rows : List StoredChunk}
    (h : Replaces s id records rows) (hrecords : (records.map (·.id)).Nodup) :
    (s.renewed id records rows).Keyed where
  records := hrecords
  chunks := h.insertable.nodup (hs.chunks.sublist (List.filter_sublist.map _))
  vectors := hs.vectors.sublist (List.filter_sublist.map _)
  owner := by
    intro c hc
    rcases mem_chunks_renewed.mp hc with ⟨hold, hne⟩ | hnew
    · obtain ⟨r, hr, hid, hlive⟩ := hs.owner c hold
      rw [← hid] at hne
      exact ⟨r, (h.beside r hne).mpr hr, hid, hlive⟩
    · obtain ⟨r, hr, hid, hlive⟩ := h.owner (List.ne_nil_of_mem hnew)
      exact ⟨r, hr, hid.trans (h.own c hnew).symm, hlive⟩
  backed := by
    intro v hv
    obtain ⟨hmem, hbeside⟩ := mem_vectorsBeside.mp hv
    obtain ⟨c, hc, hid, hstatus, r, hr, hrid, htenant⟩ := hs.backed v hmem
    have hne : c.record ≠ id := fun heq => hbeside c hc heq hid
    have hrne : r.id ≠ id := by rwa [hrid]
    exact ⟨c, mem_chunks_renewed.mpr (.inl ⟨hc, hne⟩), hid, hstatus, r, (h.beside r hrne).mpr hr,
      hrid, htenant⟩
  bounded := fun v hv => hs.bounded v (mem_vectorsBeside.mp hv).1
  rendered := fun v hv => hs.rendered v (mem_vectorsBeside.mp hv).1

/-- A keyed store is keyed without the vectors of a record. -/
lemma Keyed.dropVectors (hs : s.Keyed) (record : Id) : (s.dropVectors record).Keyed where
  records := hs.records
  chunks := hs.chunks
  vectors := hs.vectors.sublist (List.filter_sublist.map _)
  owner := hs.owner
  backed := fun v hv => hs.backed v (mem_vectorsBeside.mp hv).1
  bounded := fun v hv => hs.bounded v (mem_vectorsBeside.mp hv).1
  rendered := fun v hv => hs.rendered v (mem_vectorsBeside.mp hv).1

/-! ### States of embedding -/

/-- A chunk among others in the same places has one of them in its place. -/
lemma exists_of_places {chunks chunks' : List StoredChunk}
    (h : chunks'.map (·.place) = chunks.map (·.place)) {c : StoredChunk} (hc : c ∈ chunks') :
    ∃ held ∈ chunks, held.place = c.place := by
  have hplace : c.place ∈ chunks.map (·.place) := by
    rw [← h]
    exact List.mem_map_of_mem hc
  exact List.mem_map.mp hplace

/-- Chunks in the same places have the same identifiers. -/
lemma map_id_of_places {chunks chunks' : List StoredChunk}
    (h : chunks'.map (·.place) = chunks.map (·.place)) :
    chunks'.map (·.id) = chunks.map (·.id) := by
  have hids := congrArg (List.map Place.id) h
  rwa [List.map_map, List.map_map] at hids

/-- Chunks in the places of chunks that have live records have live records. -/
lemma owner_of_places {records : List Record} {chunks chunks' : List StoredChunk}
    (howner : ∀ c ∈ chunks, ∃ r ∈ records, r.id = c.record ∧ r.live)
    (h : chunks'.map (·.place) = chunks.map (·.place)) :
    ∀ c ∈ chunks', ∃ r ∈ records, r.id = c.record ∧ r.live := by
  intro c hc
  obtain ⟨held, hheld, hplace⟩ := exists_of_places h hc
  obtain ⟨r, hr, hid, hlive⟩ := howner held hheld
  exact ⟨r, hr, hid.trans (congrArg Place.record hplace), hlive⟩

/-- A change of chunks that keeps their places keeps the list of places. -/
lemma map_place_changeChunks {which : StoredChunk → Bool} {change : StoredChunk → StoredChunk}
    (hplace : ∀ c, (change c).place = c.place) :
    (s.changeChunks which change).chunks.map (·.place) = s.chunks.map (·.place) := by
  unfold changeChunks
  rw [List.map_map]
  refine List.map_congr_left fun c _ => ?_
  rw [Function.comp_apply]
  split
  · exact hplace c
  · rfl

/-- A change that keeps the places of chunks and concerns only chunks that neither were embedded nor
are. -/
structure BesideEmbedded (which : StoredChunk → Bool) (change : StoredChunk → StoredChunk) :
    Prop where
  place : ∀ c, (change c).place = c.place
  before : ∀ c, which c → c.status ≠ .embedded
  after : ∀ c, (change c).status ≠ .embedded

/-- A change beside the embedded chunks keeps them. -/
lemma BesideEmbedded.mem_iff {which : StoredChunk → Bool} {change : StoredChunk → StoredChunk}
    (h : BesideEmbedded which change) {c : StoredChunk} (hstatus : c.status = .embedded) :
    c ∈ (s.changeChunks which change).chunks ↔ c ∈ s.chunks := by
  unfold changeChunks
  rw [List.mem_map]
  constructor
  · rintro ⟨c', hc', rfl⟩
    split at hstatus
    · exact absurd hstatus (h.after c')
    · rename_i hwhich
      rwa [if_neg hwhich]
  · intro hc
    refine ⟨c, hc, ?_⟩
    rw [if_neg fun hwhich => h.before c hwhich hstatus]

/-- A store is still keyed behind a change beside the embedded chunks. -/
lemma Keyed.changeChunks {which : StoredChunk → Bool} {change : StoredChunk → StoredChunk}
    (hs : s.Keyed) (h : BesideEmbedded which change) : (s.changeChunks which change).Keyed where
  records := hs.records
  chunks := by
    rw [map_id_of_places (map_place_changeChunks h.place)]
    exact hs.chunks
  vectors := hs.vectors
  owner := owner_of_places hs.owner (map_place_changeChunks h.place)
  backed := by
    intro v hv
    obtain ⟨c, hc, hid, hstatus, howner⟩ := hs.backed v hv
    exact ⟨c, (h.mem_iff hstatus).mpr hc, hid, hstatus, howner⟩
  bounded := hs.bounded
  rendered := hs.rendered

/-- That chunks fail is a change beside the embedded ones. -/
lemma besideEmbedded_failed (chunks : List Id) (error : String) :
    BesideEmbedded (fun c => chunks.contains c.id && c.status == .pending) fun c =>
      { c with status := .failed, lastError := some error } where
  place := fun _ => rfl
  before := by
    intro c hwhich hstatus
    rw [hstatus, Bool.and_eq_true] at hwhich
    exact absurd hwhich.2 (by decide)
  after := by
    intro c hstatus
    cases hstatus

/-- That failed chunks are queued again is a change beside the embedded ones. -/
lemma besideEmbedded_requeued (s : Store) :
    BesideEmbedded (fun c => c.status == .failed && (s.context? c).isSome) fun c =>
      { c with status := .pending } where
  place := fun _ => rfl
  before := by
    intro c hwhich hstatus
    rw [hstatus, Bool.and_eq_true] at hwhich
    exact absurd hwhich.1 (by decide)
  after := by
    intro c hstatus
    cases hstatus

/-! ### Committing a batch -/

/-- What whoever commits a batch knows of a store: a chunk of the batch that is still there is in
the place that it had, in one record, and this record, if it is there, belongs to one tenant. -/
structure Knows (s : Store) (tenant : String) (record : Id) (batch : List StoredChunk) : Prop where
  place : ∀ c ∈ batch, ∀ held ∈ s.chunks, held.id = c.id → held.place = c.place
  own : ∀ c ∈ batch, c.record = record
  tenant : ∀ r ∈ s.records, r.id = record → r.tenant = tenant

/-- What is known of a batch is known of a part of it. -/
lemma Knows.mono {tenant : String} {record : Id} {batch part : List StoredChunk}
    (h : s.Knows tenant record batch) (hpart : part ⊆ batch) : s.Knows tenant record part :=
  ⟨fun c hc => h.place c (hpart hc), fun c hc => h.own c (hpart hc), h.tenant⟩

/-- What is known of a batch is known as long as the records are the same and the chunks stay in
their places. -/
lemma Knows.of_places {tenant : String} {record : Id} {batch : List StoredChunk}
    (h : s.Knows tenant record batch) (hrecords : t.records = s.records)
    (hplaces : t.chunks.map (·.place) = s.chunks.map (·.place)) : t.Knows tenant record batch where
  place := by
    intro c hc held hheld hid
    obtain ⟨held', hheld', heq⟩ := exists_of_places hplaces hheld
    rw [← heq]
    exact h.place c hc held' hheld' ((congrArg Place.id heq).trans hid)
  own := h.own
  tenant := by
    rw [hrecords]
    exact h.tenant

/-- A pending chunk of an identifier. -/
lemma isPending_iff {chunk : Id} :
    s.isPending chunk = true ↔ ∃ c ∈ s.chunks, c.id = chunk ∧ c.status = .pending := by
  unfold isPending
  rw [List.any_eq_true]
  simp

/-- Marking a chunk keeps the place of every chunk. -/
lemma map_place_marked (chunk : Id) :
    (s.marked chunk).chunks.map (·.place) = s.chunks.map (·.place) :=
  map_place_changeChunks fun _ => rfl

/-- A chunk that is embedded stays so when another is marked. -/
lemma mem_marked_of_embedded {chunk : Id} {c : StoredChunk} (hc : c ∈ s.chunks)
    (hstatus : c.status = .embedded) : c ∈ (s.marked chunk).chunks := by
  refine List.mem_map.mpr ⟨c, hc, ?_⟩
  rw [if_neg]
  simp [hstatus]

/-- A chunk that is embedded behind a mark was embedded before, or it was pending and is the chunk
that was marked. -/
lemma of_mem_marked {chunk : Id} {c : StoredChunk} (hc : c ∈ (s.marked chunk).chunks)
    (hstatus : c.status = .embedded) :
    c ∈ s.chunks ∨ c.id = chunk ∧ c.lastError = none ∧
      ∃ held ∈ s.chunks, held.id = chunk ∧ held.status = .pending ∧ held.place = c.place := by
  obtain ⟨held, hheld, rfl⟩ := List.mem_map.mp hc
  split
  · rename_i hwhich
    rw [Bool.and_eq_true, beq_iff_eq, beq_iff_eq] at hwhich
    exact .inr ⟨hwhich.1, rfl, held, hheld, hwhich.1, hwhich.2, rfl⟩
  · exact .inl hheld

/-- A pending chunk of a keyed store has no vector. -/
lemma Keyed.not_vector_of_isPending (hs : s.Keyed) {chunk : Id} (hpending : s.isPending chunk) :
    ∀ v ∈ s.vectors, v.chunk ≠ chunk := by
  obtain ⟨c, hc, rfl, hstatus⟩ := isPending_iff.mp hpending
  refine hs.not_vector_of_not_embedded hc ?_
  rw [hstatus]
  decide

/-- In a keyed store the vector of a pending chunk comes behind all vectors. -/
lemma Keyed.vectors_withVector (hs : s.Keyed) {chunk : Id} (hpending : s.isPending chunk)
    (tenant version : String) (v : Vec) :
    ((s.marked chunk).withVector chunk tenant version v).vectors =
      s.vectors ++ [s.vectorRow chunk tenant version v] := by
  have hnone := hs.not_vector_of_isPending hpending
  change (s.vectors.filter fun held => !(held.chunk == chunk && held.tenant == tenant)) ++
    [s.vectorRow chunk tenant version v] = _
  congr 1
  rw [List.filter_eq_self]
  intro held hheld
  simp [hnone held hheld]

/-- Committing one pair of a batch keeps the place of every chunk. -/
lemma map_place_embedOne (tenant version : String) (pair : StoredChunk × Vec) :
    (embedOne tenant version s pair).chunks.map (·.place) = s.chunks.map (·.place) := by
  unfold embedOne
  split
  · exact map_place_marked pair.1.id
  · rfl

/-- Committing one pair of a batch keeps the records. -/
@[simp] lemma records_embedOne (tenant version : String) (pair : StoredChunk × Vec) :
    (embedOne tenant version s pair).records = s.records := by
  unfold embedOne
  split <;> rfl

/-- A keyed store is still keyed when the vector of a pending chunk is written. -/
lemma Keyed.withVector (hs : s.Keyed) {tenant : String} {record : Id} {chunk : StoredChunk}
    (hknows : s.Knows tenant record [chunk]) (hpending : s.isPending chunk.id) (version : String)
    (v : Vec) : ((s.marked chunk.id).withVector chunk.id tenant version v).Keyed := by
  have hvectors := hs.vectors_withVector hpending tenant version v
  have hplaces := map_place_marked (s := s) chunk.id
  have hmem : ∀ held : StoredVector,
      held ∈ ((s.marked chunk.id).withVector chunk.id tenant version v).vectors ↔
        held ∈ s.vectors ∨ held = s.vectorRow chunk.id tenant version v := by
    intro held
    rw [hvectors, List.mem_append, List.mem_singleton]
  refine ⟨hs.records, ?chunks, ?vectors, owner_of_places hs.owner hplaces, ?backed, ?bounded,
    ?rendered⟩
  case chunks =>
    change ((s.marked chunk.id).chunks.map (·.id)).Nodup
    rw [map_id_of_places hplaces]
    exact hs.chunks
  case vectors =>
    rw [hvectors, List.map_append, List.nodup_append]
    refine ⟨hs.vectors, List.nodup_singleton _, ?_⟩
    intro id hid id' hid' heq
    obtain ⟨held, hheld, rfl⟩ := List.mem_map.mp hid
    rw [List.map_singleton, List.mem_singleton] at hid'
    exact hs.not_vector_of_isPending hpending held hheld (heq.trans hid')
  case backed =>
    intro held hheld
    rcases (hmem held).mp hheld with hold | rfl
    · obtain ⟨c, hc, hid, hstatus, howner⟩ := hs.backed held hold
      exact ⟨c, mem_marked_of_embedded hc hstatus, hid, hstatus, howner⟩
    · obtain ⟨c, hc, hid, hstatus⟩ := isPending_iff.mp hpending
      obtain ⟨r, hr, hrid, -⟩ := hs.owner c hc
      have hplace : c.record = chunk.record :=
        congrArg Place.record (hknows.place chunk (List.mem_singleton_self _) c hc hid)
      have hrecord := hplace.trans (hknows.own chunk (List.mem_singleton_self _))
      refine ⟨{ c with status := .embedded, lastError := none }, ?_, hid, rfl, r, hr, hrid,
        hknows.tenant r hr (hrid.trans hrecord)⟩
      refine List.mem_map.mpr ⟨c, hc, ?_⟩
      rw [if_pos]
      simp [hid, hstatus]
  case bounded =>
    intro held hheld
    rcases (hmem held).mp hheld with hold | rfl
    · obtain ⟨hpos, hle⟩ := hs.bounded held hold
      exact ⟨hpos, Nat.le_succ_of_le hle⟩
    · exact ⟨Nat.succ_pos _, Nat.le_refl _⟩
  case rendered =>
    intro held hheld
    rcases (hmem held).mp hheld with hold | rfl
    · exact hs.rendered held hold
    · exact ⟨v, rfl, rfl⟩

/-- Committing one pair of a batch keeps a store keyed. -/
lemma Keyed.embedOne (hs : s.Keyed) {tenant : String} {record : Id} {pair : StoredChunk × Vec}
    (hknows : s.Knows tenant record [pair.1]) (version : String) :
    (embedOne tenant version s pair).Keyed := by
  unfold Store.embedOne
  split
  · exact hs.withVector hknows ‹_› version pair.2
  · exact hs

/-- Committing a batch keeps the place of every chunk. -/
lemma map_place_embedAll (tenant version : String) (batch : List (StoredChunk × Vec)) :
    (embedAll tenant version s batch).chunks.map (·.place) = s.chunks.map (·.place) := by
  unfold embedAll
  induction batch generalizing s with
  | nil => rfl
  | cons pair rest ih =>
    rw [List.foldl_cons, ih]
    exact map_place_embedOne tenant version pair

/-- Committing a batch keeps the records. -/
@[simp] lemma records_embedAll (tenant version : String) (batch : List (StoredChunk × Vec)) :
    (embedAll tenant version s batch).records = s.records := by
  unfold embedAll
  induction batch generalizing s with
  | nil => rfl
  | cons pair rest ih =>
    rw [List.foldl_cons, ih, records_embedOne]

/-- What is known of a batch is still known when a pair has been committed. -/
lemma Knows.embedOne {tenant : String} {record : Id} {batch : List StoredChunk}
    (h : s.Knows tenant record batch) (version : String) (pair : StoredChunk × Vec) :
    (embedOne tenant version s pair).Knows tenant record batch :=
  h.of_places (records_embedOne tenant version pair) (map_place_embedOne tenant version pair)

/-- Committing a batch keeps a store keyed. -/
lemma Keyed.embedAll (hs : s.Keyed) {tenant : String} {record : Id}
    {batch : List (StoredChunk × Vec)} (hknows : s.Knows tenant record (batch.map (·.1)))
    (version : String) : (embedAll tenant version s batch).Keyed := by
  unfold Store.embedAll
  induction batch generalizing s with
  | nil => exact hs
  | cons pair rest ih =>
    have hfirst : s.Knows tenant record [pair.1] := hknows.mono (by simp)
    have hothers : s.Knows tenant record (rest.map (·.1)) := hknows.mono (by simp)
    rw [List.foldl_cons]
    exact ih (hs.embedOne hfirst version) (hothers.embedOne version pair)

/-- A record with a note when it was indexed, if it is the one that was. -/
def noteOn (record : Id) (now : Instant) (r : Record) : Record :=
  if r.id == record then { r with indexedAt := some now } else r

/-- A record and the same record with a note differ in the note only. -/
lemma noteOn_eq (record : Id) (now : Instant) (r : Record) :
    noteOn record now r = { r with indexedAt := (noteOn record now r).indexedAt } := by
  unfold noteOn
  split <;> rfl

/-- The records of a store with a note. -/
lemma mem_records_noted {record : Id} {now : Instant} {r : Record} :
    r ∈ (s.noted record now).records ↔ ∃ r' ∈ s.records, noteOn record now r' = r := List.mem_map

/-- Records that change so that they keep their identifiers have the same ones. -/
lemma map_id_map {records : List Record} {change : Record → Record} (h : ∀ r, (change r).id = r.id) :
    (records.map change).map (·.id) = records.map (·.id) := by
  rw [List.map_map]
  exact List.map_congr_left fun r _ => h r

/-- A note keeps a store keyed. -/
lemma Keyed.noted (hs : s.Keyed) (record : Id) (now : Instant) : (s.noted record now).Keyed where
  records := by
    change ((s.records.map (noteOn record now)).map (·.id)).Nodup
    rw [map_id_map fun r => by rw [noteOn_eq]]
    exact hs.records
  chunks := hs.chunks
  vectors := hs.vectors
  owner := by
    intro c hc
    obtain ⟨r, hr, hid, hlive⟩ := hs.owner c hc
    refine ⟨noteOn record now r, mem_records_noted.mpr ⟨r, hr, rfl⟩, ?_⟩
    rw [noteOn_eq]
    exact ⟨hid, hlive⟩
  backed := by
    intro v hv
    obtain ⟨c, hc, hid, hstatus, r, hr, hrid, htenant⟩ := hs.backed v hv
    refine ⟨c, hc, hid, hstatus, noteOn record now r, mem_records_noted.mpr ⟨r, hr, rfl⟩, ?_⟩
    rw [noteOn_eq]
    exact ⟨hrid, htenant⟩
  bounded := hs.bounded
  rendered := hs.rendered

/-- A store is still keyed when a batch is committed of which whoever commits it knows. -/
lemma Keyed.committed (hs : s.Keyed) {tenant : String} {record : Id}
    {batch : List (StoredChunk × Vec)} (hknows : s.Knows tenant record (batch.map (·.1)))
    (version : String) (now : Instant) :
    (s.committed tenant record version now batch).Keyed := by
  have hall := hs.embedAll hknows version
  unfold Store.committed
  split
  · exact hall
  · exact hall.noted record now

end Store

end Dossier
