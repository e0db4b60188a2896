import Dossier.Proofs.Store.Change

/-!
# What a store hands on to the next

Two relations between a store and one that it has become in the meantime.  `Store.Ensues new s t`
holds whatever services do to a store that they share: rows of chunks and records are old or have an
identifier among those that are `new`, and vectors that were not there before have numbers behind
all that were given out.  `Store.Succeeds new s t` says more of services of one configuration:
records stay, an embedded chunk that is still there has the same row and the same vector, and a
vector that was not there before belongs to a chunk that was pending.
-/

namespace Dossier

/-- Two states of a record, which agree on its identifier, its tenant and its entity. -/
structure Record.SameAs (r r' : Record) : Prop where
  id : r'.id = r.id
  tenant : r'.tenant = r.tenant
  link : r'.link? = r.link?

namespace Record.SameAs

/-- A record is a state of itself. -/
lemma refl (r : Record) : SameAs r r := ⟨rfl, rfl, rfl⟩

/-- Being states of one record is transitive. -/
lemma trans {r r' r'' : Record} (h : SameAs r r') (h' : SameAs r' r'') : SameAs r r'' :=
  ⟨h'.id.trans h.id, h'.tenant.trans h.tenant, h'.link.trans h.link⟩

end Record.SameAs

/-- A row is what is written for the vector of a chunk and a tenant. -/
structure StoredVector.Writes (row : StoredVector) (tenant : String) (chunk : Id) (x : Vec) :
    Prop where
  chunk : row.chunk = chunk
  tenant : row.tenant = tenant
  text : row.text = x.text

namespace Store

/-- A store that has come of another by changes that may have drawn the `new` identifiers. -/
structure Ensues (new : Id → Prop) (s t : Store) : Prop where
  chunk : ∀ c ∈ t.chunks, (∃ held ∈ s.chunks, held.place = c.place) ∨ new c.id
  record : ∀ r ∈ t.records, (∃ held ∈ s.records, held.SameAs r) ∨ new r.id
  number : s.lastSeq ≤ t.lastSeq
  written : ∀ v ∈ t.vectors, v ∈ s.vectors ∨ s.lastSeq < v.seq

/-- A store that has come of another by a change of services of one configuration. -/
structure Succeeds (new : Id → Prop) (s t : Store) : Prop extends Ensues new s t where
  stays : ∀ r ∈ s.records, ∃ r' ∈ t.records, r.SameAs r'
  embedded : ∀ c ∈ s.chunks, c.status = .embedded → ¬ new c.id →
    (∃ c' ∈ t.chunks, c'.id = c.id) →
      c ∈ t.chunks ∧ ∀ v ∈ s.vectors, v.chunk = c.id → v ∈ t.vectors
  vector : ∀ v ∈ t.vectors, v ∈ s.vectors ∨ s.isPending v.chunk

variable {new : Id → Prop} {chunking : Text.Chunking} {dimension : Nat} {s t : Store}

/-! ### Coming of a store -/

/-- A store with the same tables has come of a store. -/
lemma SameTables.ensues (h : SameTables s t) : Ensues new s t where
  chunk := by
    rw [h.chunks]
    exact fun c hc => .inl ⟨c, hc, rfl⟩
  record := by
    rw [h.records]
    exact fun r hr => .inl ⟨r, hr, .refl r⟩
  number := Nat.le_of_eq h.lastSeq.symm
  written := by
    rw [h.vectors]
    exact fun v hv => .inl hv

/-- A store has come of another also when more identifiers count as new. -/
lemma Ensues.mono {new' : Id → Prop} (h : Ensues new s t) (hnew : ∀ id, new id → new' id) :
    Ensues new' s t where
  chunk := fun c hc => (h.chunk c hc).imp_right (hnew c.id)
  record := fun r hr => (h.record r hr).imp_right (hnew r.id)
  number := h.number
  written := h.written

/-- What has come of a store that has come of another has come of the latter. -/
lemma Ensues.trans {u : Store} (h : Ensues new s t) (h' : Ensues new t u) : Ensues new s u where
  chunk := by
    intro c hc
    rcases h'.chunk c hc with ⟨held, hheld, hplace⟩ | hnew
    · have hid : held.id = c.id := congrArg Place.id hplace
      rw [← hplace, ← hid]
      exact h.chunk held hheld
    · exact .inr hnew
  record := by
    intro r hr
    rcases h'.record r hr with ⟨held, hheld, hsame⟩ | hnew
    · rcases h.record held hheld with ⟨held', hheld', hsame'⟩ | hnew
      · exact .inl ⟨held', hheld', hsame'.trans hsame⟩
      · rw [hsame.id]
        exact .inr hnew
    · exact .inr hnew
  number := Nat.le_trans h.number h'.number
  written := by
    intro v hv
    rcases h'.written v hv with hold | hlate
    · exact h.written v hold
    · exact .inr (Nat.lt_of_le_of_lt h.number hlate)

/-- What is known of a batch is still known of a store that has come of another, if the identifiers
of the batch and of its record are not among the new ones. -/
lemma Knows.of_ensues {tenant : String} {record : Id} {batch : List StoredChunk}
    (h : s.Knows tenant record batch) (hensues : Ensues new s t) (hbatch : ∀ c ∈ batch, ¬ new c.id)
    (hrecord : ¬ new record) : t.Knows tenant record batch where
  place := by
    intro c hc held hheld hid
    rcases hensues.chunk held hheld with ⟨held', hheld', hplace⟩ | hnew
    · rw [← hplace]
      exact h.place c hc held' hheld' ((congrArg Place.id hplace).trans hid)
    · rw [hid] at hnew
      exact absurd hnew (hbatch c hc)
  own := h.own
  tenant := by
    intro r hr hid
    rcases hensues.record r hr with ⟨held, hheld, hsame⟩ | hnew
    · rw [hsame.tenant]
      exact h.tenant held hheld (hsame.id.symm.trans hid)
    · rw [hid] at hnew
      exact absurd hnew hrecord

/-- A renewed store has come of a store, if the chunks and the record that are not old have new
identifiers. -/
lemma Replaces.ensues {id : Id} {records : List Record} {rows : List StoredChunk}
    (h : Replaces s id records rows) (hrows : ∀ c ∈ rows, new c.id)
    (hrecord : ∀ r ∈ records, r.id = id → (∃ held ∈ s.records, held.SameAs r) ∨ new r.id) :
    Ensues new s (s.renewed id records rows) where
  chunk := by
    intro c hc
    rcases mem_chunks_renewed.mp hc with ⟨hold, -⟩ | hnew
    · exact .inl ⟨c, hold, rfl⟩
    · exact .inr (hrows c hnew)
  record := by
    intro r hr
    by_cases hid : r.id = id
    · exact hrecord r hr hid
    · exact .inl ⟨r, (h.beside r hid).mp hr, .refl r⟩
  number := Nat.le_refl _
  written := fun _ hv => .inl (mem_vectorsBeside.mp hv).1

/-- The store without the vectors of a record has come of the store. -/
lemma ensues_dropVectors (record : Id) : Ensues new s (s.dropVectors record) where
  chunk := fun c hc => .inl ⟨c, hc, rfl⟩
  record := fun r hr => .inl ⟨r, hr, .refl r⟩
  number := Nat.le_refl _
  written := fun _ hv => .inl (mem_vectorsBeside.mp hv).1

/-- A row of a draft has one of the identifiers that come behind the first. -/
lemma exists_of_mem_rows {d : Draft} {fresh : Nat → Id} {record : Id} {c : StoredChunk}
    (hc : c ∈ d.rows fresh record) : ∃ k ≤ (d.rows fresh record).length, c.id = fresh k := by
  unfold Draft.rows at hc ⊢
  obtain ⟨i, hi, rfl⟩ := List.mem_mapIdx.mp hc
  refine ⟨i + 1, ?_, rfl⟩
  rw [List.length_mapIdx]
  exact hi

/-- A record and the same record with a note are states of one record. -/
lemma sameAs_noteOn (record : Id) (now : Instant) (r : Record) :
    r.SameAs (noteOn record now r) := by
  rw [noteOn_eq]
  exact ⟨rfl, rfl, rfl⟩

/-- The store behind the transaction of a draft has come of the store, with the identifiers of the
draft, if chunks have live records. -/
lemma ensues_staging (howner : ∀ c ∈ s.chunks, ∃ r ∈ s.records, r.id = c.record ∧ r.live)
    {d : Draft} {fresh : Nat → Id} {now : Instant} {staged : Staged}
    (h : d.Staging fresh now s staged t) :
    Ensues (fun id => ∃ k ≤ staged.rows.length, id = fresh k) s t := by
  cases h with
  | created hnone hid hrows =>
    rw [Draft.created_eq_renewed howner hid]
    refine (Draft.replaces_created howner hid hrows).ensues ?_ ?_
    · exact fun c hc => exists_of_mem_rows hc
    · exact fun r _ hr => .inr ⟨0, Nat.zero_le _, hr⟩
  | replaced hheld hrows =>
    rw [Draft.replaced_eq_renewed]
    refine (Draft.replaces_replaced hheld hrows).ensues ?_ ?_
    · exact fun c hc => exists_of_mem_rows hc
    · intro r hr _
      obtain ⟨r', hr', rfl⟩ := List.mem_map.mp hr
      refine .inl ⟨r', hr', ?_⟩
      rw [Draft.rewriteOf_eq]
      exact ⟨rfl, rfl, rfl⟩

/-- The store behind a retirement has come of the store. -/
lemma ensues_retired (s : Store) (r : Record) (now : Instant) :
    Ensues new s (s.retired r now) := by
  rw [retired_eq_renewed]
  refine (replaces_retired s r now).ensues (by simp) ?_
  intro held hheld _
  obtain ⟨held', hheld', rfl⟩ := List.mem_map.mp hheld
  refine .inl ⟨held', hheld', ?_⟩
  rw [burialOf_eq]
  exact ⟨rfl, rfl, rfl⟩

/-- The store behind a change of the states of embedding has come of the store. -/
lemma ensues_changeChunks {which : StoredChunk → Bool} {change : StoredChunk → StoredChunk}
    (hplace : ∀ c, (change c).place = c.place) : Ensues new s (s.changeChunks which change) where
  chunk := fun _ hc => .inl (exists_of_places (map_place_changeChunks hplace) hc)
  record := fun r hr => .inl ⟨r, hr, .refl r⟩
  number := Nat.le_refl _
  written := fun _ hv => .inl hv

/-- A store of which chunks have failed has come of the store. -/
lemma ensues_failed (s : Store) (chunks : List Id) (error : String) :
    Ensues new s (s.failed chunks error) := ensues_changeChunks fun _ => rfl

/-- A store of which chunks are queued again has come of the store. -/
lemma ensues_requeued (s : Store) : Ensues new s s.requeued := ensues_changeChunks fun _ => rfl

/-- The store behind the commitment of a pair has come of the store. -/
lemma ensues_embedOne (tenant version : String) (pair : StoredChunk × Vec) :
    Ensues new s (embedOne tenant version s pair) where
  chunk := fun _ hc => .inl (exists_of_places (map_place_embedOne tenant version pair) hc)
  record := by
    rw [records_embedOne]
    exact fun r hr => .inl ⟨r, hr, .refl r⟩
  number := by
    unfold embedOne
    split
    · exact Nat.le_succ s.lastSeq
    · exact Nat.le_refl s.lastSeq
  written := by
    unfold embedOne
    split
    · intro v hv
      rcases List.mem_append.mp hv with hold | hnew
      · exact .inl (List.mem_filter.mp hold).1
      · rw [List.mem_singleton.mp hnew]
        exact .inr (Nat.lt_succ_self s.lastSeq)
    · exact fun v hv => .inl hv

/-- The store behind the commitment of a batch has come of the store, noted or not. -/
lemma ensues_committed (s : Store) (tenant : String) (record : Id) (version : String)
    (now : Instant) (batch : List (StoredChunk × Vec)) :
    Ensues new s (s.committed tenant record version now batch) := by
  have hall : ∀ (batch : List (StoredChunk × Vec)) (s : Store),
      Ensues new s (embedAll tenant version s batch) := by
    intro batch
    induction batch with
    | nil => exact fun s => (SameTables.refl s).ensues
    | cons pair rest ih => exact fun s => (ensues_embedOne tenant version pair).trans (ih _)
  unfold committed
  split
  · exact hall batch s
  · refine (hall batch s).trans ⟨fun c hc => .inl ⟨c, hc, rfl⟩, ?_, Nat.le_refl _, fun v => .inl⟩
    intro r hr
    obtain ⟨r', hr', rfl⟩ := mem_records_noted.mp hr
    exact .inl ⟨r', hr', sameAs_noteOn record now r'⟩

/-! ### Succeeding a store -/

/-- A store with the same tables succeeds a store. -/
lemma SameTables.succeeds (h : SameTables s t) : Succeeds new s t where
  toEnsues := h.ensues
  stays := by
    rw [h.records]
    exact fun r hr => ⟨r, hr, .refl r⟩
  embedded := by
    rw [h.chunks, h.vectors]
    exact fun c hc _ _ _ => ⟨hc, fun v hv _ => hv⟩
  vector := by
    rw [h.vectors]
    exact fun v hv => .inl hv

/-- A store succeeds another also when more identifiers count as new. -/
lemma Succeeds.mono {new' : Id → Prop} (h : Succeeds new s t) (hnew : ∀ id, new id → new' id) :
    Succeeds new' s t where
  toEnsues := h.toEnsues.mono hnew
  stays := h.stays
  embedded := fun c hc hstatus hold => h.embedded c hc hstatus fun hn => hold (hnew c.id hn)
  vector := h.vector

/-- A store with the same tables as one that succeeds another succeeds it too. -/
lemma Succeeds.of_sameTables {u : Store} (h : Succeeds new s t) (hsame : SameTables t u) :
    Succeeds new s u where
  toEnsues := h.toEnsues.trans hsame.ensues
  stays := by
    rw [hsame.records]
    exact h.stays
  embedded := by
    rw [hsame.chunks, hsame.vectors]
    exact h.embedded
  vector := by
    rw [hsame.vectors]
    exact h.vector

/-- A renewed store succeeds a sound one, if the chunks and the record that are not old have new
identifiers. -/
lemma Sound.succeeds_renewed (hs : Sound chunking dimension s) {id : Id} {records : List Record}
    {rows : List StoredChunk} (h : Renews chunking s id records rows)
    (hensues : Ensues new s (s.renewed id records rows)) (hrows : ∀ c ∈ rows, new c.id)
    (hstays : ∀ r ∈ s.records, r.id = id → ∃ r' ∈ records, r.SameAs r') :
    Succeeds new s (s.renewed id records rows) where
  toEnsues := hensues
  stays := by
    intro r hr
    by_cases hid : r.id = id
    · exact hstays r hr hid
    · exact ⟨r, (h.beside r hid).mpr hr, .refl r⟩
  embedded := by
    rintro c hc - hold ⟨c', hc', hid⟩
    rcases mem_chunks_renewed.mp hc' with ⟨hmem, hne⟩ | hnew
    · have heq := hs.keyed.chunk_eq hmem hc hid
      subst heq
      refine ⟨hc', ?_⟩
      intro v hv hchunk
      refine mem_vectorsBeside.mpr ⟨hv, ?_⟩
      intro c'' hc'' hrecord hid''
      rw [hs.keyed.chunk_eq hc'' hc (hid''.trans hchunk)] at hrecord
      exact hne hrecord
    · have hnewId := hrows c' hnew
      rw [hid] at hnewId
      exact absurd hnewId hold
  vector := fun v hv => .inl (mem_vectorsBeside.mp hv).1

/-- The store behind the transaction of a draft succeeds a sound one. -/
lemma Sound.succeeds_staging (hs : Sound chunking dimension s) {d : Draft} {fresh : Nat → Id}
    {now : Instant} {staged : Staged} (hd : d.CutBy chunking) (h : d.Staging fresh now s staged t) :
    Succeeds (fun id => ∃ k ≤ staged.rows.length, id = fresh k) s t := by
  have hensues := ensues_staging hs.chunks.owner h
  cases h with
  | created hnone hid hrows =>
    rw [Draft.created_eq_renewed hs.chunks.owner hid] at hensues ⊢
    refine hs.succeeds_renewed (Draft.renews_created hs hd hnone hid hrows) hensues ?_ ?_
    · exact fun c hc => exists_of_mem_rows hc
    · intro r hr hrid
      unfold record? at hid
      rw [List.find?_eq_none] at hid
      exact absurd (beq_iff_eq.mpr hrid) (hid r hr)
  | replaced hheld hrows =>
    rw [Draft.replaced_eq_renewed] at hensues ⊢
    refine hs.succeeds_renewed (Draft.renews_replaced hs hd hheld hrows) hensues ?_ ?_
    · exact fun c hc => exists_of_mem_rows hc
    · intro r hr _
      refine ⟨_, List.mem_map_of_mem hr, ?_⟩
      rw [Draft.rewriteOf_eq]
      exact ⟨rfl, rfl, rfl⟩

/-- The store behind a retirement succeeds a sound one. -/
lemma Sound.succeeds_retired (hs : Sound chunking dimension s) {r : Record}
    (hr : ∀ held ∈ s.records, held.id = r.id → held.tenant = r.tenant) (now : Instant) :
    Succeeds new s (s.retired r now) := by
  have hensues : Ensues new s (s.retired r now) := ensues_retired s r now
  rw [retired_eq_renewed] at hensues ⊢
  refine hs.succeeds_renewed (renews_retired hs hr now) hensues (by simp) ?_
  intro held hheld _
  refine ⟨_, List.mem_map_of_mem hheld, ?_⟩
  rw [burialOf_eq]
  exact ⟨rfl, rfl, rfl⟩

/-- The store behind a change beside the embedded chunks succeeds a store. -/
lemma BesideEmbedded.succeeds {which : StoredChunk → Bool} {change : StoredChunk → StoredChunk}
    (h : BesideEmbedded which change) : Succeeds new s (s.changeChunks which change) where
  toEnsues := ensues_changeChunks h.place
  stays := fun r hr => ⟨r, hr, .refl r⟩
  embedded := fun _ hc hstatus _ _ => ⟨(h.mem_iff hstatus).mpr hc, fun _ hv _ => hv⟩
  vector := fun _ hv => .inl hv

/-! ### Batches -/

/-- A chunk that is pending behind the commitment of a pair was pending before. -/
lemma isPending_of_isPending_embedOne {tenant version : String} {pair : StoredChunk × Vec}
    {chunk : Id} (h : (embedOne tenant version s pair).isPending chunk) : s.isPending chunk := by
  unfold embedOne at h
  split at h
  · obtain ⟨c, hc, hid, hstatus⟩ := isPending_iff.mp h
    obtain ⟨held, hheld, heq⟩ := List.mem_map.mp hc
    split at heq
    · rw [← heq] at hstatus
      cases hstatus
    · rw [heq] at hheld
      exact isPending_iff.mpr ⟨c, hheld, hid, hstatus⟩
  · exact h

/-- A vector that is new behind the commitment of a pair is that of the pair. -/
lemma of_mem_vectors_embedOne {tenant version : String} {pair : StoredChunk × Vec}
    {v : StoredVector} (hv : v ∈ (embedOne tenant version s pair).vectors) :
    v ∈ s.vectors ∨ v.chunk = pair.1.id ∧ v.text = pair.2.text ∧ v.dimension = pair.2.length := by
  unfold embedOne at hv
  split at hv
  · rcases List.mem_append.mp hv with hold | hnew
    · exact .inl (List.mem_filter.mp hold).1
    · rw [List.mem_singleton] at hnew
      rw [hnew]
      exact .inr ⟨rfl, rfl, rfl⟩
  · exact .inl hv

/-- The chunks of a batch whose vectors count were pending. -/
lemma isPending_of_mem_counted {tenant version : String} {batch : List (StoredChunk × Vec)}
    {entry : Id × Vec} (h : entry ∈ counted tenant version s batch) : s.isPending entry.1 := by
  induction batch generalizing s with
  | nil => cases h
  | cons pair rest ih =>
    unfold counted at h
    split at h
    · rename_i hpending
      rcases List.mem_cons.mp h with rfl | hrest
      · exact hpending
      · exact isPending_of_isPending_embedOne (ih hrest)
    · exact ih h

/-- A vector that is new behind the commitment of a batch is one of those that count. -/
lemma of_mem_vectors_embedAll {tenant version : String} {batch : List (StoredChunk × Vec)}
    {v : StoredVector} (hv : v ∈ (embedAll tenant version s batch).vectors) :
    v ∈ s.vectors ∨ ∃ entry ∈ counted tenant version s batch, v.chunk = entry.1 ∧
      v.text = entry.2.text ∧ v.dimension = entry.2.length := by
  unfold embedAll at hv
  induction batch generalizing s with
  | nil => exact .inl hv
  | cons pair rest ih =>
    rw [List.foldl_cons] at hv
    unfold counted
    by_cases hpending : s.isPending pair.1.id
    · rw [if_pos hpending]
      rcases ih hv with hone | ⟨entry, hentry, hsame⟩
      · rcases of_mem_vectors_embedOne hone with hold | hnew
        · exact .inl hold
        · exact .inr ⟨_, List.mem_cons_self, hnew⟩
      · exact .inr ⟨entry, List.mem_cons_of_mem _ hentry, hsame⟩
    · have hsame : embedOne tenant version s pair = s := by
        unfold embedOne
        rw [if_neg hpending]
      rw [hsame] at hv
      rw [if_neg hpending]
      exact ih hv

/-- In a keyed store the commitment of a pair leaves embedded chunks and vectors as they are. -/
lemma Keyed.kept_embedOne (hs : s.Keyed) (tenant version : String) (pair : StoredChunk × Vec) :
    (∀ c ∈ s.chunks, c.status = .embedded → c ∈ (Store.embedOne tenant version s pair).chunks) ∧
      ∀ v ∈ s.vectors, v ∈ (Store.embedOne tenant version s pair).vectors := by
  unfold Store.embedOne
  split
  · rename_i hpending
    refine ⟨fun c hc hstatus => mem_marked_of_embedded hc hstatus, ?_⟩
    intro v hv
    rw [hs.vectors_withVector hpending]
    exact List.mem_append_left _ hv
  · exact ⟨fun c hc _ => hc, fun v hv => hv⟩

/-- In a keyed store the commitment of a batch leaves embedded chunks and vectors as they are. -/
lemma Keyed.kept_embedAll (hs : s.Keyed) {tenant : String} {record : Id}
    {batch : List (StoredChunk × Vec)} (hknows : s.Knows tenant record (batch.map (·.1)))
    (version : String) :
    (∀ c ∈ s.chunks, c.status = .embedded → c ∈ (Store.embedAll tenant version s batch).chunks) ∧
      ∀ v ∈ s.vectors, v ∈ (Store.embedAll tenant version s batch).vectors := by
  unfold Store.embedAll
  induction batch generalizing s with
  | nil => exact ⟨fun c hc _ => hc, fun v hv => hv⟩
  | cons pair rest ih =>
    have hfirst : s.Knows tenant record [pair.1] := hknows.mono (by simp)
    have hothers : s.Knows tenant record (rest.map (·.1)) := hknows.mono (by simp)
    obtain ⟨hchunks, hvectors⟩ := ih (hs.embedOne hfirst version) (hothers.embedOne version pair)
    obtain ⟨hchunks', hvectors'⟩ := hs.kept_embedOne tenant version pair
    rw [List.foldl_cons]
    refine ⟨?_, fun v hv => hvectors v (hvectors' v hv)⟩
    intro c hc hstatus
    exact hchunks c (hchunks' c hc hstatus) hstatus

/-- A chunk is not pending any more when its vector has been committed. -/
lemma not_isPending_embedOne (s : Store) (tenant version : String) (pair : StoredChunk × Vec) :
    ¬ (embedOne tenant version s pair).isPending pair.1.id = true := by
  unfold embedOne
  split
  · intro hpending
    obtain ⟨c, hc, hid, hstatus⟩ := isPending_iff.mp hpending
    obtain ⟨held, hheld, rfl⟩ := List.mem_map.mp hc
    split at hstatus
    · cases hstatus
    · rename_i hwhich
      rw [if_neg hwhich] at hid
      exact hwhich (by simp [hid, hstatus])
  · rename_i hpending
    exact hpending

/-- A row stays in place when one more vector is committed, if its chunk is not pending. -/
lemma mem_vectors_embedOne {tenant version : String} {row : StoredVector} (hrow : row ∈ s.vectors)
    (hpending : ¬ s.isPending row.chunk = true) (pair : StoredChunk × Vec) :
    row ∈ (embedOne tenant version s pair).vectors := by
  unfold embedOne
  split
  · rename_i hpair
    have hother : row.chunk ≠ pair.1.id := by
      rintro hsame
      rw [hsame] at hpending
      exact hpending hpair
    exact List.mem_append_left _ (List.mem_filter.mpr ⟨hrow, by simp [hother]⟩)
  · exact hrow

/-- A row stays in place when a batch is committed, if its chunk is not pending. -/
lemma mem_vectors_embedAll {tenant version : String} {batch : List (StoredChunk × Vec)}
    {row : StoredVector} (hrow : row ∈ s.vectors) (hpending : ¬ s.isPending row.chunk = true) :
    row ∈ (embedAll tenant version s batch).vectors := by
  unfold embedAll
  induction batch generalizing s with
  | nil => exact hrow
  | cons pair rest ih =>
    exact ih (mem_vectors_embedOne hrow hpending pair)
      fun h => hpending (isPending_of_isPending_embedOne h)

/-- A vector that counts has its row behind the commitment of its batch. -/
lemma exists_row_of_counted {tenant version : String} {batch : List (StoredChunk × Vec)}
    {entry : Id × Vec} (h : entry ∈ counted tenant version s batch) :
    ∃ row ∈ (embedAll tenant version s batch).vectors, row.Writes tenant entry.1 entry.2 := by
  induction batch generalizing s with
  | nil => cases h
  | cons pair rest ih =>
    change ∃ row ∈ (embedAll tenant version (embedOne tenant version s pair) rest).vectors, _
    unfold counted at h
    by_cases hpending : s.isPending pair.1.id
    · rw [if_pos hpending] at h
      rcases List.mem_cons.mp h with rfl | hlater
      · have hrow : s.vectorRow pair.1.id tenant version pair.2 ∈
            (embedOne tenant version s pair).vectors := by
          unfold embedOne
          rw [if_pos hpending]
          exact List.mem_append_right _ (List.mem_singleton_self _)
        -- the chunk is embedded from now on, so that no later pair replaces the row
        exact ⟨_, mem_vectors_embedAll hrow (not_isPending_embedOne s tenant version pair),
          rfl, rfl, rfl⟩
      · exact ih hlater
    · rw [if_neg hpending] at h
      have hsame : embedOne tenant version s pair = s := if_neg hpending
      rw [hsame]
      exact ih h

/-- The chunks behind the commitment of a batch. -/
lemma chunks_committed (s : Store) (tenant : String) (record : Id) (version : String)
    (now : Instant) (batch : List (StoredChunk × Vec)) :
    (s.committed tenant record version now batch).chunks =
      (embedAll tenant version s batch).chunks := by
  unfold committed
  split <;> rfl

/-- The vectors behind the commitment of a batch. -/
lemma vectors_committed (s : Store) (tenant : String) (record : Id) (version : String)
    (now : Instant) (batch : List (StoredChunk × Vec)) :
    (s.committed tenant record version now batch).vectors =
      (embedAll tenant version s batch).vectors := by
  unfold committed
  split <;> rfl

/-- The records behind the commitment of a batch are the same with a note, or without. -/
lemma records_committed (s : Store) (tenant : String) (record : Id) (version : String)
    (now : Instant) (batch : List (StoredChunk × Vec)) :
    (s.committed tenant record version now batch).records = s.records ∨
      (s.committed tenant record version now batch).records =
        s.records.map (noteOn record now) := by
  unfold committed
  split
  · exact .inl (records_embedAll tenant version batch)
  · right
    change (embedAll tenant version s batch).records.map (noteOn record now) = _
    rw [records_embedAll]

/-- The store behind the commitment of a batch succeeds a sound one. -/
lemma Sound.succeeds_committed (hs : Sound chunking dimension s) {tenant : String} {record : Id}
    {batch : List (StoredChunk × Vec)} (hknows : s.Knows tenant record (batch.map (·.1)))
    (version : String) (now : Instant) :
    Succeeds new s (s.committed tenant record version now batch) := by
  have hkept := hs.keyed.kept_embedAll hknows version
  refine ⟨ensues_committed s tenant record version now batch, ?_, ?_, ?_⟩
  · intro r hr
    rcases records_committed s tenant record version now batch with h | h
    · rw [h]
      exact ⟨r, hr, .refl r⟩
    · rw [h]
      exact ⟨_, List.mem_map_of_mem hr, sameAs_noteOn record now r⟩
  · intro c hc hstatus _ _
    rw [chunks_committed, vectors_committed]
    exact ⟨hkept.1 c hc hstatus, fun v hv _ => hkept.2 v hv⟩
  · intro v hv
    rw [vectors_committed] at hv
    rcases of_mem_vectors_embedAll hv with hold | ⟨entry, hentry, hchunk, -⟩
    · exact .inl hold
    · rw [hchunk]
      exact .inr (isPending_of_mem_counted hentry)

end Store

end Dossier
