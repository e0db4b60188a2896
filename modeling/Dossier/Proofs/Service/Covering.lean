import Dossier.Proofs.Service.Following

/-!
# Indexes leave nothing out

While one process works on its own, everything that comes into the store comes into its indexes,
with the same terms and the same value, and nothing else leaves them than what leaves the store
(`Memory.Covers`).  For a vector this rests on its text, which reads back as the vector that the
provider gave, unless a component is not a number.
-/

namespace Dossier

variable {σ : Type}

/-! ### The lexical index -/

namespace LexicalIndex

variable {index : LexicalIndex} {s t : Store}

/-- Every chunk of a store has an entry with its terms. -/
def Covers (index : LexicalIndex) (s : Store) : Prop :=
  ∀ c ∈ s.chunks, ∃ e ∈ index.entries, e.chunk = c.id ∧ e.terms = Dossier.terms c.text

/-- Covering a store is a matter of the places of its chunks. -/
lemma Covers.of_places (h : index.Covers s)
    (hplaces : t.chunks.map (·.place) = s.chunks.map (·.place)) : index.Covers t := by
  intro c hc
  obtain ⟨held, hheld, hplace⟩ := Store.exists_of_places hplaces hc
  have hid : held.id = c.id := congrArg Place.id hplace
  have htext : held.text = c.text := congrArg (·.extent.text) hplace
  rw [← hid, ← htext]
  exact h held hheld

/-- Chunks with names of their own are all in an index to which they were added. -/
lemma mem_foldl_add {α : Type} {chunk record : α → Id} {tenant text : α → String} {as : List α}
    (hnodup : (as.map chunk).Nodup) {a : α} (ha : a ∈ as) :
    ⟨chunk a, record a, tenant a, Dossier.terms (text a)⟩ ∈
      (as.foldl (fun index a => index.add (chunk a) (record a) (tenant a) (text a))
        index).entries := by
  induction as generalizing index with
  | nil => cases ha
  | cons first rest ih =>
    obtain ⟨hfirst, hrest⟩ := List.nodup_cons.mp hnodup
    rw [List.foldl_cons]
    rcases List.mem_cons.mp ha with rfl | hlater
    · have hthere : ⟨chunk a, record a, tenant a, Dossier.terms (text a)⟩ ∈
          (index.add (chunk a) (record a) (tenant a) (text a)).entries := mem_add.mpr (.inl rfl)
      refine mem_foldl_add_of_ne hthere ?_
      intro a' ha' heq
      have hmem : chunk a' ∈ rest.map chunk := List.mem_map_of_mem ha'
      rw [heq] at hmem
      exact hfirst hmem
    · exact ih hrest hlater

/-- An index that covers a store covers it behind the renewal of a record, when the chunks of the
record have been dropped and the new ones added. -/
lemma Covers.renewed (h : index.Covers s) (hs : s.Keyed) {id : Id} {records : List Record}
    {rows : List StoredChunk} (ht : ((s.renewed id records rows).chunks.map (·.id)).Nodup)
    {gone : List Id} (hgone : ∀ chunk ∈ gone, chunk ∈ s.chunkIds id) {record : Id}
    {tenant : String} :
    Covers (rows.foldl (fun index row => index.add row.id record tenant row.text)
      (index.remove gone)) (s.renewed id records rows) := by
  have hsplit : ((s.renewed id records rows).chunks.map (·.id)) =
      (s.chunks.filter (·.record != id)).map (·.id) ++ rows.map (·.id) := List.map_append
  rw [hsplit, List.nodup_append] at ht
  intro c hc
  rcases Store.mem_chunks_renewed.mp hc with ⟨hold, hne⟩ | hnew
  · obtain ⟨e, he, hid, hterms⟩ := h c hold
    have hkept : e.chunk ∉ gone := by
      intro hmem
      obtain ⟨c', hc', hrecord, hid'⟩ := Store.mem_chunkIds.mp (hgone _ hmem)
      rw [hs.chunk_eq hc' hold (hid'.trans hid)] at hrecord
      exact hne hrecord
    refine ⟨e, mem_foldl_add_of_ne (mem_remove.mpr ⟨he, hkept⟩) ?_, hid, hterms⟩
    intro row hrow heq
    have hbeside : c ∈ s.chunks.filter (·.record != id) :=
      List.mem_filter.mpr ⟨hold, bne_iff_ne.mpr hne⟩
    exact ht.2.2 c.id (List.mem_map_of_mem hbeside) row.id (List.mem_map_of_mem hrow)
      (hid.symm.trans heq.symm)
  · exact ⟨_, mem_foldl_add ht.2.1 hnew, rfl, rfl⟩

/-- An index that is made anew from all live chunks of a keyed store covers the store. -/
lemma covers_lexicalOf (hs : s.Keyed) {sources : List ChunkContext}
    (h : sources.Perm s.liveChunks) : Covers (Memory.lexicalOf sources) s := by
  have hnodup := (h.map (·.chunk.id)).nodup_iff.mpr hs.nodup_liveChunks
  intro c hc
  obtain ⟨r, hr, hid, -⟩ := hs.owner c hc
  have hmem : (⟨c, r⟩ : ChunkContext) ∈ sources := h.mem_iff.mpr (hs.mem_liveChunks hc hr hid)
  exact ⟨_, mem_foldl_add hnodup hmem, rfl, rfl⟩

end LexicalIndex

/-! ### The vector index -/

namespace VectorIndex

variable {index : VectorIndex} {s t : Store}

/-- Covering a store is a matter of its vectors; fewer of them are covered too. -/
lemma Covers.mono (h : index.Covers s) (hvectors : ∀ v ∈ t.vectors, v ∈ s.vectors) :
    index.Covers t := fun v hv => h v (hvectors v hv)

/-- An index covers a store still when chunks are dropped that have no vector. -/
lemma Covers.remove (h : index.Covers s) {gone : List Id}
    (hgone : ∀ v ∈ s.vectors, v.chunk ∉ gone) : (index.remove gone).Covers s := by
  intro v hv
  obtain ⟨x, hx, he⟩ := h v hv
  exact ⟨x, hx, mem_remove.mpr ⟨he, hgone v hv⟩⟩

end VectorIndex

namespace Store

variable {s : Store} {tenant version : String} {batch : List (StoredChunk × Vec)}

/-- The vectors of a batch that count belong to different chunks. -/
lemma nodup_counted (s : Store) (tenant version : String) (batch : List (StoredChunk × Vec)) :
    ((counted tenant version s batch).map (·.1)).Nodup := by
  induction batch generalizing s with
  | nil => exact List.nodup_nil
  | cons pair rest ih =>
    unfold counted
    split
    · refine List.nodup_cons.mpr ⟨?_, ih _⟩
      intro hmem
      obtain ⟨entry, hentry, hsame⟩ := List.mem_map.mp hmem
      have hpending := isPending_of_mem_counted hentry
      rw [hsame] at hpending
      exact not_isPending_embedOne s tenant version pair hpending
    · exact ih _

end Store

/-- An index that covers a keyed store covers it behind the commitment of a batch, when it has taken
in the vectors that count; their components are numbers, and they have the dimension of the
index. -/
lemma VectorIndex.Covers.committed {m : Memory} {s : Store} (h : m.vectors.Covers s) (hs : s.Keyed)
    (tenant : String) (record : Id) (version : String) (now : Instant)
    {batch : List (StoredChunk × Vec)}
    (hdim : ∀ pair ∈ batch, pair.2.length = m.vectors.dimension)
    (hnumbers : ∀ pair ∈ batch, ∀ x ∈ pair.2, x.isNaN = false) :
    (m.takingIn (Store.counted tenant version s batch)).vectors.Covers
      (s.committed tenant record version now batch) := by
  set written := Store.counted tenant version s batch with hwritten
  have hfits : ∀ entry ∈ written, entry.2.length = m.vectors.dimension := by
    intro entry hentry
    obtain ⟨pair, hpair, rfl⟩ := Store.of_mem_counted hentry
    exact hdim pair hpair
  have htaken : (m.takingIn written).vectors = m.vectors.putAll written := by
    unfold Memory.takingIn
    rw [VectorIndex.upsertAll_of_fits hfits]
  intro v hv
  rw [htaken]
  rw [Store.vectors_committed] at hv
  rcases Store.of_mem_vectors_embedAll hv with hold | ⟨entry, hentry, hchunk, htext, -⟩
  · -- What was there already belongs to no chunk of which a vector counts.
    obtain ⟨x, hx, he⟩ := h v hold
    refine ⟨x, hx, VectorIndex.mem_putAll_of_not_mem he fun hmem => ?_⟩
    obtain ⟨entry, hentry, hchunk⟩ := List.mem_map.mp hmem
    have hpending := Store.isPending_of_mem_counted hentry
    exact hs.not_vector_of_isPending hpending v hold hchunk.symm
  · obtain ⟨pair, hpair, heq⟩ := Store.of_mem_counted hentry
    have hnumber : ∀ x ∈ entry.2, x.isNaN = false := by
      rw [heq]
      exact hnumbers pair hpair
    refine ⟨entry.2, ?_, ?_⟩
    · rw [Store.StoredVector.value_eq_ok_iff, htext, Vec.parse_text, Vec.map_written hnumber]
    · rw [hchunk]
      exact (VectorIndex.mem_putAll (Store.nodup_counted s tenant version batch)).mpr (.inl hentry)

/-- An index that covers a keyed store covers it when vectors of the store are taken over anew. -/
lemma VectorIndex.Covers.followed {m : Memory} {s : Store} (h : m.vectors.Covers s) (hs : s.Keyed)
    {rows : List ListedVector} (hrows : s.listedAfter m.watermark = .ok rows) :
    (m.follow rows).vectors.Covers s := by
  intro v hv
  obtain ⟨x, hx, he⟩ := h v hv
  refine ⟨x, hx, (Memory.Tracks.mem_entries_follow hs hrows).mpr ?_⟩
  by_cases hlisted : ∃ row ∈ rows, m.vectors.fits row ∧ row.2.1 = v.chunk
  · left
    obtain ⟨row, hrow, hfits, hchunk⟩ := hlisted
    obtain ⟨v', hv', -, hvalue, -, hchunk'⟩ := (hs.mem_listedAfter hrows).mp hrow
    obtain rfl := hs.vector_eq hv' hv (hchunk'.trans hchunk)
    rw [hx] at hvalue
    cases hvalue
    exact ⟨row, hrow, hfits, Prod.ext hchunk rfl⟩
  · right
    refine ⟨he, fun row hrow hfits hchunk => hlisted ⟨row, hrow, hfits, hchunk⟩⟩

/-! ### Both indexes -/

/-- Nothing of a store is missing in the indexes of a process. -/
structure Memory.Covers (m : Memory) (s : Store) : Prop where
  lexical : m.lexical.Covers s
  vectors : m.vectors.Covers s

namespace Memory.Covers

variable {m m' : Memory} {s t : Store}

/-- The indexes of a process cover every store without rows. -/
lemma empty (m : Memory) : m.Covers {} := ⟨fun _ hc => (nomatch hc), fun _ hv => (nomatch hv)⟩

/-- Covering is a matter of the indexes and the tables. -/
lemma of_same (h : m.Covers s) (hlexical : m'.lexical = m.lexical)
    (hvectors : m'.vectors = m.vectors) (hsame : Store.SameTables s t) : m'.Covers t where
  lexical := by
    rw [hlexical]
    exact h.lexical.of_places (by rw [hsame.chunks])
  vectors := by
    rw [hvectors]
    exact h.vectors.mono (by rw [hsame.vectors]; exact fun _ hv => hv)

end Memory.Covers

/-- The indexes of a process are projections of a store.  The lexical index has the live chunks,
each once with its record, its tenant and the terms of its text; the vector index has, by their
chunk, the values of the vectors that are stored for live chunks, and every stored vector has a
value. -/
structure Memory.Projects (m : Memory) (s : Store) : Prop where
  lexical : ∀ e, e ∈ m.lexical.entries ↔ ∃ ctx ∈ s.liveChunks,
    e = ⟨ctx.chunk.id, ctx.record.id, ctx.record.tenant, terms ctx.chunk.text⟩
  lexicalNames : (m.lexical.entries.map (·.chunk)).Nodup
  vectors : ∀ chunk x, m.vectors.find? chunk = some x ↔ ∃ ctx ∈ s.liveChunks,
    ctx.chunk.id = chunk ∧ ∃ v ∈ s.vectors, v.chunk = chunk ∧ Store.StoredVector.value v = .ok x
  vectorNames : (m.vectors.entries.map (·.1)).Nodup
  readable : ∀ v ∈ s.vectors, ∃ x, Store.StoredVector.value v = .ok x

/-! ### Processes at work -/

/-- A service whose provider gives vectors of numbers only. -/
def Service.Numeric (svc : Service σ) : Prop :=
  ∀ texts o vs, (svc.embed texts o).outcome = .ok vs → ∀ v ∈ vs, ∀ x ∈ v, x.isNaN = false

/-- Embedding by hashing gives vectors of numbers. -/
lemma Service.numeric_standalone (config : Config) : (standalone config).Numeric := by
  intro texts o vs h v hv x hx
  cases h
  obtain ⟨text, -, rfl⟩ := List.mem_map.mp hv
  unfold Embedding.hashed at hx
  obtain ⟨count, -, rfl⟩ := List.mem_map.mp hx
  exact Binary.isNaN_round false _ 1

variable {svc : Service σ} {w w' : World σ} {tenant : String}

/-- Behind a move for a tenant the lexical index leaves no chunk out. -/
lemma MoveOf.covers_lexical (h : MoveOf svc tenant w w') (hs : w.store.Keyed)
    (hw : w.memory.lexical.Covers w.store) : w'.memory.lexical.Covers w'.store := by
  cases h with
  | still h =>
    rw [h.lexical]
    exact hw.of_places (by rw [h.tables.chunks])
  | @staged d now staged s htenant hd h =>
    have ht := (h.keyed hs).chunks
    cases h with
    | created hnone hid hrows =>
      rw [Draft.created_eq_renewed hs.owner hid] at ht ⊢
      refine hw.renewed hs ht ?_
      intro chunk hmem
      cases hmem
    | replaced hheld hrows =>
      rw [Draft.replaced_eq_renewed] at ht ⊢
      exact hw.renewed hs ht fun _ hmem => hmem
  | @retired r hr htenant now =>
    have ht := (hs.retired r now).chunks
    rw [Store.retired_eq_renewed] at ht ⊢
    have hnone : LexicalIndex.Covers ([].foldl
        (fun index (row : StoredChunk) => index.add row.id r.id r.tenant row.text)
        (w.memory.lexical.remove (w.store.chunkIds r.id))) (w.store.renewed r.id _ []) :=
      hw.renewed hs ht fun _ hmem => hmem
    exact hnone
  | committed record now hlength hdim =>
    rw [Memory.lexical_takingIn]
    refine hw.of_places ?_
    rw [Store.chunks_committed]
    exact Store.map_place_embedAll _ _ _
  | failed record error => exact hw.of_places (Store.map_place_changeChunks fun _ => rfl)
  | followed h => exact hw

/-- Behind a move for a tenant the vector index leaves no vector out. -/
lemma MoveOf.covers_vectors (hnumeric : svc.Numeric) (h : MoveOf svc tenant w w')
    (hs : svc.Keeps w.store) (hw : w.memory.vectors.Covers w.store)
    (hdim : w.memory.vectors.dimension = svc.dimension) :
    w'.memory.vectors.Covers w'.store := by
  cases h with
  | still h =>
    rw [h.vectors]
    exact hw.mono (by rw [h.tables.vectors]; exact fun _ hv => hv)
  | staged htenant hd h =>
    have hkept := fun v => Store.mem_vectors_staging (v := v) h
    exact (hw.mono fun v hv => ((hkept v).mp hv).1).remove fun v hv => ((hkept v).mp hv).2
  | @retired r hr htenant now =>
    have hkept := fun v (hv : v ∈ w.store.vectorsBeside r.id) =>
      Store.mem_vectorsBeside_iff.mp hv
    have hfewer : w.memory.vectors.Covers (w.store.retired r now) :=
      hw.mono fun v hv => (hkept v hv).1
    exact hfewer.remove fun v hv => (hkept v hv).2
  | @committed record vs now hlength hvs hgiven =>
    obtain ⟨texts, o, hreply⟩ := hgiven
    refine hw.committed hs.keyed tenant record svc.version now ?_ ?_
    · intro pair hpair
      rw [hdim]
      exact hvs pair.2 (List.of_mem_zip hpair).2
    · intro pair hpair
      exact hnumeric texts o vs hreply pair.2 (List.of_mem_zip hpair).2
  | failed record error => exact hw
  | followed h => exact hw.followed hs.keyed h

/-- Behind a move the indexes leave nothing out. -/
lemma Move.covers (hnumeric : svc.Numeric) (h : Move svc w w') (hs : svc.Keeps w.store)
    (hfollows : w.memory.Follows svc.dimension w.store) (hw : w.memory.Covers w.store) :
    w'.memory.Covers w'.store := by
  cases h with
  | of tenant h =>
    exact ⟨h.covers_lexical hs.keyed hw.lexical,
      h.covers_vectors hnumeric hs hw.vectors hfollows.dimension⟩
  | requeued =>
    exact ⟨hw.lexical.of_places (Store.map_place_changeChunks fun _ => rfl), hw.vectors⟩
  | rebuilt hsources hrows =>
    have hcleared : Memory.Tracks { w.memory with
        vectors := w.memory.vectors.clear
        watermark := 0 } w.store := .of_unseen hs.keyed rfl rfl
    refine ⟨LexicalIndex.covers_lexicalOf hs.keyed hsources, fun v hv => ?_⟩
    obtain ⟨-, -, -, -, hdim⟩ := hs.owner_of_vector hv
    exact hcleared.seen_follow hs.keyed hrows hv (hdim.trans hfollows.dimension.symm)

/-! ### Indexes of a store -/

/-- A world whose indexes are those of its store: the store is as the service keeps it, and the
indexes follow it, show nothing else and leave nothing out. -/
structure World.Current (svc : Service σ) (w : World σ) : Prop where
  keeps : svc.Keeps w.store
  follows : w.memory.Follows svc.dimension w.store
  shows : w.memory.lexical.Shows w.store
  covers : w.memory.Covers w.store

namespace World.Current

/-- A process that has just started over an empty store has its indexes. -/
lemma start (svc : Service σ) (now : Instant) (outside : σ) :
    Current svc (.start svc now outside) where
  keeps := Store.sound_empty svc.cutting svc.dimension
  follows := .fresh Store.keyed_empty
  shows := LexicalIndex.shows_empty {}
  covers := .empty _

/-- Moves of a service keep its indexes those of the store. -/
lemma moves (h : Current svc w) (hnumeric : svc.Numeric) (hmoves : Moves svc w w') :
    Current svc w' := by
  induction hmoves with
  | refl => exact h
  | tail _ hmove ih =>
    exact ⟨(hmove.change ih.keeps).sound ih.keeps, hmove.follows ih.keeps ih.follows,
      hmove.shows ih.keeps ih.shows, hmove.covers hnumeric ih.keeps ih.follows ih.covers⟩

/-- The indexes are those of the store still when neither they nor the tables change. -/
lemma of_same (h : Current svc w) (hlexical : w'.memory.lexical = w.memory.lexical)
    (hvectors : w'.memory.vectors = w.memory.vectors)
    (hmark : w'.memory.watermark = w.memory.watermark)
    (hsame : Store.SameTables w.store w'.store) : Current svc w' where
  keeps := h.keeps.of_sameTables hsame
  follows := h.follows.of_same hlexical hvectors hmark hsame
  shows := by
    rw [hlexical]
    exact h.shows.mono fun hlive => hlive.of_sameTables hsame
  covers := h.covers.of_same hlexical hvectors hsame

/-- The lexical index has the live chunks of the store, each with its record, its tenant and the
terms of its text. -/
theorem mem_lexical (h : Current svc w) {e : LexicalEntry} :
    e ∈ w.memory.lexical.entries ↔ ∃ ctx ∈ w.store.liveChunks,
      e = ⟨ctx.chunk.id, ctx.record.id, ctx.record.tenant, terms ctx.chunk.text⟩ := by
  have hentry : ∀ e ∈ w.memory.lexical.entries, ∃ ctx ∈ w.store.liveChunks,
      e = ⟨ctx.chunk.id, ctx.record.id, ctx.record.tenant, terms ctx.chunk.text⟩ := by
    intro e he
    obtain ⟨⟨r, hr, hid, -, htenant⟩, c, hc, hchunk, hrecord⟩ := h.shows e he
    obtain ⟨e', he', hchunk', hterms⟩ := h.covers.lexical c hc
    obtain rfl := List.inj_on_of_nodup_map h.follows.lexical he' he (hchunk'.trans hchunk)
    refine ⟨⟨c, r⟩, h.keeps.keyed.mem_liveChunks hc hr (hid.trans hrecord.symm), ?_⟩
    rcases e' with ⟨chunk, record, tenant, ts⟩
    dsimp only at hid htenant hchunk hterms ⊢
    rw [hid, htenant, hchunk, hterms]
  refine ⟨hentry e, ?_⟩
  rintro ⟨ctx, hctx, rfl⟩
  obtain ⟨hc, -⟩ := Store.mem_liveChunks.mp hctx
  obtain ⟨e', he', hchunk, -⟩ := h.covers.lexical ctx.chunk hc
  obtain ⟨ctx', hctx', rfl⟩ := hentry e' he'
  obtain rfl := h.keeps.context_eq_of_id hctx' hctx hchunk
  exact he'

/-- The vector index has the stored vectors with their values. -/
theorem mem_vectors (h : Current svc w) {e : Id × Vec} :
    e ∈ w.memory.vectors.entries ↔
      ∃ v ∈ w.store.vectors, v.chunk = e.1 ∧ Store.StoredVector.value v = .ok e.2 :=
  h.follows.mem_of_covers h.covers.vectors

/-- The indexes are projections of the store. -/
theorem projects (h : Current svc w) : w.memory.Projects w.store where
  lexical := fun _ => h.mem_lexical
  lexicalNames := h.follows.lexical
  vectors := by
    intro chunk x
    constructor
    · intro hfound
      unfold VectorIndex.find? at hfound
      obtain ⟨e, he, rfl⟩ := Option.map_eq_some_iff.mp hfound
      have hchunk := List.find?_some he
      rw [beq_iff_eq] at hchunk
      obtain ⟨v, hv, hof, hvalue⟩ := h.mem_vectors.mp (List.mem_of_find?_eq_some he)
      obtain ⟨ctx, hctx, hid, -⟩ := h.keeps.owner_of_vector hv
      exact ⟨ctx, hctx, hid.trans (hof.trans hchunk), v, hv, hof.trans hchunk, hvalue⟩
    · rintro ⟨-, -, -, v, hv, hchunk, hvalue⟩
      have he : (chunk, x) ∈ w.memory.vectors.entries := h.mem_vectors.mpr ⟨v, hv, hchunk, hvalue⟩
      exact VectorIndex.find?_eq_some h.follows.named he
  vectorNames := h.follows.named
  readable := by
    intro v hv
    obtain ⟨x, hvalue, -⟩ := h.covers.vectors v hv
    exact ⟨x, hvalue⟩

end World.Current

end Dossier
