import Dossier.Proofs.Store.Sound

/-!
# Changes of a store

A `Store.Change` is all that one transaction of a service can do to the tables.  Every change keeps
a store sound, leaves deleted records as they are, and keeps what identifies a record.
-/

namespace Dossier

/-! ### Drafts -/

/-- A draft whose chunks and whose searchable text are those of its raw text, and whose kind of
source is one of those that there are. -/
structure Draft.CutBy (chunking : Text.Chunking) (d : Draft) : Prop where
  pieces : d.pieces = Text.chunks chunking d.content.raw.toList
  normalized : d.content.normalized = Text.normalizeString d.content.raw
  labelled : ∃ kind : SourceKind, d.content.sourceKind = kind.label

/-- The draft of a request keeps the tenant and the entity, and is cut as the configuration says. -/
lemma IngestRequest.draft_eq_ok {cfg : ChunkingConfig} {req : IngestRequest} {d : Draft}
    (h : req.draft cfg = .ok d) :
    d.tenant = req.tenant ∧ d.entity = req.entity ∧ d.CutBy (chunking cfg) := by
  unfold draft at h
  dsimp only at h
  split at h
  · cases h
  · cases h
  · cases h
    exact ⟨rfl, rfl, rfl, rfl, _, rfl⟩

namespace Draft

variable {d : Draft} {fresh : Nat → Id} {now : Instant} {chunking : Text.Chunking}
  {dimension : Nat} {s t : Store}

/-- A row of a draft belongs to the record that the rows are made for, and is pending. -/
lemma of_mem_rows {record : Id} {c : StoredChunk} (hc : c ∈ d.rows fresh record) :
    c.record = record ∧ c.status = .pending := by
  unfold rows at hc
  obtain ⟨i, hi, rfl⟩ := List.mem_mapIdx.mp hc
  exact ⟨rfl, rfl⟩

/-- The rows of a draft cover what its pieces cover. -/
lemma map_extent_rows (record : Id) :
    (d.rows fresh record).map (·.extent) = d.pieces.map (·.extent) := by
  unfold rows
  refine List.ext_getElem (by simp) ?_
  intro i hi hi'
  rw [List.getElem_map, List.getElem_map, List.getElem_mapIdx]
  rfl

/-- A record that a draft does not replace is not the live record of its entity. -/
lemma not_isLiveFor_of_target?_eq_none (h : d.target? s = none) {r : Record}
    (hr : r ∈ s.records) {link : EntityLink} (hlink : d.entity = some link) :
    ¬ r.isLiveFor d.tenant link := by
  unfold target? at h
  rw [hlink, Option.bind_some, List.find?_eq_none] at h
  exact h r hr

/-- The record that a draft replaces is the live record of its entity. -/
lemma of_target?_eq_some {held : Record} (h : d.target? s = some held) :
    held ∈ s.records ∧ ∃ link, d.entity = some link ∧ held.isLiveFor d.tenant link := by
  unfold target? at h
  obtain ⟨link, hlink, hfind⟩ := Option.bind_eq_some_iff.mp h
  have hfor := List.find?_some hfind
  exact ⟨List.mem_of_find?_eq_some hfind, link, hlink, hfor⟩

end Draft

namespace Record

variable {r : Record} {tenant : String} {link : EntityLink}

/-- The live record of a tenant for an entity is live, and names both. -/
lemma isLiveFor_iff :
    r.isLiveFor tenant link ↔ r.live ∧ r.tenant = tenant ∧ r.link? = some link := by
  unfold isLiveFor
  rw [Bool.and_eq_true, Bool.and_eq_true, beq_iff_eq, beq_iff_eq, and_assoc]

end Record

/-- A draft for the tenant of the live record of an entity that is about this entity replaces the
record. -/
lemma Draft.target?_of_linked {d : Draft} {s : Store} {r : Record} {tenant : String}
    {link : EntityLink} (hr : s.records.find? (·.isLiveFor tenant link) = some r)
    (htenant : d.tenant = r.tenant) (hentity : d.entity = some link) : d.target? s = some r := by
  have hfor := List.find?_some hr
  unfold target?
  rw [hentity, htenant, (Record.isLiveFor_iff.mp hfor).2.1]
  exact hr

namespace Draft

variable {d : Draft} {fresh : Nat → Id} {now : Instant} {chunking : Text.Chunking}
  {dimension : Nat} {s t : Store}

/-- The entity of the record that a draft makes is that of the draft. -/
lemma link?_newRecord (id : Id) : (d.newRecord id now).link? = d.entity := by
  unfold newRecord record Record.link?
  rcases d.entity with _ | ⟨kind, id⟩ <;> rfl

/-- The record of a draft whose identifier finds none has a name of its own. -/
lemma nodup_append_newRecord (hs : (s.records.map (·.id)).Nodup) (hid : s.record? (fresh 0) = none) :
    ((s.records ++ [d.newRecord (fresh 0) now]).map (·.id)).Nodup := by
  rw [List.map_append, List.nodup_append]
  refine ⟨hs, List.nodup_singleton _, ?_⟩
  intro id hmem id' hmem' heq
  obtain ⟨r, hr, rfl⟩ := List.mem_map.mp hmem
  rw [List.map_singleton, List.mem_singleton] at hmem'
  unfold Store.record? at hid
  rw [List.find?_eq_none] at hid
  refine hid r hr ?_
  rw [heq, hmem']
  exact beq_self_eq_true (fresh 0)

/-- Sound records with the record of a draft that replaces none of them are sound. -/
lemma recordsSound_append (hs : Store.RecordsSound s.records) (hd : d.CutBy chunking)
    (hnone : d.target? s = none) (hid : s.record? (fresh 0) = none) :
    Store.RecordsSound (s.records ++ [d.newRecord (fresh 0) now]) where
  nodup := nodup_append_newRecord hs.nodup hid
  linked := by
    have hfree : ∀ r ∈ s.records, ∀ tenant link, r.isLiveFor tenant link →
        ¬ (d.newRecord (fresh 0) now).isLiveFor tenant link := by
      intro r hr tenant link hfor hnew
      rw [Record.isLiveFor_iff, link?_newRecord] at hnew
      obtain ⟨-, rfl, hlink⟩ := hnew
      exact not_isLiveFor_of_target?_eq_none hnone hr hlink hfor
    intro r hr r' hr' tenant link hfor hfor'
    rw [List.mem_append, List.mem_singleton] at hr hr'
    rcases hr with hr | rfl <;> rcases hr' with hr' | rfl
    · exact hs.linked r hr r' hr' tenant link hfor hfor'
    · exact absurd hfor' (hfree r hr tenant link hfor)
    · exact absurd hfor (hfree r' hr' tenant link hfor')
    · rfl
  normalized := by
    intro r hr
    rw [List.mem_append, List.mem_singleton] at hr
    rcases hr with hr | rfl
    · exact hs.normalized r hr
    · exact hd.normalized

/-- A store with the record that a draft makes is a renewed one. -/
lemma created_eq_renewed (howner : ∀ c ∈ s.chunks, ∃ r ∈ s.records, r.id = c.record ∧ r.live)
    (hid : s.record? (fresh 0) = none) :
    d.created fresh now s = s.renewed (fresh 0) (s.records ++ [d.newRecord (fresh 0) now])
      (d.rows fresh (fresh 0)) := by
  have hnone : ∀ c ∈ s.chunks, c.record ≠ fresh 0 := by
    intro c hc heq
    obtain ⟨r, hr, hrid, -⟩ := howner c hc
    unfold Store.record? at hid
    rw [List.find?_eq_none] at hid
    exact hid r hr (beq_iff_eq.mpr (hrid.trans heq))
  have hchunks : s.chunks.filter (·.record != fresh 0) = s.chunks := by
    rw [List.filter_eq_self]
    intro c hc
    exact bne_iff_ne.mpr (hnone c hc)
  have hvectors : s.vectorsBeside (fresh 0) = s.vectors := by
    unfold Store.vectorsBeside Store.chunksOf
    have hof : s.chunks.filter (·.record == fresh 0) = [] := by
      rw [List.filter_eq_nil_iff]
      intro c hc
      rw [beq_iff_eq]
      exact hnone c hc
    rw [hof, List.filter_eq_self]
    intro v _
    rfl
  unfold created Store.renewed Store.withRecord Store.withChunks
  rw [hchunks, hvectors]

/-- The record that a draft makes may be added to a store. -/
lemma replaces_created (howner : ∀ c ∈ s.chunks, ∃ r ∈ s.records, r.id = c.record ∧ r.live)
    (hid : s.record? (fresh 0) = none)
    (hrows : Store.Insertable s.chunks (d.rows fresh (fresh 0))) :
    Store.Replaces s (fresh 0) (s.records ++ [d.newRecord (fresh 0) now])
      (d.rows fresh (fresh 0)) where
  beside := by
    intro r hr
    rw [List.mem_append, List.mem_singleton]
    constructor
    · rintro (hmem | rfl)
      · exact hmem
      · exact absurd rfl hr
    · exact .inl
  own := fun c hc => (of_mem_rows hc).1
  insertable := by
    have heq : (d.created fresh now s).chunks = _ :=
      congrArg Store.chunks (created_eq_renewed howner hid)
    unfold created Store.renewed Store.withRecord Store.withChunks at heq
    rw [← List.append_cancel_right heq]
    exact hrows
  owner := fun _ => ⟨d.newRecord (fresh 0) now, by simp, rfl, rfl⟩

/-- The record that a draft makes may be added to a sound store. -/
lemma renews_created (hs : Store.Sound chunking dimension s) (hd : d.CutBy chunking)
    (hnone : d.target? s = none) (hid : s.record? (fresh 0) = none)
    (hrows : Store.Insertable s.chunks (d.rows fresh (fresh 0))) :
    Store.Renews chunking s (fresh 0) (s.records ++ [d.newRecord (fresh 0) now])
      (d.rows fresh (fresh 0)) where
  toReplaces := replaces_created hs.chunks.owner hid hrows
  sound := recordsSound_append hs.records hd hnone hid
  pending := fun c hc => (of_mem_rows hc).2
  covers := by
    intro r hr hrid _
    rw [List.mem_append, List.mem_singleton] at hr
    rcases hr with hr | rfl
    · unfold Store.record? at hid
      rw [List.find?_eq_none] at hid
      exact absurd (beq_iff_eq.mpr hrid) (hid r hr)
    · rw [map_extent_rows, hd.pieces]
      rfl

/-- A record of a tenant rewritten with a content, if it is the one that is meant. -/
def rewriteOf (tenant : String) (id : Id) (content : RecordContent) (now : Instant) (r : Record) :
    Record :=
  if Store.isOf tenant id r then { r with content, updatedAt := now } else r

/-- A rewritten record differs from what it was in its content and in the time of the update. -/
lemma rewriteOf_eq (tenant : String) (id : Id) (content : RecordContent) (now : Instant)
    (r : Record) :
    rewriteOf tenant id content now r =
      { r with
        content := (rewriteOf tenant id content now r).content
        updatedAt := (rewriteOf tenant id content now r).updatedAt } := by
  unfold rewriteOf
  split <;> rfl

/-- A record with another identifier is not rewritten. -/
lemma rewriteOf_of_ne {tenant : String} {id : Id} {content : RecordContent} {r : Record}
    (h : r.id ≠ id) : rewriteOf tenant id content now r = r := by
  unfold rewriteOf Store.isOf
  rw [if_neg]
  simp [h]

/-- The record that is meant gets the content. -/
lemma content_rewriteOf {held : Record} {content : RecordContent} :
    (rewriteOf held.tenant held.id content now held).content = content := by
  unfold rewriteOf Store.isOf
  rw [if_pos]
  simp

/-- A store with the record that a draft rewrites is a renewed one. -/
lemma replaced_eq_renewed (d : Draft) (fresh : Nat → Id) (now : Instant) (held : Record)
    (s : Store) :
    d.replaced fresh now held s = s.renewed held.id
      (s.records.map (rewriteOf held.tenant held.id d.content.kept now)) (d.rows fresh held.id) :=
  rfl

/-- What a draft replaces may be replaced in a store. -/
lemma replaces_replaced {held : Record} (hheld : d.target? s = some held)
    (hrows : Store.Insertable (s.dropChunks held.id).chunks (d.rows fresh held.id)) :
    Store.Replaces s held.id (s.records.map (rewriteOf held.tenant held.id d.content.kept now))
      (d.rows fresh held.id) where
  beside := by
    intro r hid
    constructor
    · intro hr
      obtain ⟨r', hr', rfl⟩ := List.mem_map.mp hr
      rw [rewriteOf_eq] at hid
      rwa [rewriteOf_of_ne (r := r') hid]
    · intro hr
      exact List.mem_map.mpr ⟨r, hr, rewriteOf_of_ne hid⟩
  own := fun c hc => (of_mem_rows hc).1
  insertable := hrows
  owner := by
    obtain ⟨hmem, link, -, hfor⟩ := of_target?_eq_some hheld
    intro _
    refine ⟨_, List.mem_map_of_mem hmem, ?_⟩
    rw [rewriteOf_eq]
    exact ⟨rfl, (Record.isLiveFor_iff.mp hfor).1⟩

/-- What a draft replaces may be replaced in a sound store. -/
lemma renews_replaced (hs : Store.Sound chunking dimension s) (hd : d.CutBy chunking)
    {held : Record} (hheld : d.target? s = some held)
    (hrows : Store.Insertable (s.dropChunks held.id).chunks (d.rows fresh held.id)) :
    Store.Renews chunking s held.id
      (s.records.map (rewriteOf held.tenant held.id d.content.kept now))
      (d.rows fresh held.id) := by
  obtain ⟨hmem, -⟩ := of_target?_eq_some hheld
  have hown : ∀ r ∈ s.records, r.id = held.id → r = held :=
    fun r hr hid => hs.keyed.record_eq hr hmem hid
  refine ⟨replaces_replaced hheld hrows, ?_, fun c hc => (of_mem_rows hc).2, ?_⟩
  · refine hs.records.map ?_ ?_ ?_
    · intro r
      rw [rewriteOf_eq]
    · intro r tenant link hfor
      rw [rewriteOf_eq] at hfor
      exact hfor
    · intro r hr
      by_cases hid : r.id = held.id
      · rw [hown r hr hid, content_rewriteOf]
        exact hd.normalized
      · rw [rewriteOf_of_ne hid]
        exact hs.records.normalized r hr
  · intro r hr hid _
    obtain ⟨r', hr', rfl⟩ := List.mem_map.mp hr
    rw [rewriteOf_eq] at hid
    rw [hown r' hr' hid, content_rewriteOf, map_extent_rows, hd.pieces]
    rfl

/-- The transaction of a draft keeps a store keyed, whoever has cut the draft. -/
lemma Staging.keyed {staged : Staged} (h : d.Staging fresh now s staged t) (hs : s.Keyed) :
    t.Keyed := by
  cases h with
  | created hnone hid hrows =>
    rw [created_eq_renewed hs.owner hid]
    exact hs.renewed (replaces_created hs.owner hid hrows) (nodup_append_newRecord hs.records hid)
  | replaced hheld hrows =>
    rw [replaced_eq_renewed]
    refine hs.renewed (replaces_replaced hheld hrows) ?_
    rw [Store.map_id_map fun r => by rw [rewriteOf_eq]]
    exact hs.records

/-- The transaction of a draft keeps a store sound. -/
lemma Staging.sound {staged : Staged} (h : d.Staging fresh now s staged t)
    (hd : d.CutBy chunking) (hs : Store.Sound chunking dimension s) :
    Store.Sound chunking dimension t := by
  cases h with
  | created hnone hid hrows =>
    rw [created_eq_renewed hs.chunks.owner hid]
    exact hs.renewed (renews_created hs hd hnone hid hrows)
  | replaced hheld hrows =>
    rw [replaced_eq_renewed]
    exact hs.renewed (renews_replaced hs hd hheld hrows)

end Draft

namespace Store

variable {chunking : Text.Chunking} {dimension : Nat} {s t : Store}

/-! ### Retiring -/

/-- A live record of a tenant deleted, if it is the one that is meant. -/
def burialOf (tenant : String) (id : Id) (now : Instant) (r : Record) : Record :=
  if isOf tenant id r && r.live then { r with deletedAt := some now, updatedAt := now } else r

/-- A deleted record differs from what it was in the times of its deletion and its update. -/
lemma burialOf_eq (tenant : String) (id : Id) (now : Instant) (r : Record) :
    burialOf tenant id now r =
      { r with
        deletedAt := (burialOf tenant id now r).deletedAt
        updatedAt := (burialOf tenant id now r).updatedAt } := by
  unfold burialOf
  split <;> rfl

/-- A record with another identifier is not deleted. -/
lemma burialOf_of_ne {tenant : String} {id : Id} {now : Instant} {r : Record} (h : r.id ≠ id) :
    burialOf tenant id now r = r := by
  unfold burialOf isOf
  rw [if_neg]
  simp [h]

/-- A record that is deleted already stays as it is. -/
lemma burialOf_of_not_live {tenant : String} {id : Id} {now : Instant} {r : Record}
    (h : r.live = false) : burialOf tenant id now r = r := by
  unfold burialOf
  rw [h, Bool.and_false]
  rfl

/-- A record that is live behind the deletion of one was live before. -/
lemma live_of_live_burialOf {tenant : String} {id : Id} {now : Instant} {r : Record}
    (h : (burialOf tenant id now r).live) : r.live := by
  unfold burialOf at h
  split at h
  · cases h
  · exact h

/-- The record of a tenant that is meant is not live behind its deletion. -/
lemma not_live_burialOf {now : Instant} {r : Record} :
    ¬ (burialOf r.tenant r.id now r).live := by
  intro h
  have hlive := live_of_live_burialOf h
  unfold burialOf isOf at h
  rw [hlive, beq_self_eq_true, beq_self_eq_true] at h
  cases h

/-- The store behind a retirement is a renewed one. -/
lemma retired_eq_renewed (s : Store) (r : Record) (now : Instant) :
    s.retired r now = s.renewed r.id (s.records.map (burialOf r.tenant r.id now)) [] := by
  unfold retired buried changeRecords dropChunks renewed
  rw [List.append_nil]
  rfl

/-- The retirement of a record replaces it and leaves no chunks. -/
lemma replaces_retired (s : Store) (r : Record) (now : Instant) :
    Replaces s r.id (s.records.map (burialOf r.tenant r.id now)) [] where
  beside := by
    intro held hid
    constructor
    · intro hheld
      obtain ⟨held', hheld', rfl⟩ := List.mem_map.mp hheld
      rw [burialOf_eq] at hid
      rwa [burialOf_of_ne (r := held') hid]
    · intro hheld
      exact List.mem_map.mpr ⟨held, hheld, burialOf_of_ne hid⟩
  own := by simp
  insertable := by
    unfold Insertable addChunks
    rw [List.append_nil]
  owner := fun h => absurd rfl h

/-- The retirement of a record renews the store, in which nothing is left of the record but itself.
What is known of the record may be out of date except for its tenant. -/
lemma renews_retired (hs : Sound chunking dimension s) {r : Record}
    (hr : ∀ held ∈ s.records, held.id = r.id → held.tenant = r.tenant) (now : Instant) :
    Renews chunking s r.id (s.records.map (burialOf r.tenant r.id now)) [] := by
  refine ⟨replaces_retired s r now, ?_, by simp, ?_⟩
  · refine hs.records.map ?_ ?_ ?_
    · intro held
      rw [burialOf_eq]
    · intro held tenant link hfor
      rw [Record.isLiveFor_iff] at hfor ⊢
      obtain ⟨hlive, htenant, hlink⟩ := hfor
      refine ⟨live_of_live_burialOf hlive, ?_, ?_⟩
      · rw [burialOf_eq] at htenant
        exact htenant
      · rw [burialOf_eq] at hlink
        exact hlink
    · intro held hheld
      rw [burialOf_eq]
      exact hs.records.normalized held hheld
  · intro held hheld hid hlive
    obtain ⟨held', hheld', rfl⟩ := List.mem_map.mp hheld
    rw [burialOf_eq] at hid
    dsimp only at hid
    rw [← hr held' hheld' hid, ← hid] at hlive
    exact absurd hlive not_live_burialOf

/-- The retirement of a record keeps a store keyed, whatever is known of the record. -/
lemma Keyed.retired (hs : s.Keyed) (r : Record) (now : Instant) : (s.retired r now).Keyed := by
  rw [retired_eq_renewed]
  refine hs.renewed (replaces_retired s r now) ?_
  rw [map_id_map fun held => by rw [burialOf_eq]]
  exact hs.records

/-! ### Changes -/

/-- What one transaction of a service can do to a store, whatever the service knows of it: nothing
to the tables, the work on a draft, the retirement of a record, the commitment of a batch, or a
change of the states of embedding. -/
inductive Change (chunking : Text.Chunking) (dimension : Nat) : Store → Store → Prop
  | still {s t : Store} (h : SameTables s t) : Change chunking dimension s t
  | staged {s t : Store} {d : Draft} {fresh : Nat → Id} {now : Instant} {staged : Staged}
      (hd : d.CutBy chunking) (h : d.Staging fresh now s staged t) : Change chunking dimension s t
  | retired {s : Store} {r : Record}
      (hr : ∀ held ∈ s.records, held.id = r.id → held.tenant = r.tenant) (now : Instant) :
      Change chunking dimension s (s.retired r now)
  | committed {s : Store} {tenant : String} {record : Id} {batch : List (StoredChunk × Vec)}
      (hknows : s.Knows tenant record (batch.map (·.1)))
      (hdim : ∀ pair ∈ batch, pair.2.length = dimension) (version : String) (now : Instant) :
      Change chunking dimension s (s.committed tenant record version now batch)
  | failed {s : Store} (chunks : List Id) (error : String) :
      Change chunking dimension s (s.failed chunks error)
  | requeued {s : Store} : Change chunking dimension s s.requeued

/-- A change keeps a store sound. -/
theorem Change.sound (h : Change chunking dimension s t) (hs : Sound chunking dimension s) :
    Sound chunking dimension t := by
  cases h with
  | still h => exact hs.of_sameTables h
  | staged hd h => exact h.sound hd hs
  | retired hr now =>
    rw [retired_eq_renewed]
    exact hs.renewed (renews_retired hs hr now)
  | committed hknows hdim version now => exact hs.committed hknows hdim version now
  | failed chunks error => exact hs.changeChunks (besideEmbedded_failed chunks error)
  | requeued => exact hs.changeChunks (besideEmbedded_requeued s)

/-- The record of a batch of which a pair counts is live. -/
lemma Sound.live_of_counted (hs : Sound chunking dimension s) {tenant version : String}
    {record : Id} {batch : List (StoredChunk × Vec)}
    (hknows : s.Knows tenant record (batch.map (·.1)))
    (hcounted : counted tenant version s batch ≠ []) {r : Record} (hr : r ∈ s.records)
    (hid : r.id = record) : r.live := by
  obtain ⟨c, hc, hrecord⟩ := hknows.exists_chunk hcounted
  exact hs.keyed.live_of_chunk hc hr (hid.trans hrecord.symm)

/-- A deleted record stays in the store as it is, whatever changes. -/
theorem Change.keeps_deleted (h : Change chunking dimension s t) (hs : Sound chunking dimension s)
    {r : Record} (hr : r ∈ s.records) (hdead : r.live = false) : r ∈ t.records := by
  cases h with
  | still h =>
    rw [h.records]
    exact hr
  | staged hd h =>
    cases h with
    | created hnone hid hrows => exact List.mem_append_left _ hr
    | @replaced held hheld hrows =>
      obtain ⟨hmem, link, -, hfor⟩ := Draft.of_target?_eq_some hheld
      have hne : r.id ≠ held.id := by
        intro hid
        have hlive := (Record.isLiveFor_iff.mp hfor).1
        rw [← hs.keyed.record_eq hr hmem hid, hdead] at hlive
        exact Bool.false_ne_true hlive
      exact List.mem_map.mpr ⟨r, hr, Draft.rewriteOf_of_ne hne⟩
  | retired hheld now =>
    exact List.mem_map.mpr ⟨r, hr, burialOf_of_not_live hdead⟩
  | @committed tenant record batch hknows hdim version now =>
    unfold Store.committed
    split
    · rw [records_embedAll]
      exact hr
    · rename_i hempty
      have hcounted : counted tenant version s batch ≠ [] := fun h =>
        hempty (List.isEmpty_iff.mpr h)
      refine mem_records_noted.mpr ⟨r, by rwa [records_embedAll], ?_⟩
      unfold noteOn
      rw [if_neg]
      intro hid
      have hlive := hs.live_of_counted hknows hcounted hr (beq_iff_eq.mp hid)
      rw [hdead] at hlive
      exact Bool.false_ne_true hlive
  | failed chunks error => exact hr
  | requeued => exact hr

end Store

end Dossier
