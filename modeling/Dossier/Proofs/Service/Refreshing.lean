import Dossier.Proofs.Json.Reread
import Dossier.Proofs.Service.Atomicity
import Dossier.Proofs.Service.Origins
import Dossier.Proofs.Service.Projection
import Dossier.Proofs.Store.Restaging

/-!
# What a refresh does to a record

A refresh goes by the state of the entity, if there is one, and by the text that the record has
otherwise.  `World.Refreshed` says all that it does: the record gets the text, the rows of its
chunks are new and pending, and nothing is left of the old ones; every other record keeps its rows.
A refresh for which a text is found that can be ingested succeeds (`Service.exists_refresh_eq_ok`).
-/

namespace Dossier

variable {σ : Type} {svc : Service σ} {w w' : World σ} {e : RecordChanged} {r : Record}
  {text : String × String}

/-- A record with another title and another text.  Its metadata are those that were read back, and
all else of it stays. -/
def Record.refreshed (r : Record) (text : String × String) (now : Instant) : Record :=
  { r with
    content := { r.content with
      title := text.1
      raw := text.2
      normalized := Text.normalizeString text.2
      hash := Digest.Blake3.hex text.2
      metadata := r.content.metadata.reread }
    updatedAt := now }

/-- The second world is behind a refresh of a record with a text.  The record is refreshed in its
place, and no other record is touched; its chunks are those of the text, with new identifiers, and
they are pending and have no vectors; and neither the store nor the indexes keep anything of the
chunks that the record had. -/
structure World.Refreshed (svc : Service σ) (r : Record) (text : String × String)
    (w w' : World σ) : Prop where
  records : w'.store.records =
    w.store.records.map fun held => if held.id = r.id then r.refreshed text w.now else held
  beside : w'.store.chunks.filter (·.record != r.id) = w.store.chunks.filter (·.record != r.id)
  extents : (w'.store.chunksOf r.id).map (·.extent) =
    (Text.chunks svc.cutting text.2.toList).map (·.extent)
  pending : ∀ c ∈ w'.store.chunksOf r.id,
    c.status = .pending ∧ ∀ v ∈ w'.store.vectors, v.chunk ≠ c.id
  new : ∀ c ∈ w'.store.chunksOf r.id, ∀ held ∈ w.store.chunks, held.id ≠ c.id
  vectors : w'.store.vectors = w.store.vectorsBeside r.id
  indexes : ∀ c ∈ w.store.chunksOf r.id,
    (∀ entry ∈ w'.memory.lexical.entries, entry.chunk ≠ c.id) ∧
      ∀ entry ∈ w'.memory.vectors.entries, entry.1 ≠ c.id

namespace Service

/-! ### Texts -/

/-- The state of the entity that a change goes by: the one that it brings along, or else the one
that the source of entities has. -/
def stateFor (svc : Service σ) (e : RecordChanged) (o : σ) : Except ServiceError (Option Json) :=
  match e.snapshot with
  | some state => .ok (some state)
  | none => (svc.entity e.tenant e.link o).1

/-- The title and the text that a record gets when its entity has a state, or has none. -/
def textOf (svc : Service σ) (link : EntityLink) (r : Record) :
    Option Json → Except ServiceError (String × String)
  | none => .ok (r.content.title, r.content.raw)
  | some state =>
    match svc.registry.render link.kind state with
    | .ok out => .ok (out.title, out.body)
    | .error cause => .error (.invalidRequest (.unrenderable cause))

/-- The text of a refresh is that of the state of the entity. -/
lemma textFor_eq_textOf (svc : Service σ) (e : RecordChanged) (r : Record) (w : World σ) :
    (perform (svc.textFor e r) w).1 =
      (svc.stateFor e w.outside).bind (svc.textOf e.link r) := by
  have hrender : ∀ (state : Option Json) (u : World σ),
      (perform (match state with
        | none => pure (r.content.title, r.content.raw)
        | some state =>
          match svc.registry.render e.link.kind state with
          | .ok out => pure (out.title, out.body)
          | .error cause => throw (.invalidRequest (.unrenderable cause)) :
            Action σ (String × String)) u).1 = svc.textOf e.link r state := by
    intro state u
    rcases state with _ | state
    · rfl
    · unfold textOf
      dsimp only
      rcases svc.registry.render e.link.kind state with cause | out <;> rfl
  unfold textFor stateFor
  rcases e.snapshot with _ | state
  · dsimp only
    rw [perform_bind, perform_ask]
    rcases (svc.entity e.tenant e.link w.outside).1 with cause | state
    · rfl
    · exact hrender state _
  · dsimp only
    rw [perform_bind_of_ok (perform_pure _ w)]
    exact hrender (some state) w

/-- A record that was refreshed gets the same text of the same state again. -/
lemma textOf_refreshed {link : EntityLink} {state : Option Json} (now : Instant)
    (h : svc.textOf link r state = .ok text) :
    svc.textOf link (r.refreshed text now) state = .ok text := by
  rcases state with _ | state
  · rfl
  · exact h

/-! ### Requests -/

/-- A request is worked out when there is nothing wrong with it and no chunk is out of range. -/
lemma exists_draft_eq_ok_iff {cfg : ChunkingConfig} {req : IngestRequest} :
    (∃ d, req.draft cfg = .ok d) ↔ req.fault? = none ∧
      (Text.chunks (IngestRequest.chunking cfg) req.content.toList).findSome? Text.Chunk.excess? =
        none := by
  unfold IngestRequest.draft
  dsimp only
  rcases req.fault? with _ | fault
  · rcases (Text.chunks (IngestRequest.chunking cfg) req.content.toList).findSome?
      Text.Chunk.excess? with _ | part
    · simp
    · simp
  · simp

/-- There is nothing wrong with a request that names a tenant, that names its entity if it is about
one, and whose metadata are an object if there are any. -/
lemma fault?_eq_none_iff {req : IngestRequest} :
    req.fault? = none ↔ Text.isBlankText req.tenant = false ∧
      (req.entity.any fun link => Text.isBlankText link.kind || Text.isBlankText link.id) = false ∧
      ∀ value, req.metadata = some value → ∃ fields, value = .obj fields := by
  unfold IngestRequest.fault?
  cases htenant : Text.isBlankText req.tenant
  · cases hlink : req.entity.any fun link => Text.isBlankText link.kind || Text.isBlankText link.id
    · rw [if_neg Bool.false_ne_true, if_neg Bool.false_ne_true]
      rcases req.metadata with _ | value
      · simp
      · cases value <;> simp
    · simp
  · simp

/-- There is nothing wrong with the request that refreshes a record that was refreshed, if there was
nothing wrong with the first. -/
lemma fault?_refreshRequest_refreshed {link : EntityLink} (now : Instant)
    (h : (refreshRequest link r text).fault? = none) :
    (refreshRequest link (r.refreshed text now) text).fault? = none := by
  obtain ⟨htenant, hlink, hmetadata⟩ := fault?_eq_none_iff.mp h
  refine fault?_eq_none_iff.mpr ⟨htenant, hlink, ?_⟩
  rintro value hvalue
  obtain ⟨fields, hfields⟩ := hmetadata r.content.metadata rfl
  obtain ⟨again, hagain⟩ := Json.exists_reread_obj fields
  rw [← hfields] at hagain
  exact ⟨again, (Option.some.inj hvalue).symm.trans hagain⟩

/-- The request that refreshes a record again can be worked out, if the first one could. -/
lemma exists_draft_refreshed {cfg : ChunkingConfig} {link : EntityLink} {d : Draft} (now : Instant)
    (h : (refreshRequest link r text).draft cfg = .ok d) :
    ∃ d, (refreshRequest link (r.refreshed text now) text).draft cfg = .ok d := by
  obtain ⟨hfault, hrange⟩ := exists_draft_eq_ok_iff.mp ⟨d, h⟩
  exact exists_draft_eq_ok_iff.mpr ⟨fault?_refreshRequest_refreshed now hfault, hrange⟩

/-- The content of a draft is that of its request. -/
lemma content_of_draft {cfg : ChunkingConfig} {req : IngestRequest} {d : Draft}
    (h : req.draft cfg = .ok d) : d.content = req.recordContent := by
  unfold IngestRequest.draft at h
  dsimp only at h
  split at h
  · cases h
  · cases h
  · cases h
    rfl

/-- The kind that a label stands for is found by it. -/
lemma ofLabel?_label (kind : SourceKind) : SourceKind.ofLabel? kind.label = some kind := by
  cases kind <;> decide

/-- A record with the content that a refresh writes is refreshed, if it has the label of a kind. -/
lemma rewritten_eq_refreshed {cfg : ChunkingConfig} {link : EntityLink} {d : Draft} {now : Instant}
    {kind : SourceKind} (hkind : r.content.sourceKind = kind.label)
    (h : (refreshRequest link r text).draft cfg = .ok d) :
    { r with content := d.content.kept, updatedAt := now } = r.refreshed text now := by
  have hlabel : ((SourceKind.ofLabel? r.content.sourceKind).getD .entity).label =
      r.content.sourceKind := by
    rw [hkind, ofLabel?_label]
    rfl
  rw [content_of_draft h]
  unfold IngestRequest.recordContent refreshRequest RecordContent.kept Record.refreshed
  dsimp only
  rw [hlabel]
  rfl

end Service

/-! ### Refreshes -/

/-- What a refresh relies on: a sound store, whose chunks have identifiers that were drawn and whose
records have labels. -/
structure World.Settled (svc : Service σ) (w : World σ) : Prop where
  sound : svc.Keeps w.store
  drawn : ∀ c ∈ w.store.chunks, svc.Drawn w.drawn c.id
  labelled : w.store.Labelled

/-- A reachable world is settled. -/
lemma Reachable.settled (hq : svc.Quiet) (hw : Reachable svc w) : w.Settled svc :=
  ⟨hw.sound hq, hw.drawn hq, hw.labelled hq⟩

/-- A world with the tables of a settled one is settled, if no fewer identifiers were drawn. -/
lemma World.Settled.of_sameTables (hs : w.Settled svc) (h : Store.SameTables w.store w'.store)
    (hdrawn : w.drawn ≤ w'.drawn) : w'.Settled svc where
  sound := hs.sound.of_sameTables h
  drawn := by
    rw [h.chunks]
    exact fun c hc => (hs.drawn c hc).mono hdrawn
  labelled := by
    unfold Store.Labelled
    rw [h.records]
    exact hs.labelled

/-- The identifiers that are drawn next are new in a settled world. -/
lemma World.Settled.new (hs : w.Settled svc) (hfresh : Function.Injective svc.fresh) :
    ∀ c ∈ w.store.chunks, ∀ k, c.id ≠ svc.fresh (w.drawn + k) := by
  intro c hc k hid
  obtain ⟨n, hn, hdrawn⟩ := hs.drawn c hc
  have heq := hfresh (hdrawn.symm.trans hid)
  omega

namespace Service

variable {outcome : ChangeOutcome}

/-- The indexes behind a draft have nothing of a chunk that it replaces by others. -/
lemma not_indexed_behind (s : Store) {staged : Staged} {id : Id} (hgone : id ∈ staged.replaced)
    (hother : ∀ row ∈ staged.rows, row.id ≠ id) :
    (∀ entry ∈ (w.behind staged s).memory.lexical.entries, entry.chunk ≠ id) ∧
      ∀ entry ∈ (w.behind staged s).memory.vectors.entries, entry.1 ≠ id := by
  refine ⟨fun entry hentry hid => ?_, fun entry hentry hid => ?_⟩
  · rcases LexicalIndex.of_mem_foldl_add hentry with hkept | ⟨row, hrow, rfl⟩
    · exact (LexicalIndex.mem_remove.mp hkept).2 (hid ▸ hgone)
    · exact hother row hrow hid
  · exact (VectorIndex.mem_remove.mp hentry).2 (hid ▸ hgone)

/-- The world behind a draft of the request that refreshes a record is behind a refresh. -/
lemma refreshed_behind (hfresh : Function.Injective svc.fresh) (hs : w.Settled svc)
    {link : EntityLink} {d : Draft}
    (hd : (refreshRequest link r text).draft svc.config.chunking = .ok d)
    (htarget : d.target? w.store = some r) {s : Store} {staged : Staged}
    (hstaging : d.Staging (fun n => svc.fresh (w.drawn + n)) w.now w.store staged s) (o : σ) :
    staged.record = r.id ∧ staged.rows.length = (Text.chunks svc.cutting text.2.toList).length ∧
      w.Refreshed svc r text { w.behind staged s with outside := o } := by
  have hcut := (IngestRequest.draft_eq_ok hd).2.2
  have hkeyed := (hstaging.sound hcut hs.sound).keyed
  have hrows := hstaging.chunksOf hs.sound
  cases hstaging with
  | created hnone =>
    rw [htarget] at hnone
    cases hnone
  | @replaced held hheld =>
    obtain rfl : held = r := Option.some.inj (hheld.symm.trans htarget)
    obtain ⟨hmem, -⟩ := Draft.of_target?_eq_some htarget
    obtain ⟨kind, hkind⟩ := hs.labelled held hmem
    set rows := d.rows (fun n => svc.fresh (w.drawn + n)) held.id with hdrafted
    set t := d.replaced (fun n => svc.fresh (w.drawn + n)) w.now held w.store with hreplaced
    have hof : t.chunksOf held.id = rows := hrows
    have hchunks : t.chunks = w.store.chunks.filter (·.record != held.id) ++ rows := rfl
    have hnew : ∀ c ∈ rows, ∀ old ∈ w.store.chunks, old.id ≠ c.id := by
      intro c hc old hold hid
      obtain ⟨k, -, hk⟩ := Store.exists_of_mem_rows hc
      exact hs.new hfresh old hold k (hid.trans hk)
    have hextents : rows.map (·.extent) =
        (Text.chunks svc.cutting text.2.toList).map (·.extent) := by
      rw [hdrafted, Draft.map_extent_rows, hcut.pieces, content_of_draft hd]
      rfl
    refine ⟨rfl, ?_, ?records, ?beside, ?extents, ?pending, ?new, rfl, ?indexes⟩
    · have hlength := congrArg List.length hextents
      rwa [List.length_map, List.length_map] at hlength
    case records =>
      rw [← rewritten_eq_refreshed hkind hd]
      exact Draft.map_rewriteOf hs.sound.keyed hmem _ _
    case beside =>
      have hnone : rows.filter (·.record != held.id) = [] := by
        refine List.filter_eq_nil_iff.mpr fun c hc hother => ?_
        exact bne_iff_ne.mp hother (Draft.of_mem_rows hc).1
      change t.chunks.filter (·.record != held.id) = _
      rw [hchunks, List.filter_append, List.filter_filter, hnone, List.append_nil]
      simp only [Bool.and_self]
    case extents =>
      rw [← hextents, ← hof]
      rfl
    case pending =>
      intro c hc
      have hrow : c ∈ rows := hof ▸ hc
      have hstatus := (Draft.of_mem_rows hrow).2
      have hthere : c ∈ t.chunks := hchunks ▸ List.mem_append_right _ hrow
      refine ⟨hstatus, hkeyed.not_vector_of_not_embedded hthere ?_⟩
      rw [hstatus]
      decide
    case new =>
      intro c hc
      exact hnew c (hof ▸ hc)
    case indexes =>
      intro c hc
      obtain ⟨hold, hrecord⟩ := List.mem_filter.mp hc
      have hgone : c.id ∈ w.store.chunkIds held.id :=
        Store.mem_chunkIds.mpr ⟨c, hold, beq_iff_eq.mp hrecord, rfl⟩
      exact not_indexed_behind t hgone fun row hrow hid => hnew row hrow c hold hid.symm

/-- A refresh of the live record of an entity that succeeds has found a text that can be ingested,
and the record is refreshed with it. -/
lemma refreshed_of_refresh (hfresh : Function.Injective svc.fresh) (hs : w.Settled svc)
    (hr : w.store.records.find? (·.isLiveFor e.tenant e.link) = some r)
    (h : perform (svc.refresh e r) w = (.ok outcome, w')) :
    ∃ text, (svc.stateFor e w.outside).bind (svc.textOf e.link r) = .ok text ∧
      (∃ d, (refreshRequest e.link r text).draft svc.config.chunking = .ok d) ∧
      outcome = .refreshed r.id (Text.chunks svc.cutting text.2.toList).length ∧
      w.Refreshed svc r text w' := by
  obtain ⟨o, -, ⟨cause, hfails⟩ | ⟨text, d, staged, s, htext, hd, hstaging, hrefresh⟩⟩ :=
    svc.perform_refresh_drafted e r w
  · rw [hfails] at h
    cases h
  · rw [hrefresh] at h
    cases h
    obtain ⟨hdt, hde, -⟩ := IngestRequest.draft_eq_ok hd
    have htarget : d.target? w.store = some r := Draft.target?_of_linked hr hdt hde
    have hkept := hstaging.of_dropVectors (.inr ⟨r, htarget, rfl⟩)
    obtain ⟨hrecord, hlength, hrefreshed⟩ := refreshed_behind hfresh hs hd htarget hkept o
    refine ⟨text, ?_, ⟨d, hd⟩, ?_, hrefreshed⟩
    · rw [← textFor_eq_textOf, htext]
    · rw [hrecord, hlength]

/-- A draft is staged when the work on it succeeds and the end of the transaction is not refused. -/
lemma perform_staging_of_ok (svc : Service σ) {d : Draft} {before : StoreAction Unit}
    {staged : Staged} {s : Store}
    (h : perform (before >>= fun _ => d.stage (fun n => svc.fresh (w.drawn + n)) w.now) w.store =
      (.ok staged, s)) (hend : .commit ∉ s.refused) :
    perform (svc.staging d before) w =
      (.ok staged, { w with store := s, drawn := w.drawn + staged.rows.length + 1 }) := by
  unfold staging
  rw [perform_bind_of_ok (perform_get w),
    perform_bind_of_ok (perform_store_of_ok (Store.perform_transaction_eq_ok.mpr ⟨h, hend⟩))]
  rfl

/-- A refresh of the live record of an entity succeeds if a text is found for it that can be
ingested and no statement is refused. -/
lemma exists_refresh_eq_ok (hfresh : Function.Injective svc.fresh) (hs : w.Settled svc)
    (hr : w.store.records.find? (·.isLiveFor e.tenant e.link) = some r)
    (hopen : w.store.refused = [])
    (htext : (svc.stateFor e w.outside).bind (svc.textOf e.link r) = .ok text)
    (hdraft : ∃ d, (refreshRequest e.link r text).draft svc.config.chunking = .ok d) :
    ∃ outcome w', perform (svc.refresh e r) w = (.ok outcome, w') := by
  obtain ⟨d, hd⟩ := hdraft
  obtain ⟨hdt, hde, hcut⟩ := IngestRequest.draft_eq_ok hd
  obtain ⟨found, o, hfound, -⟩ := svc.perform_textFor e r w
  obtain rfl : found = .ok text := by
    rw [← htext, ← textFor_eq_textOf, hfound]
  have hnone : ∀ st, st ∉ w.store.refused := by
    rw [hopen]
    exact fun _ => List.not_mem_nil
  set fresh := fun n => svc.fresh (w.drawn + n) with hdrawn
  obtain ⟨n, hdrop⟩ : ∃ n, perform (Store.deleteVectors r.id) w.store =
      (.ok n, w.store.dropVectors r.id) := ⟨_, Store.perform_writing_eq_ok.mpr ⟨hnone _, rfl⟩⟩
  have hinsertable : Store.Insertable ((w.store.dropVectors r.id).dropChunks r.id).chunks
      (d.rows fresh r.id) := by
    refine Draft.insertable_rows hcut (fun m n hmn => ?_) r.id (hs.new hfresh)
    exact Nat.add_left_cancel (hfresh hmn)
  have hstage := Draft.perform_stage_replaced (s := w.store.dropVectors r.id) w.now hopen
    (Draft.target?_of_linked hr hdt hde) hinsertable
  obtain ⟨staged, hwork⟩ : ∃ staged, perform ((do let _ ← Store.deleteVectors r.id) >>= fun _ =>
      d.stage fresh w.now) w.store =
        (.ok staged, d.replaced fresh w.now r (w.store.dropVectors r.id)) :=
    ⟨_, (perform_bind_of_ok (perform_bind_of_ok hdrop _) _).trans hstage⟩
  have hstaging := svc.perform_staging_of_ok (w := { w with outside := o }) hwork (hnone _)
  unfold refresh
  rw [perform_bind_of_ok hfound]
  dsimp only
  rw [hd]
  dsimp only
  rw [perform_bind_of_ok hstaging]
  exact ⟨_, _, rfl⟩

end Service

end Dossier
