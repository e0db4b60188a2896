import Dossier.Proofs.Service.Projecting
import Dossier.Proofs.Store.Change
import Dossier.Service.Pack

/-!
# What an operation does to the world

Every operation of a service is a sequence of moves: a transaction together with what the process
then does to its indexes, or a step that leaves the tables and the indexes as they are.  The
embedding provider is taken to be quiet, which is to say that nobody else writes to the store while
it is called.
-/

namespace Dossier

variable {σ α : Type}

/-! ### Steps that leave tables and indexes alone -/

/-- Two worlds with the same tables and the same indexes, in the second of which no fewer
identifiers were drawn. -/
structure World.Still (w w' : World σ) : Prop where
  tables : Store.SameTables w.store w'.store
  lexical : w'.memory.lexical = w.memory.lexical
  vectors : w'.memory.vectors = w.memory.vectors
  watermark : w'.memory.watermark = w.memory.watermark
  drawn : w.drawn ≤ w'.drawn

namespace World.Still

/-- A world has the same tables and indexes as itself. -/
lemma refl (w : World σ) : Still w w := ⟨.refl _, rfl, rfl, rfl, Nat.le_refl _⟩

/-- Having the same tables and indexes is transitive. -/
lemma trans {u v w : World σ} (h : Still u v) (h' : Still v w) : Still u w :=
  ⟨h.tables.trans h'.tables, h'.lexical.trans h.lexical, h'.vectors.trans h.vectors,
    h'.watermark.trans h.watermark, Nat.le_trans h.drawn h'.drawn⟩

/-- A world whose store has the same tables. -/
lemma of_store {w : World σ} {s : Store} (h : Store.SameTables w.store s) :
    Still w { w with store := s } :=
  ⟨h, rfl, rfl, rfl, Nat.le_refl _⟩

instance : Std.Refl (@Still σ) := ⟨refl⟩

instance : IsTrans (World σ) Still := ⟨fun _ _ _ => trans⟩

end World.Still

/-- Nobody else changes the tables while the embedding provider is called. -/
def Service.Quiet (svc : Service σ) : Prop :=
  ∀ texts o s, Store.SameTables s ((svc.embed texts o).meanwhile s)

/-! ### Statements that keep the tables -/

namespace Store

/-- A statement that keeps the tables when it succeeds. -/
lemma within_statement {st : Statement} {run : Store → Except StoreError (α × Store)}
    (h : ∀ s a t, run s = .ok (a, t) → SameTables s t) : Within SameTables (statement st run) := by
  intro s
  rcases hp : perform (statement st run) s with ⟨e | a, t⟩
  · rw [stateAfter_eq hp, perform_statement_error hp]
    exact .refl s
  · rw [stateAfter_eq hp]
    exact h s a t (perform_statement_eq_ok.mp hp).2

/-- A statement that reads keeps the tables. -/
lemma within_reading (st : Statement) (read : Store → α) : Within SameTables (reading st read) := by
  intro s
  rw [stateAfter_reading]
  exact .refl s

/-- Adding evidence keeps the tables of records, chunks and vectors. -/
lemma within_insertEvidence (rows : List EvidenceEntry) :
    Within SameTables (insertEvidence rows) := by
  unfold insertEvidence
  split
  · exact Within.pure _
  · refine within_statement fun s a t h => ?_
    rcases hadd : addEvidence s.evidence rows with e | evidence
    · simp [hadd, bind, Except.bind] at h
    · simp only [hadd, bind, Except.bind, Pure.pure, Except.pure] at h
      cases h
      exact ⟨rfl, rfl, rfl, rfl⟩

/-- Adding an audit event keeps the tables of records, chunks and vectors. -/
lemma within_insertAudit (event : AuditEvent) : Within SameTables (insertAudit event) := by
  unfold insertAudit
  refine within_statement fun s a t h => ?_
  split at h
  · cases h
  · cases h
    exact ⟨rfl, rfl, rfl, rfl⟩

/-- Loading vectors keeps the tables. -/
lemma within_loadVectors (tenant : String) (ids : List Id) :
    Within SameTables (loadVectors tenant ids) := by
  unfold loadVectors
  refine within_statement fun s a t h => ?_
  rcases hfound : ((batches batchLimit ids).flatMap (vectorBatch s tenant)).mapM
    (fun v => (StoredVector.value v).map fun value => (v.chunk, value)) with e | found
  · simp [hfound, bind, Except.bind] at h
  · simp only [hfound, bind, Except.bind, Pure.pure, Except.pure] at h
    cases h
    exact .refl s

end Store

/-! ### Operations that keep tables and indexes -/

/-- Work on the store that keeps the tables. -/
lemma still_store {work : StoreAction α} (h : Within Store.SameTables work) :
    Within World.Still (Action.store work : Action σ α) := by
  intro w
  exact .of_store (h w.store)

/-- Asking someone outside keeps tables and indexes. -/
lemma still_ask (question : σ → Except ServiceError α × σ) :
    Within World.Still (Action.ask question) := by
  intro w
  exact ⟨.refl _, rfl, rfl, rfl, Nat.le_refl _⟩

/-- Drawing an identifier keeps tables and indexes. -/
lemma still_draw (fresh : Nat → Id) : Within World.Still (Action.draw fresh : Action σ Id) := by
  intro w
  exact ⟨.refl _, rfl, rfl, rfl, Nat.le_succ _⟩

/-- Publishing an event keeps tables and indexes. -/
lemma still_publish (topic : Topic) (payload : Json) :
    Within World.Still (Service.publish topic payload : Action σ Unit) := by
  intro w
  exact ⟨.refl _, rfl, rfl, rfl, Nat.le_refl _⟩

/-- The state behind an operation whose outcome is looked at. -/
lemma within_outcome {R : World σ → World σ → Prop} {act : Action σ α} (h : Within R act) :
    Within R act.outcome := by
  intro w
  exact h w

namespace Service

variable (svc : Service σ)

/-- Putting an audit event on record keeps tables and indexes. -/
lemma still_record (event : AuditEvent) : Within World.Still (svc.record event) := by
  unfold record
  refine Within.bind (still_ask _) fun _ => ?_
  exact still_store (Store.within_insertAudit event)

variable {svc} in
/-- A call to a quiet provider keeps tables and indexes. -/
lemma Quiet.still_call (hq : svc.Quiet) (texts : List String) :
    Within World.Still (svc.call texts) := by
  intro w
  exact ⟨hq texts w.outside w.store, rfl, rfl, rfl, Nat.le_refl _⟩

variable {svc} in
/-- A call to a quiet provider that may be given up keeps tables and indexes. -/
lemma Quiet.still_callUnlessCancelled (hq : svc.Quiet) (texts : List String) :
    Within World.Still (svc.callUnlessCancelled texts) := by
  intro w
  unfold callUnlessCancelled
  rw [stateAfter_bind, perform_get]
  dsimp only
  split
  · exact ⟨.refl _, rfl, rfl, rfl, Nat.le_refl _⟩
  · exact hq.still_call texts w

variable {svc} in
/-- Trying to embed texts with a quiet provider keeps tables and indexes. -/
lemma Quiet.still_tryEmbed (hq : svc.Quiet) (texts : List String) (more : Nat) :
    Within World.Still (svc.tryEmbed texts more) := by
  induction more with
  | zero =>
    unfold tryEmbed
    refine Within.bind (hq.still_callUnlessCancelled texts) fun reply => ?_
    split
    · exact Within.pure _
    · exact Within.throw _
  | succ more ih =>
    unfold tryEmbed
    refine Within.bind (hq.still_callUnlessCancelled texts) fun reply => ?_
    split
    · exact Within.pure _
    · refine Within.bind Within.get fun w => ?_
      split
      · exact Within.throw _
      · exact ih

/-- Looking ranked chunks up in the store keeps the tables. -/
lemma within_resolvePages (tenant : String) (enough : Nat) (found : List ChunkHit)
    (pages : List (List VectorIndex.Hit)) :
    Within Store.SameTables (resolvePages tenant enough found pages) := by
  induction pages generalizing found with
  | nil => exact Within.pure _
  | cons page rest ih =>
    unfold resolvePages
    refine Within.bind (Store.within_reading _ _) fun contexts => ?_
    dsimp only
    split
    · exact Within.pure _
    · exact ih _

/-- Publishing the changes that refresh a tenant keeps tables and indexes. -/
lemma still_queuePages (req : ReindexRequest) (size pages : Nat) (after : Option Id)
    (queued : Nat) :
    Within World.Still (queuePages req size pages after queued : Action σ Nat) := by
  induction pages generalizing after queued with
  | zero => exact Within.pure _
  | succ pages ih =>
    have hpublish : ∀ page : List Record,
        Within World.Still (page.forM (publishRefresh req.actor) : Action σ Unit) := by
      intro page
      induction page with
      | nil => exact Within.pure _
      | cons r rest ih =>
        change Within World.Still (publishRefresh req.actor r >>= fun _ =>
          rest.forM (publishRefresh req.actor))
        refine Within.bind ?_ fun _ => ih
        unfold publishRefresh
        split
        · exact still_publish _ _
        · exact Within.pure _
    unfold queuePages
    refine Within.bind (still_store (Store.within_reading _ _)) fun page => ?_
    refine Within.bind (hpublish page) fun _ => ?_
    dsimp only
    split
    · split
      · exact ih _ _
      · exact Within.pure _
    · exact Within.pure _

/-- Publishing a change for every linked record of a tenant keeps tables and indexes. -/
lemma still_queueReindex (req : ReindexRequest) : Within World.Still (svc.queueReindex req) := by
  unfold queueReindex
  split
  · exact Within.throw _
  · refine Within.bind Within.get fun w => ?_
    exact still_queuePages _ _ _ _ _

end Service

/-! ### Moves -/

/-- The memory of a process without some chunks. -/
def Memory.without (m : Memory) (chunks : List Id) : Memory :=
  { m with lexical := m.lexical.remove chunks, vectors := m.vectors.remove chunks }

/-- The memory of a process with vectors that it has written itself, if they fit. -/
def Memory.takingIn (m : Memory) (written : List (Id × Vec)) : Memory :=
  match m.vectors.upsertAll written with
  | .ok vectors => { m with vectors }
  | .error _ => m

/-- The pending chunks of a live record of a tenant, in order. -/
def Store.pendingOf (s : Store) (tenant : String) (record : Id) : List StoredChunk :=
  Store.inOrder ((s.liveChunks.filter fun ctx =>
    ctx.record.id == record && ctx.record.tenant == tenant && ctx.chunk.status == .pending).map
      (·.chunk))

/-- One thing that an operation for a tenant does to the world: a transaction with what the process
then does to its indexes, a look at the store that changes the indexes, or neither. -/
inductive MoveOf (svc : Service σ) (tenant : String) : World σ → World σ → Prop
  | still {w w' : World σ} (h : w.Still w') : MoveOf svc tenant w w'
  | staged {w : World σ} {d : Draft} {now : Instant} {staged : Staged} {s : Store}
      (htenant : d.tenant = tenant) (hd : d.CutBy (IngestRequest.chunking svc.config.chunking))
      (h : d.Staging (fun n => svc.fresh (w.drawn + n)) now w.store staged s) :
      MoveOf svc tenant w { w with
        store := s
        memory := staged.applyTo w.memory
        drawn := w.drawn + staged.rows.length + 1 }
  | retired {w : World σ} {r : Record} (hr : r ∈ w.store.records) (htenant : r.tenant = tenant)
      (now : Instant) :
      MoveOf svc tenant w { w with
        store := w.store.retired r now
        memory := w.memory.without (w.store.chunkIds r.id) }
  | committed {w : World σ} (record : Id) {vs : List Vec} (now : Instant)
      (hlength : vs.length = (w.store.pendingOf tenant record).length)
      (hdim : ∀ v ∈ vs, v.length = svc.config.embedding.dimensions)
      (hgiven : ∃ texts o, (svc.embed texts o).outcome = .ok vs) :
      MoveOf svc tenant w { w with
        store := w.store.committed tenant record svc.version now
          ((w.store.pendingOf tenant record).zip vs)
        memory := w.memory.takingIn (Store.counted tenant svc.version w.store
          ((w.store.pendingOf tenant record).zip vs)) }
  | failed {w : World σ} (record : Id) (error : String) :
      MoveOf svc tenant w { w with
        store := w.store.failed ((w.store.pendingOf tenant record).map (·.id)) error }
  | followed {w : World σ} {rows : List ListedVector}
      (h : w.store.listedAfter w.memory.watermark = .ok rows) :
      MoveOf svc tenant w { w with memory := w.memory.follow rows }

/-- One thing that an operation of a service does to the world: something for a tenant, or something
that concerns all of them. -/
inductive Move (svc : Service σ) : World σ → World σ → Prop
  | of {w w' : World σ} (tenant : String) (h : MoveOf svc tenant w w') : Move svc w w'
  | requeued {w : World σ} : Move svc w { w with store := w.store.requeued }
  | rebuilt {w : World σ} {sources : List ChunkContext} {rows : List ListedVector}
      (hsources : sources.Perm w.store.liveChunks) (hrows : w.store.listedAfter 0 = .ok rows) :
      Move svc w { w with memory := w.memory.rebuilt sources rows }

/-- What an operation for a tenant may do to the world: one move for the tenant after the other. -/
abbrev MovesOf (svc : Service σ) (tenant : String) : World σ → World σ → Prop :=
  Relation.ReflTransGen (MoveOf svc tenant)

/-- What an operation of a service may do to the world: one move after the other. -/
abbrev Moves (svc : Service σ) : World σ → World σ → Prop := Relation.ReflTransGen (Move svc)

instance (svc : Service σ) (tenant : String) : Std.Refl (MovesOf svc tenant) := ⟨fun _ => .refl⟩

instance (svc : Service σ) : Std.Refl (Moves svc) := ⟨fun _ => .refl⟩

variable {svc : Service σ} {tenant : String}

/-- Moves for a tenant are moves. -/
lemma MovesOf.moves {w w' : World σ} (h : MovesOf svc tenant w w') : Moves svc w w' :=
  Relation.ReflTransGen.mono (fun _ _ => Move.of tenant) _ _ h

/-- An operation that makes moves for a tenant only makes moves only. -/
lemma moves_of_tenant {act : Action σ α} (h : Within (MovesOf svc tenant) act) :
    Within (Moves svc) act :=
  h.mono fun _ _ => MovesOf.moves

/-- An operation that keeps tables and indexes makes moves for any tenant only. -/
lemma movesOf_of_still {act : Action σ α} (h : Within World.Still act) :
    Within (MovesOf svc tenant) act :=
  h.mono fun _ _ hstill => .single (.still hstill)

/-! ### Ingests and changes -/

/-- A record whose chunks have no vectors to be dropped: it has no chunks at all, or it is the one
that a draft replaces, whose chunks are dropped with their vectors anyway. -/
def Draft.Spares (d : Draft) (s : Store) (id : Id) : Prop :=
  s.chunksOf id = [] ∨ ∃ held, d.target? s = some held ∧ held.id = id

/-- Dropping the vectors of a record without chunks changes nothing. -/
lemma Store.dropVectors_of_chunksOf_nil {s : Store} {id : Id} (h : s.chunksOf id = []) :
    s.dropVectors id = s := by
  have hvectors : s.vectorsBeside id = s.vectors := by
    unfold vectorsBeside
    rw [h, List.filter_eq_self]
    intro v _
    rfl
  unfold dropVectors
  rw [hvectors]

/-- The transaction of a draft does the same without the vectors of a record that it spares. -/
lemma Draft.Staging.of_dropVectors {d : Draft} {fresh : Nat → Id} {now : Instant} {s t : Store}
    {staged : Staged} {id : Id} (h : d.Staging fresh now (s.dropVectors id) staged t)
    (hid : d.Spares s id) : d.Staging fresh now s staged t := by
  rcases hid with hnone | ⟨held, hheld, rfl⟩
  · rwa [Store.dropVectors_of_chunksOf_nil hnone] at h
  · cases h with
    | created hnone _ _ =>
      have heq : d.target? s = none := hnone
      rw [hheld] at heq
      cases heq
    | @replaced held' hheld' hrows =>
      have heq : d.target? s = some held' := hheld'
      rw [hheld] at heq
      cases heq
      have hsame : d.replaced fresh now held (s.dropVectors held.id) =
          d.replaced fresh now held s := by
        unfold Draft.replaced
        rw [Store.dropVectors_dropChunks]
      rw [hsame]
      exact .replaced hheld hrows

/-- The world of a process that has staged a draft and told of it. -/
def World.behind (w : World σ) (staged : Staged) (s : Store) : World σ :=
  { w with
    store := s
    memory := { staged.applyTo w.memory with
      bus := (w.memory.bus.publish .ingested staged.event.toJson).1 }
    drawn := w.drawn + staged.rows.length + 1 }

/-- What an operation on a draft of a tenant comes to: tables and indexes as they were, or the draft
staged and the process brought up to date with it. -/
inductive Drafted (svc : Service σ) (tenant : String) (w : World σ) : World σ → Prop
  | still {w' : World σ} (h : w.Still w') : Drafted svc tenant w w'
  | staged {d : Draft} {now : Instant} {staged : Staged} {s : Store} {w' : World σ}
      (htenant : d.tenant = tenant)
      (hd : d.CutBy (IngestRequest.chunking svc.config.chunking))
      (h : d.Staging (fun n => svc.fresh (w.drawn + n)) now w.store staged s)
      (hstill : World.Still { w with
        store := s
        memory := staged.applyTo w.memory
        drawn := w.drawn + staged.rows.length + 1 } w') : Drafted svc tenant w w'

/-- An operation on a draft makes moves for its tenant only. -/
lemma Drafted.movesOf {w w' : World σ} (h : Drafted svc tenant w w') : MovesOf svc tenant w w' := by
  cases h with
  | still h => exact .single (.still h)
  | staged htenant hd h hstill => exact .tail (.single (.staged htenant hd h)) (.still hstill)

namespace Service

/-- Staging a draft fails without a change, or stages it. -/
lemma perform_staging (svc : Service σ) (d : Draft) (before : StoreAction Unit) (w : World σ) :
    (∃ e, perform (svc.staging d before) w = (.error e, w)) ∨
      ∃ staged s, perform (before >>= fun _ => d.stage (fun n => svc.fresh (w.drawn + n)) w.now)
          w.store = (.ok staged, s) ∧
        perform (svc.staging d before) w =
          (.ok staged, { w with store := s, drawn := w.drawn + staged.rows.length + 1 }) := by
  unfold staging
  rw [perform_bind_of_ok (perform_get w)]
  rcases hwork : perform (Store.transaction
    (before >>= fun _ => d.stage (fun n => svc.fresh (w.drawn + n)) w.now)) w.store with ⟨e | a, t⟩
  · left
    have hsame := Store.perform_transaction_error hwork
    subst hsame
    exact ⟨_, perform_bind_of_error (perform_store_of_error hwork) _⟩
  · right
    refine ⟨a, t, (Store.perform_transaction_eq_ok.mp hwork).1, ?_⟩
    rw [perform_bind_of_ok (perform_store_of_ok hwork)]
    rfl

/-- An ingest fails without a change, or its draft is staged and told of. -/
lemma perform_ingest (svc : Service σ) (req : IngestRequest) (w : World σ) :
    (∃ e, perform (svc.ingest req) w = (.error e, w)) ∨
      ∃ (d : Draft) (staged : Staged) (s : Store), d.tenant = req.tenant ∧
        d.CutBy (IngestRequest.chunking svc.config.chunking) ∧
        d.Staging (fun n => svc.fresh (w.drawn + n)) w.now w.store staged s ∧
        perform (svc.ingest req) w = (.ok staged.receipt, w.behind staged s) := by
  unfold ingest
  split
  · exact .inl ⟨_, rfl⟩
  · rename_i d hd
    obtain ⟨htenant, -, hcut⟩ := IngestRequest.draft_eq_ok hd
    rcases svc.perform_staging d (pure ()) w with ⟨e, h⟩ | ⟨staged, s, hwork, h⟩
    · exact .inl ⟨e, perform_bind_of_error h finish⟩
    · refine .inr ⟨d, staged, s, htenant, hcut, Draft.stage_eq_ok hwork, ?_⟩
      rw [perform_bind_of_ok h]
      rfl

/-- What an ingest comes to. -/
lemma drafted_ingest (svc : Service σ) (req : IngestRequest) (w : World σ) :
    Drafted svc req.tenant w (stateAfter (svc.ingest req) w) := by
  rcases svc.perform_ingest req w with ⟨e, h⟩ | ⟨d, staged, s, htenant, hcut, hstaging, h⟩
  · rw [stateAfter_eq h]
    exact .still (.refl w)
  · rw [stateAfter_eq h]
    exact .staged htenant hcut hstaging ⟨.refl _, rfl, rfl, rfl, Nat.le_refl _⟩

/-- Looking for the text of an entity asks at most for the state of the entity. -/
lemma perform_textFor (svc : Service σ) (e : RecordChanged) (r : Record) (w : World σ) :
    ∃ text o, perform (svc.textFor e r) w = (text, { w with outside := o }) ∧
      (o = w.outside ∨ o = (svc.entity e.tenant e.link w.outside).2) := by
  unfold textFor
  split
  · rw [perform_bind_of_ok (perform_pure _ w)]
    dsimp only
    split
    · exact ⟨_, w.outside, rfl, .inl rfl⟩
    · exact ⟨_, w.outside, rfl, .inl rfl⟩
  · rw [perform_bind, perform_ask]
    rcases svc.entity e.tenant e.link w.outside with ⟨err | _ | state, o⟩
    · exact ⟨_, o, rfl, .inr rfl⟩
    · exact ⟨_, o, rfl, .inr rfl⟩
    · dsimp only
      split
      · exact ⟨_, o, rfl, .inr rfl⟩
      · exact ⟨_, o, rfl, .inr rfl⟩

/-- Refreshing a record fails without a change but to the state outside, or a text is found for it,
the vectors of the record are dropped, and the draft of the request with this text is staged and
told of. -/
lemma perform_refresh_drafted (svc : Service σ) (e : RecordChanged) (r : Record) (w : World σ) :
    ∃ o, (o = w.outside ∨ o = (svc.entity e.tenant e.link w.outside).2) ∧
      ((∃ cause, perform (svc.refresh e r) w = (.error cause, { w with outside := o })) ∨
        ∃ (text : String × String) (d : Draft) (staged : Staged) (s : Store),
          perform (svc.textFor e r) w = (.ok text, { w with outside := o }) ∧
          (refreshRequest e.link r text).draft svc.config.chunking = .ok d ∧
          d.Staging (fun n => svc.fresh (w.drawn + n)) w.now (w.store.dropVectors r.id) staged s ∧
          perform (svc.refresh e r) w = (.ok (.refreshed staged.record staged.rows.length),
            { w.behind staged s with outside := o })) := by
  obtain ⟨text, o, htext, hasked⟩ := perform_textFor svc e r w
  refine ⟨o, hasked, ?_⟩
  unfold refresh
  rcases text with cause | text
  · exact .inl ⟨cause, perform_bind_of_error htext _⟩
  · rw [perform_bind_of_ok htext]
    dsimp only
    split
    · exact .inl ⟨_, rfl⟩
    · rename_i d hd
      rcases svc.perform_staging d (do let _ ← Store.deleteVectors r.id) { w with outside := o }
        with ⟨cause, h⟩ | ⟨staged, s, hwork, h⟩
      · exact .inl ⟨cause, perform_bind_of_error h _⟩
      · obtain ⟨⟨⟩, v, hdrop, hstage⟩ := perform_bind_eq_ok.mp hwork
        obtain ⟨n, v', hvectors, hpure⟩ := perform_bind_eq_ok.mp hdrop
        cases hpure
        rw [Store.deleteVectors_eq_ok hvectors] at hstage
        refine .inr ⟨text, d, staged, s, htext, hd, Draft.stage_eq_ok hstage, ?_⟩
        rw [perform_bind_of_ok h]
        rfl

/-- Refreshing a record fails without a change but to the state outside, or the vectors of the
record are dropped and a draft about the entity is staged and told of. -/
lemma perform_refresh (svc : Service σ) (e : RecordChanged) (r : Record) (w : World σ) :
    ∃ o, (o = w.outside ∨ o = (svc.entity e.tenant e.link w.outside).2) ∧
      ((∃ cause, perform (svc.refresh e r) w = (.error cause, { w with outside := o })) ∨
        ∃ (d : Draft) (staged : Staged) (s : Store), d.tenant = r.tenant ∧ d.entity = some e.link ∧
          d.CutBy (IngestRequest.chunking svc.config.chunking) ∧
          d.Staging (fun n => svc.fresh (w.drawn + n)) w.now (w.store.dropVectors r.id) staged s ∧
          perform (svc.refresh e r) w = (.ok (.refreshed staged.record staged.rows.length),
            { w.behind staged s with outside := o })) := by
  obtain ⟨o, hasked, hfails | ⟨text, d, staged, s, -, hd, hstaging, h⟩⟩ :=
    svc.perform_refresh_drafted e r w
  · exact ⟨o, hasked, .inl hfails⟩
  · obtain ⟨hdt, hde, hcut⟩ := IngestRequest.draft_eq_ok hd
    exact ⟨o, hasked, .inr ⟨d, staged, s, hdt, hde, hcut, hstaging, h⟩⟩

/-- What refreshing a record comes to, if every draft about the entity spares the chunks of the
record. -/
lemma drafted_refresh {svc : Service σ} {e : RecordChanged} {r : Record} {w : World σ}
    (hspares : ∀ d : Draft, d.tenant = r.tenant → d.entity = some e.link →
      d.Spares w.store r.id) : Drafted svc r.tenant w (stateAfter (svc.refresh e r) w) := by
  obtain ⟨o, -, ⟨cause, h⟩ | ⟨d, staged, s, hdt, hde, hcut, hstaging, h⟩⟩ :=
    svc.perform_refresh e r w
  · rw [stateAfter_eq h]
    exact .still ⟨.refl _, rfl, rfl, rfl, Nat.le_refl _⟩
  · rw [stateAfter_eq h]
    refine .staged hdt hcut (hstaging.of_dropVectors (hspares d hdt hde)) ?_
    exact ⟨.refl _, rfl, rfl, rfl, Nat.le_refl _⟩

/-- What refreshing the live record of an entity comes to. -/
lemma drafted_refresh_linked {e : RecordChanged} {r : Record} {w : World σ}
    (hr : w.store.records.find? (·.isLiveFor e.tenant e.link) = some r) :
    Drafted svc r.tenant w (stateAfter (svc.refresh e r) w) :=
  drafted_refresh fun _ hdt hde => .inr ⟨r, Draft.target?_of_linked hr hdt hde, rfl⟩

/-- What retiring a record comes to. -/
lemma stateAfter_retire (r : Record) (w : World σ) :
    stateAfter (retire r) w = w ∨ stateAfter (retire r) w = { w with
      store := w.store.retired r w.now
      memory := w.memory.without (w.store.chunkIds r.id) } := by
  unfold retire
  rw [stateAfter_bind, perform_get]
  dsimp only
  rw [stateAfter_bind]
  rcases hwork : perform (retireWork r w.now) w.store with ⟨e | gone, t⟩
  · left
    rw [perform_store_of_error hwork, Store.perform_transaction_error hwork]
  · right
    rw [perform_store_of_ok hwork]
    obtain ⟨rfl, rfl⟩ := Store.retireWork_eq_ok hwork
    rfl

/-- Following a change makes moves for its tenant only. -/
lemma movesOf_applyChange (e : RecordChanged) :
    Within (MovesOf svc e.tenant) (svc.applyChange e) := by
  intro w
  unfold applyChange
  rw [stateAfter_bind]
  rcases hfind : perform (Store.findLinked e.tenant e.link) w.store with ⟨err | found, t⟩
  · have hsame := Store.perform_reading_error hfind
    subst hsame
    rw [perform_store_of_error hfind]
  · obtain ⟨-, rfl, rfl⟩ := Store.perform_reading_eq_ok.mp hfind
    rw [perform_store_of_ok hfind]
    dsimp only
    split
    · exact .refl
    · rename_i r hr
      have htenant : r.tenant = e.tenant := by
        have hfor := List.find?_some hr
        exact (Record.isLiveFor_iff.mp hfor).2.1
      split
      · exact htenant ▸ (drafted_refresh_linked hr).movesOf
      · exact htenant ▸ (drafted_refresh_linked hr).movesOf
      · rcases stateAfter_retire r w with h | h
        · rw [h]
        · rw [h]
          exact .single (.retired (List.mem_of_find?_eq_some hr) htenant w.now)

/-- Handling a change makes moves for its tenant only. -/
lemma movesOf_handleChange (e : RecordChanged) :
    Within (MovesOf svc e.tenant) (svc.handleChange e) := by
  unfold handleChange
  refine Within.bind Within.get fun w => ?_
  refine Within.bind (within_outcome (movesOf_applyChange e)) fun result => ?_
  refine movesOf_of_still ?_
  refine Within.bind (still_draw _) fun id => ?_
  refine Within.bind Within.get fun w' => ?_
  refine Within.bind (within_outcome (still_record _ _)) fun audited => ?_
  split
  · exact Within.throw _
  · exact Within.pure _
  · exact Within.throw _

/-! ### Embedding -/

/-- A reply that is accepted has one vector of the right dimension for every text. -/
lemma checked_eq_ok {expected : Nat} {reply : Except ServiceError (List Vec)} {vs : List Vec}
    (h : svc.checked expected reply = .ok vs) :
    reply = .ok vs ∧ vs.length = expected ∧
      ∀ v ∈ vs, v.length = svc.config.embedding.dimensions := by
  rcases reply with e | vs'
  · cases h
  · change (checkBatch svc.config.embedding.dimensions expected vs').mapError
      ServiceError.provider = .ok vs at h
    unfold checkBatch at h
    split at h
    · cases h
    · rename_i hlength
      rcases hfind : vs'.find? fun v => v.length != svc.config.embedding.dimensions with _ | bad
      · rw [hfind] at h
        cases h
        rw [List.find?_eq_none] at hfind
        refine ⟨rfl, not_not.mp hlength, ?_⟩
        intro v hv
        have hdim := hfind v hv
        rw [bne_iff_ne, not_not] at hdim
        exact hdim
      · rw [hfind] at h
        cases h

/-- A reply with one vector of the right dimension for every text is accepted. -/
lemma checked_of_fits {expected : Nat} {vs : List Vec}
    (hlength : vs.length = expected) (hdim : ∀ v ∈ vs, v.length = svc.config.embedding.dimensions) :
    svc.checked expected (.ok vs) = .ok vs := by
  have hnone : vs.find? (fun v => v.length != svc.config.embedding.dimensions) = none := by
    rw [List.find?_eq_none]
    intro v hv
    rw [bne_iff_ne, not_not]
    exact hdim v hv
  change (checkBatch svc.config.embedding.dimensions expected vs).mapError
    ServiceError.provider = .ok vs
  unfold checkBatch
  rw [if_neg (not_not.mpr hlength), hnone]
  rfl

/-- Vectors that come of a call are those of an accepted answer. -/
lemma callUnlessCancelled_eq_ok {texts : List String} {w w' : World σ} {vs : List Vec}
    {reply : Except ServiceError (List Vec)}
    (h : perform (svc.callUnlessCancelled texts) w = (.ok reply, w'))
    (hvs : svc.checked texts.length reply = .ok vs) :
    svc.checked texts.length (svc.embed texts w.outside).outcome = .ok vs ∧
      w'.outside = (svc.embed texts w.outside).outside := by
  unfold callUnlessCancelled at h
  rw [perform_bind_of_ok (perform_get w)] at h
  split at h
  · rw [perform_bind_of_ok (perform_set _ w)] at h
    cases h
    cases hvs
  · cases h
    exact ⟨hvs, rfl⟩

/-- Vectors that come of trying to embed texts are those of an accepted answer, after which nobody
outside was asked again. -/
lemma tryEmbed_eq_ok {texts : List String} {more : Nat} {w w' : World σ} {vs : List Vec}
    (h : perform (svc.tryEmbed texts more) w = (.ok vs, w')) :
    ∃ o, svc.checked texts.length (svc.embed texts o).outcome = .ok vs ∧
      w'.outside = (svc.embed texts o).outside := by
  induction more generalizing w with
  | zero =>
    unfold tryEmbed at h
    obtain ⟨reply, u, hcall, hrest⟩ := perform_bind_eq_ok.mp h
    split at hrest
    · rename_i hok
      cases hrest
      exact ⟨w.outside, callUnlessCancelled_eq_ok hcall hok⟩
    · cases hrest
  | succ more ih =>
    unfold tryEmbed at h
    obtain ⟨reply, u, hcall, hrest⟩ := perform_bind_eq_ok.mp h
    split at hrest
    · rename_i hok
      cases hrest
      exact ⟨w.outside, callUnlessCancelled_eq_ok hcall hok⟩
    · obtain ⟨v, u', -, hrest⟩ := perform_bind_eq_ok.mp hrest
      split at hrest
      · cases hrest
      · exact ih hrest

/-- Committing the vectors of a batch: the transaction, and what the process takes into its
index. -/
lemma stateAfter_commit (svc : Service σ) (tenant : String) (record : Id) (batch : List StoredChunk)
    (vs : List Vec) (w : World σ) :
    stateAfter (svc.commit tenant record batch vs) w = w ∨
      stateAfter (svc.commit tenant record batch vs) w = { w with
        store := w.store.committed tenant record svc.version w.now (batch.zip vs)
        memory := w.memory.takingIn
          (Store.counted tenant svc.version w.store (batch.zip vs)) } := by
  unfold commit
  rw [stateAfter_bind, perform_get]
  dsimp only
  rw [stateAfter_bind]
  rcases hwork : perform (Store.commitBatch tenant record svc.version w.now (batch.zip vs))
    w.store with ⟨e | written, t⟩
  · left
    rw [perform_store_of_error hwork, Store.perform_transaction_error hwork]
  · right
    rw [perform_store_of_ok hwork]
    obtain ⟨rfl, rfl⟩ := Store.commitBatch_eq_ok hwork
    dsimp only
    rw [stateAfter_bind, perform_get]
    dsimp only
    unfold Memory.takingIn
    rcases w.memory.vectors.upsertAll (Store.counted tenant svc.version w.store (batch.zip vs))
      with mismatch | vectors <;> rfl

/-- Marking the chunks of a batch as failed. -/
lemma stateAfter_fail (batch : List StoredChunk) (e : ServiceError) (w : World σ) :
    stateAfter (fail batch e) w = w ∨ stateAfter (fail batch e) w =
      { w with store := w.store.failed (batch.map (·.id)) (Text.maskCredentials e.message) } := by
  unfold fail
  rw [stateAfter_bind]
  rcases hwork : perform (Store.markFailed (batch.map (·.id)) (Text.maskCredentials e.message))
    w.store with ⟨err | n, t⟩
  · left
    rw [perform_store_of_error hwork, Store.perform_writing_error hwork]
  · right
    rw [perform_store_of_ok hwork]
    cases (Store.perform_writing_eq_ok.mp hwork).2
    rfl

/-- The pending chunks of a record depend on the tables only. -/
lemma pendingOf_of_sameTables {s t : Store} (h : Store.SameTables s t) (tenant : String)
    (record : Id) : t.pendingOf tenant record = s.pendingOf tenant record := by
  have hlive : t.liveChunks = s.liveChunks := by
    have hcontext : t.context? = s.context? := by
      funext c
      unfold Store.context? Store.record?
      rw [h.records]
    unfold Store.liveChunks
    rw [hcontext, h.chunks]
  unfold Store.pendingOf
  rw [hlive]

/-- Embedding a record of a tenant with a quiet provider makes moves for the tenant only. -/
lemma Quiet.movesOf_embedRecord (hq : svc.Quiet) (tenant : String) (record : Id) :
    Within (MovesOf svc tenant) (svc.embedRecord tenant record) := by
  intro w
  unfold embedRecord
  rw [stateAfter_bind]
  rcases hlist : perform (Store.listPending tenant record) w.store with ⟨err | batch, t⟩
  · rw [perform_store_of_error hlist, Store.perform_reading_error hlist]
  · obtain ⟨-, hbatch, rfl⟩ := Store.perform_reading_eq_ok.mp hlist
    rw [perform_store_of_ok_same hlist]
    dsimp only
    split
    · exact .refl
    · rw [stateAfter_bind, perform_outcome]
      have hstill := hq.still_tryEmbed (batch.map (·.text)) svc.retries w
      have hpending : ∀ u : World σ, w.Still u → batch = u.store.pendingOf tenant record := by
        intro u hu
        rw [pendingOf_of_sameTables hu.tables]
        exact hbatch.symm
      rcases hembed : perform (svc.tryEmbed (batch.map (·.text)) svc.retries) w with ⟨e | vs, u⟩
      · rw [stateAfter_eq hembed] at hstill
        rw [hembed]
        refine .trans (.single (.still hstill)) ?_
        dsimp only
        rw [stateAfter_bind_throw]
        rcases stateAfter_fail batch e u with h | h
        · rw [h]
        · rw [h, hpending u hstill]
          exact .single (.failed record _)
      · rw [stateAfter_eq hembed] at hstill
        rw [hembed]
        refine .trans (.single (.still hstill)) ?_
        obtain ⟨o, hchecked, -⟩ := tryEmbed_eq_ok hembed
        obtain ⟨hgiven, hlength, hdim⟩ := checked_eq_ok hchecked
        rw [List.length_map, hpending u hstill] at hlength
        dsimp only
        rcases stateAfter_commit svc tenant record batch vs u with h | h
        · rw [h]
        · rw [h, hpending u hstill]
          exact .single (.committed record u.now hlength hdim ⟨_, o, hgiven⟩)

/-- Embedding records one after the other with a quiet provider makes moves only. -/
lemma Quiet.moves_embedEach (hq : svc.Quiet) (report : BacklogReport) (records : List Record) :
    Within (Moves svc) (svc.embedEach report records) := by
  induction records generalizing report with
  | nil => exact Within.pure _
  | cons r rest ih =>
    unfold embedEach
    refine Within.bind Within.get fun w => ?_
    split
    · exact Within.bind (Within.throw _) fun _ => Within.bind
        (within_outcome (moves_of_tenant (hq.movesOf_embedRecord r.tenant r.id))) fun result => by
          split
          · exact ih _
          · exact ih _
          · exact Within.throw _
          · exact ih _
    · refine Within.bind (within_outcome (moves_of_tenant (hq.movesOf_embedRecord r.tenant r.id)))
        fun result => ?_
      split
      · exact ih _
      · exact ih _
      · exact Within.throw _
      · exact ih _

/-- Queueing failed chunks again. -/
lemma stateAfter_requeue (w : World σ) :
    stateAfter (Action.store Store.requeueFailed) w = w ∨
      stateAfter (Action.store Store.requeueFailed) w = { w with store := w.store.requeued } := by
  rcases hwork : perform Store.requeueFailed w.store with ⟨e | n, t⟩
  · left
    rw [stateAfter_eq (perform_store_of_error hwork), Store.perform_writing_error hwork]
  · right
    rw [stateAfter_eq (perform_store_of_ok hwork)]
    cases (Store.perform_writing_eq_ok.mp hwork).2
    rfl

/-- A pass over the backlog with a quiet provider makes moves only. -/
lemma Quiet.moves_embedBacklog (hq : svc.Quiet) : Within (Moves svc) svc.embedBacklog := by
  unfold embedBacklog
  refine Within.bind ?_ fun requeued => ?_
  · intro w
    rcases stateAfter_requeue w with h | h
    · rw [h]
    · rw [h]
      exact .single .requeued
  · have hlist : Within (MovesOf svc "") (Action.store Store.listUnembedded) :=
      movesOf_of_still (still_store (Store.within_reading _ _))
    refine Within.bind (moves_of_tenant hlist) fun targets => ?_
    exact hq.moves_embedEach _ targets

/-! ### Projections -/

/-- Taking over the vectors of the store makes moves for any tenant only. -/
lemma movesOf_sync : Within (MovesOf svc tenant) sync := by
  intro w
  rcases sync_cases w with ⟨e, h⟩ | ⟨rows, hrows, h⟩
  · rw [stateAfter_eq h]
  · rw [stateAfter_eq h]
    exact .single (.followed hrows)

/-- Making both indexes anew makes moves only. -/
lemma moves_rebuild : Within (Moves svc) rebuild := by
  intro w
  rcases rebuild_cases w with ⟨e, h⟩ | ⟨sources, rows, report, hsources, -, hrows, -, h⟩
  · rw [stateAfter_eq h]
  · rw [stateAfter_eq h]
    exact .single (.rebuilt hsources hrows)

/-! ### Searches and packs -/

/-- The vector leg of a search with a quiet provider makes moves for the tenant only. -/
lemma Quiet.movesOf_vectorLeg (hq : svc.Quiet) (tenant query : String) :
    Within (MovesOf svc tenant) (svc.vectorLeg tenant query) := by
  unfold vectorLeg
  refine Within.bind (movesOf_of_still (hq.still_call [query])) fun reply => ?_
  split
  · exact Within.pure _
  · exact Within.pure _
  · refine Within.bind movesOf_sync fun _ => ?_
    refine Within.bind Within.get fun w => ?_
    split
    · exact Within.pure _
    · refine movesOf_of_still (Within.bind ?_ fun _ => Within.pure _)
      exact still_store (within_resolvePages _ _ _ _)

/-- A search with a quiet provider makes moves for the tenant only. -/
lemma Quiet.movesOf_hybridSearch (hq : svc.Quiet) (tenant query : String) (limit : Nat) :
    Within (MovesOf svc tenant) (svc.hybridSearch tenant query limit) := by
  unfold hybridSearch
  split
  · exact Within.pure _
  · refine Within.bind Within.get fun w => ?_
    exact Within.bind (hq.movesOf_vectorLeg tenant query) fun _ => Within.pure _

/-- Drawing identifiers for sources keeps tables and indexes. -/
lemma still_sourcesOf (cs : List Candidate) : Within World.Still (svc.sourcesOf cs) := by
  induction cs with
  | nil => exact Within.pure _
  | cons c rest ih =>
    unfold sourcesOf
    refine Within.bind (still_draw _) fun id => ?_
    exact Within.bind ih fun _ => Within.pure _

/-- Redacting candidates keeps tables and indexes. -/
lemma still_redacted (cs : List Candidate) : Within World.Still (svc.redacted cs) := by
  unfold redacted
  split
  · refine Within.bind (still_ask _) fun items => ?_
    split
    · exact Within.pure _
    · exact Within.throw _
  · exact Within.pure _

/-- Looking up the age from which sources count as stale keeps tables and indexes. -/
lemma still_staleAfter : Within World.Still svc.staleAfter := by
  unfold staleAfter
  split
  · exact Within.pure _
  · exact Within.throw _

/-- Putting together a pack with a quiet provider makes moves for the tenant only. -/
lemma Quiet.movesOf_assemble (hq : svc.Quiet) (req : PackRequest) :
    Within (MovesOf svc req.principal.tenant) (svc.assemble req) := by
  unfold assemble
  refine Within.bind (movesOf_of_still (still_draw _)) fun id => ?_
  refine Within.bind Within.get fun w => ?_
  refine Within.bind (hq.movesOf_hybridSearch _ _ _) fun found => ?_
  refine movesOf_of_still ?_
  refine Within.bind ?_ fun all => ?_
  · unfold candidates
    exact Within.bind (still_store (Store.within_reading _ _)) fun _ => Within.pure _
  · refine Within.bind (still_ask _) fun filter => ?_
    refine Within.bind (still_redacted _) fun shown => ?_
    refine Within.bind still_staleAfter fun after => ?_
    refine Within.bind (still_store (Store.within_loadVectors _ _)) fun vectors => ?_
    exact Within.bind (still_sourcesOf _) fun _ => Within.pure _

/-- Building a pack with a quiet provider makes moves for the tenant only. -/
lemma Quiet.movesOf_pack (hq : svc.Quiet) (req : PackRequest) :
    Within (MovesOf svc req.principal.tenant) (svc.pack req) := by
  unfold pack
  split
  · exact Within.throw _
  · refine Within.bind (hq.movesOf_assemble req) fun pack => ?_
    refine movesOf_of_still ?_
    refine Within.bind (still_store (Store.within_insertEvidence _)) fun _ => ?_
    refine Within.bind (still_draw _) fun id => ?_
    refine Within.bind Within.get fun w => ?_
    exact Within.bind (still_record _ _) fun _ => Within.pure _

end Service

end Dossier
