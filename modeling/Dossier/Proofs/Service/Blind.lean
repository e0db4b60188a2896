import Dossier.Proofs.Service.Watermark

/-!
# Operations that do not look at the indexes

Only a search looks at what the indexes of a process hold.  Every other operation comes to the same
whatever they hold (`Blind`): its outcome is the same, and so are the store and the events that it
leaves behind.  Two worlds are `World.Alike` when they differ in nothing that such an operation
looks at; that the indexes have one dimension is part of it, since a vector that does not fit is an
error.
-/

namespace Dossier

variable {σ α β γ : Type}

/-! ### Worlds that differ in their indexes -/

/-- Two worlds that differ at most in what the indexes of the process hold. -/
inductive World.Alike : World σ → World σ → Prop
  | of (w : World σ) (m : Memory) (hbus : m.bus = w.memory.bus)
      (hdim : m.vectors.dimension = w.memory.vectors.dimension) :
      Alike w { w with memory := m }

namespace World.Alike

variable {u v w : World σ}

/-- A world differs from itself in nothing. -/
lemma refl (w : World σ) : Alike w w := .of w w.memory rfl rfl

/-- Being alike is symmetric. -/
lemma symm (h : Alike v w) : Alike w v := by
  cases h with
  | of m hbus hdim => exact .of { v with memory := m } v.memory hbus.symm hdim.symm

/-- Being alike is transitive. -/
lemma trans (h : Alike u v) (h' : Alike v w) : Alike u w := by
  cases h with
  | of m hbus hdim =>
    cases h' with
    | of m' hbus' hdim' => exact .of u m' (hbus'.trans hbus) (hdim'.trans hdim)

/-- Alike worlds have one store. -/
lemma store_eq (h : Alike v w) : w.store = v.store := by
  cases h
  rfl

end World.Alike

/-! ### Operations in alike worlds -/

/-- Two operations come to the same in two worlds: they have the same outcome, and the worlds behind
them are alike. -/
structure Same (act act' : Action σ α) (w w' : World σ) : Prop where
  outcome : (perform act' w').1 = (perform act w).1
  after : World.Alike (stateAfter act w) (stateAfter act' w')

namespace Same

variable {w w' : World σ}

/-- Operations whose first parts succeed come to what they go on with. -/
lemma bind_of_ok {act : Action σ α} {act' : Action σ γ} {f : α → Action σ β} {f' : γ → Action σ β}
    {a : α} {c : γ} {u u' : World σ} (h : perform act w = (.ok a, u))
    (h' : perform act' w' = (.ok c, u')) (hrest : Same (f a) (f' c) u u') :
    Same (act >>= f) (act' >>= f') w w' := by
  obtain ⟨houtcome, hafter⟩ := hrest
  unfold stateAfter at hafter
  refine ⟨?_, ?_⟩
  · rw [perform_bind_of_ok h, perform_bind_of_ok h']
    exact houtcome
  · unfold stateAfter
    rw [perform_bind_of_ok h, perform_bind_of_ok h']
    exact hafter

/-- Operations whose first parts fail in the same way have failed. -/
lemma bind_of_error {act : Action σ α} {act' : Action σ γ} {f : α → Action σ β}
    {f' : γ → Action σ β} {e : ServiceError} {u u' : World σ} (h : perform act w = (.error e, u))
    (h' : perform act' w' = (.error e, u')) (halike : World.Alike u u') :
    Same (act >>= f) (act' >>= f') w w' := by
  have hrun := perform_bind_of_error h f
  have hrun' := perform_bind_of_error h' f'
  refine ⟨?_, ?_⟩
  · rw [hrun, hrun']
  · rw [stateAfter_eq hrun, stateAfter_eq hrun']
    exact halike

/-- Operations in sequence come to the same if the first parts do, and the second parts do in the
alike worlds behind them. -/
lemma bind {act act' : Action σ α} {f f' : α → Action σ β} (h : Same act act' w w')
    (hf : ∀ a u u', perform act w = (.ok a, u) → perform act' w' = (.ok a, u') →
      World.Alike u u' → Same (f a) (f' a) u u') : Same (act >>= f) (act' >>= f') w w' := by
  obtain ⟨houtcome, hafter⟩ := h
  unfold stateAfter at hafter
  rcases hfirst : perform act w with ⟨r, u⟩
  rcases hsecond : perform act' w' with ⟨r', u'⟩
  rw [hfirst, hsecond] at houtcome hafter
  obtain rfl : r' = r := houtcome
  rcases r' with e | a
  · exact bind_of_error hfirst hsecond hafter
  · exact bind_of_ok hfirst hsecond (hf a u u' hfirst hsecond hafter)

/-- Operations that begin by reading the world come to what they go on with. -/
lemma get_bind {f f' : World σ → Action σ β} (h : Same (f w) (f' w') w w') :
    Same (get >>= f) (get >>= f') w w' :=
  bind_of_ok (perform_get w) (perform_get w') h

end Same

/-- An operation that does not look at the indexes: it comes to the same in alike worlds. -/
def Blind (act : Action σ α) : Prop := ∀ w w', World.Alike w w' → Same act act w w'

namespace Blind

/-- Giving a value looks at nothing. -/
lemma pure (a : α) : Blind (pure a : Action σ α) := fun _ _ h => ⟨rfl, h⟩

/-- Failing looks at nothing. -/
lemma throw (e : ServiceError) : Blind (throw e : Action σ α) := fun _ _ h => ⟨rfl, h⟩

/-- Operations one after the other do not look at the indexes if neither does. -/
lemma bind {act : Action σ α} {f : α → Action σ β} (h : Blind act) (hf : ∀ a, Blind (f a)) :
    Blind (act >>= f) :=
  fun w w' halike => (h w w' halike).bind fun a u u' _ _ hu => hf a u u' hu

/-- An operation that begins by reading the world does not look at the indexes if it goes on in the
same way in alike worlds. -/
lemma get_bind {f : World σ → Action σ β} (hread : ∀ w w', World.Alike w w' → f w' = f w)
    (hf : ∀ w, Blind (f w)) : Blind (get >>= f) := by
  intro w w' h
  refine Same.get_bind ?_
  rw [hread w w' h]
  exact hf w w w' h

/-- A function on the world does not look at the indexes if it maps alike worlds to one value and to
alike worlds. -/
lemma modifyGet {f : World σ → α × World σ}
    (h : ∀ w w', World.Alike w w' → (f w').1 = (f w).1 ∧ World.Alike (f w).2 (f w').2) :
    Blind (modifyGet f : Action σ α) :=
  fun w w' halike => ⟨congrArg Except.ok (h w w' halike).1, (h w w' halike).2⟩

/-- Work on the store does not look at the indexes. -/
lemma store (work : StoreAction α) : Blind (Action.store work : Action σ α) := by
  rintro w w' ⟨m, hbus, hdim⟩
  exact ⟨rfl, .of { w with store := stateAfter work w.store } m hbus hdim⟩

/-- Asking someone outside does not look at the indexes. -/
lemma ask (question : σ → Except ServiceError α × σ) : Blind (Action.ask question) := by
  rintro w w' ⟨m, hbus, hdim⟩
  exact ⟨rfl, .of { w with outside := (question w.outside).2 } m hbus hdim⟩

/-- Drawing an identifier does not look at the indexes. -/
lemma draw (fresh : Nat → Id) : Blind (Action.draw fresh : Action σ Id) := by
  refine modifyGet ?_
  rintro w w' ⟨m, hbus, hdim⟩
  exact ⟨rfl, .of { w with drawn := w.drawn + 1 } m hbus hdim⟩

/-- A change of the memory does not look at the indexes if its bus follows from the bus and its
dimension from the dimension. -/
lemma onMemory {change : Memory → Memory}
    (hbus : ∀ m m', m'.bus = m.bus → (change m').bus = (change m).bus)
    (hdim : ∀ m m', m'.vectors.dimension = m.vectors.dimension →
      (change m').vectors.dimension = (change m).vectors.dimension) :
    Blind (Action.onMemory change : Action σ Unit) := by
  refine modifyGet ?_
  rintro w w' ⟨m, hsame, hfits⟩
  exact ⟨rfl, .of { w with memory := change w.memory } (change m) (hbus _ _ hsame)
    (hdim _ _ hfits)⟩

/-- The outcome of an operation that does not look at the indexes does not tell of them. -/
lemma outcome {act : Action σ α} (h : Blind act) : Blind act.outcome := by
  intro w w' halike
  obtain ⟨houtcome, hafter⟩ := h w w' halike
  exact ⟨congrArg Except.ok houtcome, hafter⟩

end Blind

namespace Service

variable {svc : Service σ}

/-! ### Events and audits -/

/-- Publishing does not look at the indexes. -/
lemma blind_publish (topic : Topic) (payload : Json) :
    Blind (publish topic payload : Action σ Unit) := by
  unfold publish
  refine Blind.onMemory ?_ ?_
  · intro m m' h
    dsimp only
    rw [h]
  · exact fun _ _ h => h

/-- Putting an audit event on record does not look at the indexes. -/
lemma blind_record (event : AuditEvent) : Blind (svc.record event) := by
  unfold record
  exact Blind.bind (Blind.ask _) fun _ => Blind.store _

/-! ### Ingests and changes -/

/-- Staging a draft does not look at the indexes. -/
lemma blind_staging (d : Draft) (before : StoreAction Unit) : Blind (svc.staging d before) := by
  unfold staging
  refine Blind.get_bind ?_ fun w => ?_
  · rintro w w' ⟨m, hbus, hdim⟩
    rfl
  refine Blind.bind (Blind.store _) fun staged => ?_
  refine Blind.bind (Blind.modifyGet ?_) fun _ => Blind.pure _
  rintro u u' ⟨m, hbus, hdim⟩
  exact ⟨rfl, .of { u with drawn := u.drawn + staged.rows.length + 1 } m hbus hdim⟩

/-- Bringing the process up to date with an ingest changes the indexes without a look at them. -/
lemma blind_finish (staged : Staged) : Blind (finish staged : Action σ Receipt) := by
  unfold finish
  refine Blind.bind (Blind.onMemory ?_ ?_) fun _ => ?_
  · exact fun _ _ h => h
  · exact fun _ _ h => h
  · exact Blind.bind (blind_publish _ _) fun _ => Blind.pure _

/-- An ingest does not look at the indexes. -/
lemma blind_ingest (req : IngestRequest) : Blind (svc.ingest req) := by
  unfold ingest
  split
  · exact Blind.throw _
  · exact Blind.bind (blind_staging _ _) fun _ => blind_finish _

/-- Finding the text of a record does not look at the indexes. -/
lemma blind_textFor (e : RecordChanged) (r : Record) : Blind (svc.textFor e r) := by
  unfold textFor
  split
  on_goal 1 => refine Blind.bind (Blind.pure _) fun state => ?_
  on_goal 2 => refine Blind.bind (Blind.ask _) fun state => ?_
  -- However the state was found, it is rendered in the same way.
  all_goals
    dsimp only
    split
    · exact Blind.pure _
    · split
      · exact Blind.pure _
      · exact Blind.throw _

/-- Refreshing a record does not look at the indexes. -/
lemma blind_refresh (e : RecordChanged) (r : Record) : Blind (svc.refresh e r) := by
  unfold refresh
  refine Blind.bind (blind_textFor e r) fun text => ?_
  dsimp only
  split
  · exact Blind.throw _
  · refine Blind.bind (blind_staging _ _) fun staged => ?_
    exact Blind.bind (blind_finish staged) fun _ => Blind.pure _

/-- Retiring a record changes the indexes without a look at them. -/
lemma blind_retire (r : Record) : Blind (retire r : Action σ ChangeOutcome) := by
  unfold retire
  refine Blind.get_bind ?_ fun w => ?_
  · rintro w w' ⟨m, hbus, hdim⟩
    rfl
  refine Blind.bind (Blind.store _) fun gone => ?_
  refine Blind.bind (Blind.onMemory ?_ ?_) fun _ => Blind.pure _
  · exact fun _ _ h => h
  · exact fun _ _ h => h

/-- Handling a change does not look at the indexes. -/
lemma blind_handleChange (e : RecordChanged) : Blind (svc.handleChange e) := by
  have happly : Blind (svc.applyChange e) := by
    unfold applyChange
    refine Blind.bind (Blind.store _) fun found => ?_
    split
    · exact Blind.pure _
    · split
      · exact blind_refresh e _
      · exact blind_refresh e _
      · exact blind_retire _
  unfold handleChange
  refine Blind.get_bind ?_ fun w => ?_
  · rintro w w' ⟨m, hbus, hdim⟩
    rfl
  refine Blind.bind happly.outcome fun result => ?_
  refine Blind.bind (Blind.draw _) fun id => ?_
  refine Blind.get_bind ?_ fun u => ?_
  · rintro u u' ⟨m, hbus, hdim⟩
    rfl
  refine Blind.bind (blind_record _).outcome fun audited => ?_
  split
  · exact Blind.throw _
  · exact Blind.pure _
  · exact Blind.throw _

/-- Publishing the changes that refresh a tenant does not look at the indexes. -/
lemma blind_queuePages (req : ReindexRequest) (size pages : Nat) (after : Option Id)
    (queued : Nat) : Blind (queuePages req size pages after queued : Action σ Nat) := by
  have hpublish : ∀ page : List Record,
      Blind (page.forM (publishRefresh req.actor) : Action σ Unit) := by
    intro page
    induction page with
    | nil => exact Blind.pure _
    | cons r rest ih =>
      refine Blind.bind ?_ fun _ => ih
      unfold publishRefresh
      split
      · exact blind_publish _ _
      · exact Blind.pure _
  induction pages generalizing after queued with
  | zero => exact Blind.pure _
  | succ pages ih =>
    unfold queuePages
    refine Blind.bind (Blind.store _) fun page => ?_
    refine Blind.bind (hpublish page) fun _ => ?_
    dsimp only
    split
    · split
      · exact ih _ _
      · exact Blind.pure _
    · exact Blind.pure _

/-- Refreshing a tenant does not look at the indexes. -/
lemma blind_queueReindex (req : ReindexRequest) : Blind (svc.queueReindex req) := by
  unfold queueReindex
  split
  · exact Blind.throw _
  · refine Blind.get_bind ?_ fun w => blind_queuePages req _ _ _ _
    rintro w w' ⟨m, hbus, hdim⟩
    rfl

/-! ### Embedding -/

/-- A call to the provider does not look at the indexes. -/
lemma blind_call (texts : List String) : Blind (svc.call texts) := by
  refine Blind.modifyGet ?_
  rintro w w' ⟨m, hbus, hdim⟩
  exact ⟨rfl, .of { w with
    store := (svc.embed texts w.outside).meanwhile w.store
    cancelled := w.cancelled || (svc.embed texts w.outside).cancels
    outside := (svc.embed texts w.outside).outside } m hbus hdim⟩

/-- A call to the provider that may be given up does not look at the indexes. -/
lemma blind_callUnlessCancelled (texts : List String) : Blind (svc.callUnlessCancelled texts) := by
  rintro w w' ⟨m, hbus, hdim⟩
  unfold callUnlessCancelled
  refine Same.get_bind ?_
  dsimp only
  split
  · exact ⟨rfl, .of { w with outside := (svc.embed texts w.outside).outside } m hbus hdim⟩
  · exact blind_call texts w _ (.of w m hbus hdim)

/-- Trying to embed texts does not look at the indexes. -/
lemma blind_tryEmbed (texts : List String) (more : Nat) : Blind (svc.tryEmbed texts more) := by
  induction more with
  | zero =>
    unfold tryEmbed
    refine Blind.bind (blind_callUnlessCancelled texts) fun reply => ?_
    split
    · exact Blind.pure _
    · exact Blind.throw _
  | succ more ih =>
    unfold tryEmbed
    refine Blind.bind (blind_callUnlessCancelled texts) fun reply => ?_
    split
    · exact Blind.pure _
    · refine Blind.get_bind ?_ fun w => ?_
      · rintro w w' ⟨m, hbus, hdim⟩
        rfl
      · split
        · exact Blind.throw _
        · exact ih

/-- Committing the vectors of a batch looks at nothing of the indexes but their dimension. -/
lemma blind_commit (tenant : String) (record : Id) (batch : List StoredChunk) (vs : List Vec) :
    Blind (svc.commit tenant record batch vs) := by
  unfold commit
  refine Blind.get_bind ?_ fun w => ?_
  · rintro w w' ⟨m, hbus, hdim⟩
    rfl
  refine Blind.bind (Blind.store _) fun written => ?_
  rintro u u' ⟨m, hbus, hdim⟩
  refine Same.get_bind ?_
  dsimp only
  rcases VectorIndex.upsertAll_cases hdim written with ⟨mismatch, hfails, hfails'⟩ | ⟨hfits, hfits'⟩
  · rw [hfails, hfails']
    exact Blind.throw _ u _ (.of u m hbus hdim)
  · rw [hfits, hfits']
    have hput : (m.vectors.putAll written).dimension =
        (u.memory.vectors.putAll written).dimension := by
      rw [VectorIndex.dimension_putAll, VectorIndex.dimension_putAll]
      exact hdim
    exact ⟨rfl, .of { u with memory := { u.memory with vectors := u.memory.vectors.putAll written } }
      { m with vectors := m.vectors.putAll written } hbus hput⟩

/-- Marking the chunks of a batch as failed does not look at the indexes. -/
lemma blind_fail (batch : List StoredChunk) (e : ServiceError) :
    Blind (fail batch e : Action σ Unit) := by
  unfold fail
  exact Blind.bind (Blind.store _) fun _ => Blind.pure _

/-- Embedding a record looks at nothing of the indexes but their dimension. -/
lemma blind_embedRecord (tenant : String) (record : Id) :
    Blind (svc.embedRecord tenant record) := by
  unfold embedRecord
  refine Blind.bind (Blind.store _) fun batch => ?_
  split
  · exact Blind.pure _
  · refine Blind.bind (blind_tryEmbed _ _).outcome fun reply => ?_
    split
    · exact blind_commit _ _ _ _
    · exact Blind.bind (blind_fail _ _) fun _ => Blind.throw _

/-- Embedding records one after the other looks at nothing of the indexes but their dimension. -/
lemma blind_embedEach (report : BacklogReport) (records : List Record) :
    Blind (svc.embedEach report records) := by
  induction records generalizing report with
  | nil => exact Blind.pure _
  | cons r rest ih =>
    unfold embedEach
    refine Blind.get_bind ?_ fun w => ?_
    · rintro w w' ⟨m, hbus, hdim⟩
      rfl
    split
    on_goal 1 => refine Blind.bind (Blind.throw _) fun _ => ?_
    -- Given up or not, the rest of the list is the same operation.
    all_goals
      refine Blind.bind (blind_embedRecord r.tenant r.id).outcome fun result => ?_
      split
      · exact ih _
      · exact ih _
      · exact Blind.throw _
      · exact ih _

/-- A pass over the backlog looks at nothing of the indexes but their dimension. -/
lemma blind_embedBacklog : Blind svc.embedBacklog := by
  unfold embedBacklog
  refine Blind.bind (Blind.store _) fun requeued => ?_
  exact Blind.bind (Blind.store _) fun targets => blind_embedEach _ _

/-! ### Packs -/

/-- Resolving what a search has found does not look at the indexes. -/
lemma blind_candidates (tenant : String) (found : SearchResponse) :
    Blind (svc.candidates tenant found) := by
  unfold candidates
  exact Blind.bind (Blind.store _) fun _ => Blind.pure _

/-- Redacting candidates does not look at the indexes. -/
lemma blind_redacted (cs : List Candidate) : Blind (svc.redacted cs) := by
  unfold redacted
  split
  · refine Blind.bind (Blind.ask _) fun items => ?_
    split
    · exact Blind.pure _
    · exact Blind.throw _
  · exact Blind.pure _

/-- Looking up the age from which sources count as stale does not look at the indexes. -/
lemma blind_staleAfter : Blind svc.staleAfter := by
  unfold staleAfter
  split
  · exact Blind.pure _
  · exact Blind.throw _

/-- Drawing identifiers for sources does not look at the indexes. -/
lemma blind_sourcesOf (cs : List Candidate) : Blind (svc.sourcesOf cs) := by
  induction cs with
  | nil => exact Blind.pure _
  | cons c rest ih =>
    unfold sourcesOf
    refine Blind.bind (Blind.draw _) fun id => ?_
    exact Blind.bind ih fun _ => Blind.pure _

/-! ### Projections -/

/-- Taking over the vectors of the store changes nothing but the indexes. -/
lemma alike_sync : Within World.Alike (sync : Action σ Nat) := by
  intro w
  rcases sync_cases w with ⟨e, h⟩ | ⟨rows, -, h⟩
  · rw [stateAfter_eq h]
    exact .refl w
  · rw [stateAfter_eq h]
    exact .of w (w.memory.follow rows) rfl (Memory.dimension_follow _ _)

/-- Making both indexes anew changes nothing else. -/
lemma alike_rebuild : Within World.Alike (rebuild : Action σ RebuildReport) := by
  intro w
  rcases rebuild_cases w with ⟨e, h⟩ | ⟨sources, rows, report, -, -, -, -, h⟩
  · rw [stateAfter_eq h]
    exact .refl w
  · rw [stateAfter_eq h]
    exact .of w (w.memory.rebuilt sources rows) rfl (Memory.dimension_rebuilt _ _ _)

end Service

end Dossier
