import Dossier.Proofs.Service.Reachable
import Dossier.Proofs.Store.Live

/-!
# Writes happen as a whole or not at all

An ingest or a change of an entity that fails leaves tables, indexes and bus as they were, because
whatever may fail comes before the transaction ends, and the indexes and the bus are only touched
behind it.  `Attempt` lists what a change can come to before it is audited.  However it ends, the
audit sink is handed one event, which tells how it ended; and an ingest or a refresh that succeeds
is told of once, with the number of chunks that the record then has.
-/

namespace Dossier

variable {σ : Type}

/-! ### Untouched worlds -/

/-- Two worlds with the same tables and the same memory: the same indexes, watermark and bus. -/
structure World.Untouched (w w' : World σ) : Prop where
  tables : Store.SameTables w.store w'.store
  memory : w'.memory = w.memory

namespace World.Untouched

/-- A world is untouched when nothing happens. -/
lemma refl (w : World σ) : Untouched w w := ⟨.refl _, rfl⟩

/-- A world that is left untouched twice is left untouched. -/
lemma trans {u v w : World σ} (h : Untouched u v) (h' : Untouched v w) : Untouched u w :=
  ⟨h.tables.trans h'.tables, h'.memory.trans h.memory⟩

instance : IsTrans (World σ) Untouched := ⟨fun _ _ _ => trans⟩

end World.Untouched

/-- Work on the store that keeps the tables leaves the world untouched. -/
lemma untouched_store {α : Type} {work : StoreAction α} (h : Within Store.SameTables work) :
    Within World.Untouched (Action.store work : Action σ α) :=
  fun w => ⟨h w.store, rfl⟩

/-- Putting an audit event on record leaves the world untouched. -/
lemma Service.untouched_record (svc : Service σ) (event : AuditEvent) :
    Within World.Untouched (svc.record event) := by
  unfold record
  refine Within.bind (fun w => ⟨.refl _, rfl⟩) fun _ => ?_
  exact untouched_store (Store.within_insertAudit event)

/-! ### Ingests that were told of -/

/-- The second world is behind one ingest that was published once, with the number of the chunks
that its record has there. -/
structure World.Announced (w w' : World σ) (event : KnowledgeIngested) : Prop where
  published : w'.memory.bus = (w.memory.bus.publish .ingested event.toJson).1
  counted : (w'.store.chunksOf event.record).length = event.chunkCount

/-- The chunks of the record of a draft are those that the draft has written. -/
lemma Draft.Staging.chunksOf {d : Draft} {chunking : Text.Chunking} {dimension : Nat}
    {fresh : Nat → Id} {now : Instant} {s t : Store} {staged : Staged}
    (h : d.Staging fresh now s staged t) (hs : s.Sound chunking dimension) :
    t.chunksOf staged.record = staged.rows := by
  have hown : ∀ record, (d.rows fresh record).filter (·.record == record) = d.rows fresh record := by
    intro record
    refine List.filter_eq_self.mpr fun c hc => ?_
    exact beq_iff_eq.mpr (Draft.of_mem_rows hc).1
  cases h with
  | created hnone hid hrows =>
    -- No chunk can belong to a record that was not there.
    have hempty : s.chunks.filter (·.record == fresh 0) = [] := by
      refine List.filter_eq_nil_iff.mpr fun c hc hrecord => ?_
      obtain ⟨r, hr, hrid, -⟩ := hs.chunks.owner c hc
      have hfound := hs.keyed.record?_eq_some hr
      rw [hrid, beq_iff_eq.mp hrecord, hid] at hfound
      cases hfound
    change (s.chunks ++ d.rows fresh (fresh 0)).filter (·.record == fresh 0) = _
    rw [List.filter_append, hempty, List.nil_append]
    exact hown (fresh 0)
  | @replaced held hheld hrows =>
    have hempty : (s.chunks.filter (·.record != held.id)).filter (·.record == held.id) = [] := by
      refine List.filter_eq_nil_iff.mpr fun c hc hrecord => ?_
      have hother := (List.mem_filter.mp hc).2
      exact bne_iff_ne.mp hother (beq_iff_eq.mp hrecord)
    change (s.chunks.filter (·.record != held.id) ++ d.rows fresh held.id).filter
      (·.record == held.id) = _
    rw [List.filter_append, hempty, List.nil_append]
    exact hown held.id

/-- A draft that was staged from a sound store is told of with its chunks. -/
lemma Draft.Staging.announced {d : Draft} {chunking : Text.Chunking} {dimension : Nat}
    {fresh : Nat → Id} {now : Instant} {w : World σ} {t : Store} {staged : Staged}
    (h : d.Staging fresh now w.store staged t) (hs : w.store.Sound chunking dimension) :
    w.Announced (w.behind staged t) staged.event where
  published := rfl
  counted := congrArg List.length (h.chunksOf hs)

namespace Service

variable {svc : Service σ} {w : World σ}

/-! ### What a change comes to -/

/-- What a change of an entity can come to before it is audited: its outcome, and the world behind
it.  Only the state outside may have changed when it fails. -/
inductive Attempt (svc : Service σ) (e : RecordChanged) (w : World σ) :
    Except ServiceError ChangeOutcome → World σ → Prop
  | failed (cause : ServiceError) {w' : World σ} (h : w.Untouched w') :
      Attempt svc e w (.error cause) w'
  | noop : Attempt svc e w (.ok .noop) w
  | refreshed {d : Draft} {staged : Staged} {s : Store} (o : σ) (htenant : staged.tenant = e.tenant)
      (h : d.Staging (fun n => svc.fresh (w.drawn + n)) w.now w.store staged s) :
      Attempt svc e w (.ok (.refreshed staged.record staged.rows.length))
        { w.behind staged s with outside := o }
  | deleted (r : Record) : Attempt svc e w (.ok (.deleted r.id))
      { w with
        store := w.store.retired r w.now
        memory := w.memory.without (w.store.chunkIds r.id) }

/-- What refreshing the live record of an entity comes to before it is audited. -/
lemma attempt_refresh {e : RecordChanged} {r : Record}
    (hr : w.store.records.find? (·.isLiveFor e.tenant e.link) = some r) :
    Attempt svc e w (perform (svc.refresh e r) w).1 (perform (svc.refresh e r) w).2 := by
  have hfor := List.find?_some hr
  obtain ⟨-, htenant, -⟩ := Record.isLiveFor_iff.mp hfor
  obtain ⟨o, -, ⟨cause, h⟩ | ⟨d, staged, s, hdt, hde, -, hstaging, h⟩⟩ := svc.perform_refresh e r w
  · rw [h]
    exact .failed cause ⟨.refl _, rfl⟩
  · rw [h]
    have hown : d.tenant = e.tenant := hdt.trans htenant
    -- The draft is about the same entity, so that it replaces the record that was found.
    have htarget : d.target? w.store = some r := Draft.target?_of_linked hr hdt hde
    have hkept := hstaging.of_dropVectors (.inr ⟨r, htarget, rfl⟩)
    exact .refreshed o ((Store.tenant_of_staging hkept).trans hown) hkept

/-- What retiring a record comes to before it is audited. -/
lemma attempt_retire {e : RecordChanged} (r : Record) :
    Attempt svc e w (perform (retire r) w).1 (perform (retire r) w).2 := by
  unfold retire
  rw [perform_bind_of_ok (perform_get w)]
  rcases hwork : perform (retireWork r w.now) w.store with ⟨cause | gone, t⟩
  · rw [perform_bind_of_error (perform_store_of_error hwork),
      Store.perform_transaction_error hwork]
    exact .failed _ (.refl w)
  · rw [perform_bind_of_ok (perform_store_of_ok hwork)]
    obtain ⟨rfl, rfl⟩ := Store.retireWork_eq_ok hwork
    exact .deleted r

/-- What a change of an entity comes to before it is audited. -/
lemma attempt_applyChange (svc : Service σ) (e : RecordChanged) (w : World σ) :
    Attempt svc e w (perform (svc.applyChange e) w).1 (perform (svc.applyChange e) w).2 := by
  unfold applyChange
  rcases hfind : perform (Store.findLinked e.tenant e.link) w.store with ⟨cause | found, t⟩
  · obtain rfl := Store.perform_reading_error hfind
    rw [perform_bind_of_error (perform_store_of_error hfind)]
    exact .failed _ (.refl w)
  · obtain ⟨-, rfl, rfl⟩ := Store.perform_reading_eq_ok.mp hfind
    rw [perform_bind_of_ok (perform_store_of_ok_same hfind)]
    split
    · exact .noop
    · rename_i r hr
      split
      · exact attempt_refresh hr
      · exact attempt_refresh hr
      · exact attempt_retire r

/-! ### Audits -/

/-- Somebody outside keeps a list of the audit events that were handed over: a new one is put at its
end, and looking for the state of an entity leaves it as it is. -/
structure Ledger (svc : Service σ) (handed : σ → List AuditEvent) : Prop where
  audit : ∀ event o, handed (svc.audit event o).2 = handed o ++ [event]
  entity : ∀ tenant link o, handed (svc.entity tenant link o).2 = handed o

/-- Two worlds before and behind which the same audit events were handed over. -/
def SameHanded (handed : σ → List AuditEvent) (w w' : World σ) : Prop :=
  handed w'.outside = handed w.outside

instance (handed : σ → List AuditEvent) : Std.Refl (SameHanded handed) := ⟨fun _ => rfl⟩

instance (handed : σ → List AuditEvent) : IsTrans (World σ) (SameHanded handed) :=
  ⟨fun _ _ _ h h' => h'.trans h⟩

/-- Refreshing a record hands no audit event over. -/
lemma Ledger.refresh {handed : σ → List AuditEvent} (h : svc.Ledger handed) (e : RecordChanged)
    (r : Record) : Within (SameHanded handed) (svc.refresh e r) := by
  intro w
  have hasked : ∀ o, o = w.outside ∨ o = (svc.entity e.tenant e.link w.outside).2 →
      handed o = handed w.outside := by
    rintro o (rfl | rfl)
    · rfl
    · exact h.entity _ _ _
  obtain ⟨o, ho, ⟨cause, hperform⟩ | ⟨d, staged, s, -, -, -, -, hperform⟩⟩ :=
    svc.perform_refresh e r w
  · rw [stateAfter_eq hperform]
    exact hasked o ho
  · rw [stateAfter_eq hperform]
    exact hasked o ho

/-- A change hands no audit event over before it is audited. -/
lemma Ledger.applyChange {handed : σ → List AuditEvent} (h : svc.Ledger handed)
    (e : RecordChanged) : Within (SameHanded handed) (svc.applyChange e) := by
  have hretire : ∀ r, Within (SameHanded handed) (retire r : Action σ ChangeOutcome) := by
    intro r
    unfold retire
    exact Within.bind Within.get fun w => Within.bind (fun _ => rfl) fun _ =>
      Within.bind (fun _ => rfl) fun _ => Within.pure _
  unfold Service.applyChange
  refine Within.bind (fun w => rfl) fun found => ?_
  split
  · exact Within.pure _
  · split
    · exact h.refresh e _
    · exact h.refresh e _
    · exact hretire _

/-- The audit event of a change that is handled. -/
def toldOf (svc : Service σ) (e : RecordChanged) (w : World σ) : AuditEvent :=
  let w' := stateAfter (svc.applyChange e) w
  e.auditEvent (svc.fresh w'.drawn) (perform (svc.applyChange e) w).1 w.now w'.now

/-- The world in which the audit event of a change is handed over. -/
def beforeAudit (svc : Service σ) (e : RecordChanged) (w : World σ) : World σ :=
  let w' := stateAfter (svc.applyChange e) w
  { w' with drawn := w'.drawn + 1 }

/-- The audit sink accepts the event of a change. -/
def AcceptsAudit (svc : Service σ) (e : RecordChanged) (w : World σ) : Prop :=
  (perform (svc.record (svc.toldOf e w)) (svc.beforeAudit e w)).1 = .ok ()

/-- What becomes of the outcome of a change when its audit has an outcome of its own. -/
def answerOf : Except ServiceError ChangeOutcome → Except ServiceError Unit →
    Except ServiceError ChangeOutcome
  | .ok _, .error cause => .error cause
  | result, _ => result

/-- Handling a change comes to the attempt, whose outcome is then audited. -/
lemma perform_handleChange (svc : Service σ) (e : RecordChanged) (w : World σ) :
    perform (svc.handleChange e) w =
      (answerOf (perform (svc.applyChange e) w).1
          (perform (svc.record (svc.toldOf e w)) (svc.beforeAudit e w)).1,
        stateAfter (svc.record (svc.toldOf e w)) (svc.beforeAudit e w)) := by
  unfold handleChange
  rw [perform_bind_of_ok (perform_get w), perform_bind_of_ok (perform_outcome _ w),
    perform_bind_of_ok (perform_draw _ _), perform_bind_of_ok (perform_get _),
    perform_bind_of_ok (perform_outcome _ _)]
  set audited := perform (svc.record (svc.toldOf e w)) (svc.beforeAudit e w) with haudited
  -- Nothing happens behind the audit, so that the cases differ in what is returned only.
  dsimp only
  split
  · rename_i cause outcome hrecord hresult
    have hanswer : answerOf (perform (svc.applyChange e) w).1 audited.1 = .error cause := by
      have hrefused : audited.1 = .error cause := hrecord
      rw [hresult, hrefused]
      rfl
    rw [hanswer]
    rfl
  · rename_i outcome hresult hnot
    have hanswer : answerOf (perform (svc.applyChange e) w).1 audited.1 = .ok outcome := by
      rw [hresult]
      rcases hrecord : audited.1 with cause | ⟨⟩
      · exact (hnot cause hrecord).elim
      · rfl
    rw [hanswer]
    rfl
  · rename_i cause hresult
    have hanswer : answerOf (perform (svc.applyChange e) w).1 audited.1 = .error cause := by
      rw [hresult]
      rfl
    rw [hanswer]
    rfl

/-- The world behind a change is that behind its attempt, with nothing touched any more. -/
lemma untouched_audit (svc : Service σ) (e : RecordChanged) (w : World σ) :
    (stateAfter (svc.applyChange e) w).Untouched (stateAfter (svc.handleChange e) w) := by
  have hdrawn : (stateAfter (svc.applyChange e) w).Untouched (svc.beforeAudit e w) :=
    ⟨.refl _, rfl⟩
  rw [stateAfter_eq (svc.perform_handleChange e w)]
  exact hdrawn.trans (svc.untouched_record _ _)

/-- A change that succeeds is an attempt that succeeded. -/
lemma attempt_of_handled {e : RecordChanged} {outcome : ChangeOutcome}
    (h : (perform (svc.handleChange e) w).1 = .ok outcome) :
    (perform (svc.applyChange e) w).1 = .ok outcome := by
  rw [perform_handleChange] at h
  rcases hattempt : (perform (svc.applyChange e) w).1 with cause | outcome'
  · rw [hattempt] at h
    cases h
  · rw [hattempt] at h
    rcases hrefusal : (perform (svc.record (svc.toldOf e w)) (svc.beforeAudit e w)).1 with
      refusal | ⟨⟩
    · rw [hrefusal] at h
      cases h
    · rw [hrefusal] at h
      exact h

/-- When the audit sink accepts its event, a change ends as its attempt. -/
lemma AcceptsAudit.handled {e : RecordChanged} (h : svc.AcceptsAudit e w) :
    (perform (svc.handleChange e) w).1 = (perform (svc.applyChange e) w).1 := by
  unfold AcceptsAudit at h
  rw [perform_handleChange, h]
  rcases (perform (svc.applyChange e) w).1 with cause | outcome <;> rfl

/-- One audit event is handed over when a change is handled. -/
lemma Ledger.handled {handed : σ → List AuditEvent} (h : svc.Ledger handed) (e : RecordChanged)
    (w : World σ) :
    handed (stateAfter (svc.handleChange e) w).outside = handed w.outside ++ [svc.toldOf e w] := by
  have hbefore : handed (svc.beforeAudit e w).outside = handed w.outside := h.applyChange e w
  have hrecord : ∀ event u, handed (stateAfter (svc.record event) u).outside =
      handed u.outside ++ [event] := by
    intro event u
    have hstore : ∀ v : World σ,
        (stateAfter (Action.store (Store.insertAudit event)) v).outside = v.outside := fun v => rfl
    unfold record
    rw [stateAfter_bind, perform_ask]
    rcases haudit : (svc.audit event u.outside).1 with cause | ⟨⟩
    · exact h.audit event u.outside
    · dsimp only
      rw [hstore]
      exact h.audit event u.outside
  rw [stateAfter_eq (svc.perform_handleChange e w), hrecord, hbefore]

end Service

/-! ### Whole writes -/

/-- A label of an audit event agrees with the outcome of a change. -/
def RecordChanged.Agrees (label : String) : Except ServiceError ChangeOutcome → Prop
  | .ok .noop => label = "noop"
  | .ok (.refreshed _ _) => label = "refreshed"
  | .ok (.deleted _) => label = "deleted"
  | .error _ => label = "error"

/-- The audit event of a change agrees with what the change came to. -/
lemma Service.agrees_toldOf (svc : Service σ) (e : RecordChanged) (w : World σ) :
    RecordChanged.Agrees (svc.toldOf e w).outcome (perform (svc.applyChange e) w).1 := by
  change RecordChanged.Agrees (RecordChanged.outcomeLabel (perform (svc.applyChange e) w).1) _
  rcases (perform (svc.applyChange e) w).1 with cause | outcome
  · rfl
  · cases outcome <;> rfl

variable {svc : Service σ} {w : World σ} {e : RecordChanged}
  {result : Except ServiceError ChangeOutcome} {w' : World σ}

/-- An attempt that fails, or that finds no record, leaves the world untouched. -/
lemma Service.Attempt.untouched (h : svc.Attempt e w result w')
    (hresult : (∃ cause, result = .error cause) ∨ result = .ok .noop) : w.Untouched w' := by
  cases h with
  | failed cause h => exact h
  | noop => exact .refl w
  | refreshed o htenant h => simp at hresult
  | deleted r => simp at hresult

/-- An attempt that refreshes a record of a sound store is told of. -/
lemma Service.Attempt.announced (h : svc.Attempt e w result w') (hs : svc.Keeps w.store)
    {record : Id} {n : Nat} (hresult : result = .ok (.refreshed record n)) :
    w.Announced w' ⟨record, e.tenant, n⟩ := by
  cases h with
  | failed cause h => cases hresult
  | noop => cases hresult
  | @refreshed d staged s o htenant h =>
    cases hresult
    obtain ⟨hpublished, hcounted⟩ := h.announced hs
    unfold Staged.event at hpublished
    rw [htenant] at hpublished
    exact ⟨hpublished, hcounted⟩
  | deleted r => cases hresult

/-- What was published about a world stays so when it is left untouched. -/
lemma World.Announced.trans {u v w : World σ} {event : KnowledgeIngested} (h : u.Announced v event)
    (h' : v.Untouched w) : u.Announced w event where
  published := by
    rw [h'.memory]
    exact h.published
  counted := by
    unfold Store.chunksOf
    rw [h'.tables.chunks]
    exact h.counted

/-- In every world that a service reaches from an empty store, and whatever makes a write fail: an
ingest that fails changes nothing; a change that fails although its audit is accepted, or that finds
no record, leaves tables, indexes and bus untouched; every change hands one audit event over, whose
outcome agrees with what the change came to, which is also what is returned unless the audit is
refused; and an ingest or a refresh that succeeds is published once, with the number of chunks that
the record then has. -/
theorem writes_happen_whole {handed : σ → List AuditEvent} (hledger : svc.Ledger handed)
    (hq : svc.Quiet) (hw : Reachable svc w) :
    (∀ req : IngestRequest,
      (∀ cause w', perform (svc.ingest req) w = (.error cause, w') → w' = w) ∧
      ∀ receipt w', perform (svc.ingest req) w = (.ok receipt, w') →
        w.Announced w' ⟨receipt.record, req.tenant, receipt.chunkCount⟩) ∧
    ∀ (e : RecordChanged) (result : Except ServiceError ChangeOutcome) (w' : World σ),
      perform (svc.handleChange e) w = (result, w') →
        (svc.AcceptsAudit e w → ∀ cause, result = .error cause → w.Untouched w') ∧
        (result = .ok .noop → w.Untouched w') ∧
        (∀ record n, (perform (svc.applyChange e) w).1 = .ok (.refreshed record n) →
          w.Announced w' ⟨record, e.tenant, n⟩) ∧
        ∃ event, handed w'.outside = handed w.outside ++ [event] ∧
          event.action = "knowledge.reindex" ∧
          RecordChanged.Agrees event.outcome (perform (svc.applyChange e) w).1 ∧
          (svc.AcceptsAudit e w → result = (perform (svc.applyChange e) w).1) ∧
          ∀ outcome, result = .ok outcome → (perform (svc.applyChange e) w).1 = .ok outcome := by
  have hs := hw.sound hq
  refine ⟨fun req => ⟨?_, ?_⟩, ?_⟩
  · intro cause w' h
    rcases svc.perform_ingest req w with ⟨cause', h'⟩ | ⟨d, staged, s, -, -, -, h'⟩
    · rw [h'] at h
      cases h
      rfl
    · rw [h'] at h
      cases h
  · intro receipt w' h
    rcases svc.perform_ingest req w with ⟨cause', h'⟩ | ⟨d, staged, s, htenant, -, hstaging, h'⟩
    · rw [h'] at h
      cases h
    · rw [h'] at h
      cases h
      have hannounced := hstaging.announced hs
      unfold Staged.event at hannounced
      rw [Store.tenant_of_staging hstaging, htenant] at hannounced
      exact hannounced
  · intro e result w' h
    have hattempt := svc.attempt_applyChange e w
    have hbehind : (stateAfter (svc.applyChange e) w).Untouched w' := by
      rw [← stateAfter_eq h]
      exact svc.untouched_audit e w
    have hresult : (perform (svc.handleChange e) w).1 = result := by rw [h]
    have hhandled : ∀ outcome, result = .ok outcome →
        (perform (svc.applyChange e) w).1 = .ok outcome := by
      intro outcome heq
      exact Service.attempt_of_handled (hresult.trans heq)
    have haccepted : svc.AcceptsAudit e w → result = (perform (svc.applyChange e) w).1 := by
      intro haccepts
      rw [← hresult]
      exact haccepts.handled
    refine ⟨?failed, ?noop, ?refreshed, svc.toldOf e w, ?handed, rfl, svc.agrees_toldOf e w,
      haccepted, hhandled⟩
    case failed =>
      intro haccepts cause heq
      exact (hattempt.untouched (.inl ⟨cause, (haccepted haccepts).symm.trans heq⟩)).trans hbehind
    case noop =>
      intro heq
      exact (hattempt.untouched (.inr (hhandled _ heq))).trans hbehind
    case refreshed =>
      intro record n heq
      exact (hattempt.announced hs heq).trans hbehind
    case handed =>
      rw [← stateAfter_eq h]
      exact hledger.handled e w

/-! ### A service that notes its audit events -/

namespace Service

/-- A service whose audit sink also notes the events that are handed over. -/
def noting (svc : Service σ) : Service (σ × List AuditEvent) where
  config := svc.config
  registry := svc.registry
  fresh := svc.fresh
  embed texts o :=
    let made := svc.embed texts o.1
    ⟨made.outcome, made.meanwhile, made.cancels, (made.outside, o.2)⟩
  permissions p o := svc.permissions p o.1
  redact items o := svc.redact items o.1
  audit event o := ((svc.audit event o.1).1, ((svc.audit event o.1).2, o.2 ++ [event]))
  entity tenant link o :=
    ((svc.entity tenant link o.1).1, ((svc.entity tenant link o.1).2, o.2))

/-- What a service notes of its audit events is what was handed over. -/
lemma ledger_noting (svc : Service σ) : svc.noting.Ledger (·.2) :=
  ⟨fun _ _ => rfl, fun _ _ _ => rfl⟩

/-- A quiet provider is quiet for a service that notes its audit events. -/
lemma Quiet.noting (hq : svc.Quiet) : svc.noting.Quiet := fun texts o s => hq texts o.1 s

/-- A service on its own that notes its audit events. -/
def noted : Service (Unit × List AuditEvent) := (standalone .small).noting

/-- The world of a service on its own that has embedded a note, and whose store from then on refuses
to add chunks. -/
def refusingChunks : World (Unit × List AuditEvent) :=
  let w := [Operation.ingest (.sampleNote "acme" "Call" "Renewal is due."), .embedBacklog].foldl
    (Operation.run noted) (.start noted ⟨0⟩ ((), []))
  { w with store := { w.store with refused := [.insertChunks] } }

/-- That world is reachable. -/
lemma reachable_refusingChunks : Reachable noted refusingChunks :=
  ⟨⟨0⟩, ((), []), (Run.operations _ _ _).tail (.elapse _ _ _ _ [.insertChunks])⟩

end Service

/-- The news that the account of a sample note was changed. -/
def RecordChanged.sample : RecordChanged := ⟨"acme", ⟨"account", "a1"⟩, .updated, none, none⟩

/-- A refresh that fails when the old vectors and chunks of its record are already deleted in its
transaction. -/
theorem writes_happen_whole_refusing :
    let svc := Service.noted
    let w := Service.refusingChunks
    let w' := stateAfter (svc.handleChange .sample) w
    svc.Ledger (·.2) ∧ svc.Quiet ∧ Reachable svc w ∧ svc.AcceptsAudit .sample w ∧
      w.store.vectors.length = 1 ∧ (∃ cause, (perform (svc.handleChange .sample) w).1 = .error cause) ∧
      w.Untouched w' ∧ ∃ event, w'.outside.2 = w.outside.2 ++ [event] ∧
        event.action = "knowledge.reindex" ∧ event.outcome = "error" := by
  intro svc w w'
  have hledger : svc.Ledger (·.2) := Service.ledger_noting _
  have hq : svc.Quiet := (Service.quiet_standalone .small).noting
  have hw : Reachable svc w := Service.reachable_refusingChunks
  obtain ⟨-, hchanges⟩ := writes_happen_whole hledger hq hw
  obtain ⟨hfailed, -, -, event, hhanded, haction, hagrees, hsame, -⟩ :=
    hchanges .sample (perform (svc.handleChange .sample) w).1 w' rfl
  have haccepts : svc.AcceptsAudit .sample w := by
    have hok : (perform (svc.record (svc.toldOf .sample w)) (svc.beforeAudit .sample w)).1.isOk := by
      decide +kernel
    unfold Service.AcceptsAudit
    revert hok
    rcases (perform (svc.record (svc.toldOf .sample w)) (svc.beforeAudit .sample w)).1 with
      cause | ⟨⟩
    · exact fun h => nomatch h
    · exact fun _ => rfl
  have herror : ∃ cause, (perform (svc.handleChange .sample) w).1 = .error cause := by
    have hrefused : (perform (svc.handleChange .sample) w).1.isOk = false := by decide +kernel
    revert hrefused
    rcases (perform (svc.handleChange .sample) w).1 with cause | outcome
    · exact fun _ => ⟨cause, rfl⟩
    · exact fun h => nomatch h
  obtain ⟨cause, hcause⟩ := herror
  rw [← hsame haccepts, hcause] at hagrees
  exact ⟨hledger, hq, hw, haccepts, by decide +kernel, ⟨cause, hcause⟩, hfailed haccepts cause hcause,
    event, hhanded, haction, hagrees⟩

end Dossier
