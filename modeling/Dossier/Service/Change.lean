import Dossier.Service.Ingest
import Dossier.Store.Vectors

/-!
# Following business entities

When an entity changes, the record that is about it is refreshed or deleted, and the attempt is
audited whichever way it ends.  A whole tenant is refreshed by publishing one change for every
linked record.
-/

namespace Dossier

/-- What handling a change comes to. -/
inductive ChangeOutcome where
  | noop
  | refreshed (record : Id) (chunkCount : Nat)
  | deleted (record : Id)
deriving DecidableEq

namespace ChangeOutcome

/-- The label of an outcome. -/
def label : ChangeOutcome → String
  | noop => "noop"
  | refreshed _ _ => "refreshed"
  | deleted _ => "deleted"

/-- The record that was refreshed or deleted. -/
def record? : ChangeOutcome → Option Id
  | noop => none
  | refreshed record _ => some record
  | deleted record => some record

end ChangeOutcome

namespace RecordChanged

/-- The action under which changes are audited. -/
def auditAction : String := "knowledge.reindex"

/-- Who acts when nobody is named. -/
def systemActor : String := "system"

/-- How the outcome of a change is audited. -/
def outcomeLabel : Except ServiceError ChangeOutcome → String
  | .ok outcome => outcome.label
  | .error _ => "error"

/-- What an audit tells of an outcome. -/
def outcomeDetails : Except ServiceError ChangeOutcome → List (String × Json)
  | .ok outcome => outcome.record?.toList.map fun record => ("record_id", .str record.text)
  | .error e => [("error", .str e.message)]

/-- The audit event that tells how a change was handled. -/
def auditEvent (e : RecordChanged) (id : Id) (result : Except ServiceError ChangeOutcome)
    (started now : Instant) : AuditEvent where
  id
  tenant := e.tenant
  actor := e.actor.getD systemActor
  action := auditAction
  entityRef := some e.link.ref
  outcome := outcomeLabel result
  details := (Json.obj (outcomeDetails result ++ [("op", .str e.op.label),
    ("latency_ms", .int ((now.since started).fdiv 1000000))])).canonical
  createdAt := now

/-- The change that asks for a linked record to be refreshed. -/
def refreshing (tenant : String) (link : EntityLink) (actor : Option String) : RecordChanged :=
  ⟨tenant, link, .updated, none, actor⟩

end RecordChanged

namespace Service

variable {σ : Type}

/-- The title and the text that a record gets: those of the state in the event, or else of the state
that the source of entities knows, or else those that it has. -/
def textFor (svc : Service σ) (e : RecordChanged) (r : Record) : Action σ (String × String) := do
  let state ← match e.snapshot with
    | some state => pure (some state)
    | none => Action.ask (svc.entity e.tenant e.link)
  match state with
  | none => return (r.content.title, r.content.raw)
  | some state =>
    match svc.registry.render e.link.kind state with
    | .ok out => return (out.title, out.body)
    | .error cause => throw (.invalidRequest (.unrenderable cause))

/-- The request that refreshes a record with a title and a text. -/
def refreshRequest (link : EntityLink) (r : Record) (text : String × String) : IngestRequest where
  tenant := r.tenant
  sourceKind := (SourceKind.ofLabel? r.content.sourceKind).getD .entity
  title := text.1
  content := text.2
  entity := some link
  metadata := some r.content.metadata
  owner := r.content.owner

/-- Replaces the content, the chunks and the vectors of a record. -/
def refresh (svc : Service σ) (e : RecordChanged) (r : Record) : Action σ ChangeOutcome := do
  let req := refreshRequest e.link r (← svc.textFor e r)
  match req.draft svc.config.chunking with
  | .error fault => throw (.invalidRequest fault)
  | .ok d =>
    let staged ← svc.staging d do
      let _ ← Store.deleteVectors r.id
    let receipt ← finish staged
    return .refreshed receipt.record receipt.chunkCount

/-- Deletes a record with its chunks and vectors from the store and gives the chunks. -/
def retireWork (r : Record) (now : Instant) : StoreAction (List Id) :=
  Store.transaction do
    let chunks ← Store.listChunks r.id
    let _ ← Store.deleteVectors r.id
    let _ ← Store.deleteChunks r.id
    let _ ← Store.deleteRecord r.tenant r.id now
    return chunks.map (·.id)

/-- Deletes a record with its chunks and vectors. -/
def retire (r : Record) : Action σ ChangeOutcome := do
  let gone ← Action.store (retireWork r (← get).now)
  Action.onMemory fun m =>
    { m with lexical := m.lexical.remove gone, vectors := m.vectors.remove gone }
  return .deleted r.id

/-- Handles a change without auditing it. -/
def applyChange (svc : Service σ) (e : RecordChanged) : Action σ ChangeOutcome := do
  match ← Action.store (Store.findLinked e.tenant e.link) with
  | none => return .noop
  | some r =>
    match e.op with
    | .created | .updated => svc.refresh e r
    | .deleted => retire r

/-- Handles a change and audits the attempt.  When both fail, the error is that of the change. -/
def handleChange (svc : Service σ) (e : RecordChanged) : Action σ ChangeOutcome := do
  let started := (← get).now
  let result ← Action.outcome (svc.applyChange e)
  let id ← Action.draw svc.fresh
  let audited ← Action.outcome (svc.record (e.auditEvent id result started (← get).now))
  match audited, result with
  | .error cause, .ok _ => throw cause
  | _, .ok outcome => return outcome
  | _, .error cause => throw cause

/-! ### Whole tenants -/

/-- Publishes the change that refreshes a linked record. -/
def publishRefresh (actor : Option String) (r : Record) : Action σ Unit :=
  match r.link? with
  | some link => publish .changed (RecordChanged.refreshing r.tenant link actor).toJson
  | none => pure ()

/-- Publishes a change for every linked record behind an identifier, a page after the other, and
counts them onto `queued`; there are at most `pages` pages. -/
def queuePages (req : ReindexRequest) (size : Nat) :
    Nat → Option Id → Nat → Action σ Nat
  | 0, _, queued => return queued
  | pages + 1, after, queued => do
    let page ← Action.store (Store.listLinked req.tenant req.entityKind after size)
    page.forM (publishRefresh req.actor)
    let queued := queued + page.length
    match page.getLast? with
    | some last =>
      if page.length = size then queuePages req size pages (some last.id) queued
      else return queued
    | none => return queued

/-- Publishes a change for every live linked record of a tenant, and counts them. -/
def queueReindex (svc : Service σ) (req : ReindexRequest) : Action σ Nat := do
  if Text.isBlankText req.tenant then throw (.invalidRequest .blankTenant)
  else
    let pages := (← get).store.records.length + 1
    queuePages req (max svc.config.reindex.batchSize 1) pages none 0

end Service

end Dossier
