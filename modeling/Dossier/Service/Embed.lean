import Dossier.Service.World
import Dossier.Store.Chunks
import Dossier.Store.Records
import Dossier.Store.Vectors
import Dossier.Text.Masking

/-!
# Embedding chunks

The pending chunks of a record are sent to the provider as one batch, which is tried again when it
fails.  A batch that succeeds is committed in one transaction, in which only those chunks count that
are still pending; when the last try fails, the chunks that are still pending are marked as failed.
-/

namespace Dossier

/-- What embedding a record comes to.  Chunks are skipped that have ceased to be pending. -/
inductive EmbedOutcome where
  | nothingPending
  | embedded (embedded skipped : Nat)
deriving DecidableEq

/-- What a pass over the backlog comes to. -/
structure BacklogReport where
  requeuedFailed : Nat := 0
  records : Nat := 0
  embeddedChunks : Nat := 0
  failedRecords : Nat := 0
deriving DecidableEq

/-- The vectors of a reply if there is one of the right dimension for every text. -/
def checkBatch (dimension expected : Nat) (vs : List Vec) : Except ProviderFault (List Vec) :=
  if vs.length ≠ expected then .error (.wrongCount vs.length expected)
  else match vs.find? fun v => v.length != dimension with
    | some bad => .error (.wrongDimension bad.length dimension)
    | none => .ok vs

namespace Store

/-- Marks chunks as embedded and writes their vectors, passing over those that are not pending, and
gives the chunks that were written. -/
def writeEach (tenant version : String) :
    List (StoredChunk × Vec) → StoreAction (List (Id × Vec))
  | [] => pure []
  | (chunk, v) :: rest => do
    if ← markEmbedded chunk.id then
      writeVector chunk.id tenant version v
      return (chunk.id, v) :: (← writeEach tenant version rest)
    else writeEach tenant version rest

/-- Commits the vectors of a batch, and notes that its record was indexed if any vector counted. -/
def commitBatch (tenant : String) (record : Id) (version : String) (now : Instant)
    (batch : List (StoredChunk × Vec)) : StoreAction (List (Id × Vec)) :=
  transaction do
    let written ← writeEach tenant version batch
    if !written.isEmpty then markIndexed record now
    return written

end Store

/-- A vector index with some vectors put in place. -/
def VectorIndex.upsertAll (index : VectorIndex) (entries : List (Id × Vec)) :
    Except VectorIndex.Mismatch VectorIndex :=
  entries.foldlM (fun index (chunk, v) => index.upsert chunk v) index

namespace Service

variable {σ : Type}

/-- The version of the vectors that a service writes. -/
def version (svc : Service σ) : String :=
  let e := svc.config.embedding
  e.providerId ++ ":" ++ e.model ++ ":" ++ toString e.dimensions

/-- Makes one call to the provider. -/
def call (svc : Service σ) (texts : List String) : Action σ (Except ServiceError (List Vec)) :=
  modifyGet fun w =>
    let made := svc.embed texts w.outside
    (made.outcome, { w with
      store := made.meanwhile w.store
      cancelled := w.cancelled || made.cancels
      outside := made.outside })

/-- Makes one call to the provider, unless the operation was given up before: then the call is begun
and dropped at once. -/
def callUnlessCancelled (svc : Service σ) (texts : List String) :
    Action σ (Except ServiceError (List Vec)) := do
  let w ← get
  if w.cancelled then
    set { w with outside := (svc.embed texts w.outside).outside }
    return .error .cancelled
  else svc.call texts

/-- The vectors of a reply, checked. -/
def checked (svc : Service σ) (expected : Nat) (reply : Except ServiceError (List Vec)) :
    Except ServiceError (List Vec) := do
  let vs ← reply
  (checkBatch svc.config.embedding.dimensions expected vs).mapError .provider

/-- Tries to embed texts, and `more` times again as long as it fails and is not given up. -/
def tryEmbed (svc : Service σ) (texts : List String) : Nat → Action σ (List Vec)
  | 0 => do
    match svc.checked texts.length (← svc.callUnlessCancelled texts) with
    | .ok vs => return vs
    | .error e => throw e
  | more + 1 => do
    match svc.checked texts.length (← svc.callUnlessCancelled texts) with
    | .ok vs => return vs
    | .error _ =>
      if (← get).cancelled then throw .cancelled
      else tryEmbed svc texts more

/-- How often a batch is tried again. -/
def retries (svc : Service σ) : Nat := svc.config.embedder.maxAttempts - 1

/-- Commits the vectors of a batch and takes them into the index. -/
def commit (svc : Service σ) (tenant : String) (record : Id) (batch : List StoredChunk)
    (vs : List Vec) : Action σ EmbedOutcome := do
  let now := (← get).now
  let written ← Action.store
    (Store.commitBatch tenant record svc.version now (batch.zip vs))
  match (← get).memory.vectors.upsertAll written with
  | .ok vectors =>
    Action.onMemory fun m => { m with vectors }
    return .embedded written.length (batch.length - written.length)
  | .error mismatch => throw (.index mismatch)

/-- Marks the chunks of a batch as failed, with the text of the error. -/
def fail (batch : List StoredChunk) (e : ServiceError) : Action σ Unit := do
  let _ ← Action.store (Store.markFailed (batch.map (·.id)) (Text.maskCredentials e.message))

/-- Embeds the pending chunks of a record of a tenant. -/
def embedRecord (svc : Service σ) (tenant : String) (record : Id) : Action σ EmbedOutcome := do
  let batch ← Action.store (Store.listPending tenant record)
  if batch.isEmpty then return .nothingPending
  else
    match ← Action.outcome (svc.tryEmbed (batch.map (·.text)) svc.retries) with
    | .ok vs => svc.commit tenant record batch vs
    | .error e =>
      fail batch e
      throw e

/-- Embeds records one after the other.  A record that fails does not hold up the others. -/
def embedEach (svc : Service σ) : BacklogReport → List Record → Action σ BacklogReport
  | report, [] => return report
  | report, r :: rest => do
    if (← get).cancelled then throw .cancelled
    let report := { report with records := report.records + 1 }
    match ← Action.outcome (svc.embedRecord r.tenant r.id) with
    | .ok .nothingPending => svc.embedEach report rest
    | .ok (.embedded n _) =>
      svc.embedEach { report with embeddedChunks := report.embeddedChunks + n } rest
    | .error .cancelled => throw .cancelled
    | .error _ => svc.embedEach { report with failedRecords := report.failedRecords + 1 } rest

/-- Makes failed chunks pending again and embeds every record that has pending chunks. -/
def embedBacklog (svc : Service σ) : Action σ BacklogReport := do
  let requeued ← Action.store Store.requeueFailed
  let targets ← Action.store Store.listUnembedded
  svc.embedEach { requeuedFailed := requeued } targets

end Service

end Dossier
