import Dossier.Digest.Blake3
import Dossier.Request
import Dossier.Service.World
import Dossier.Store.Chunks
import Dossier.Store.Records
import Dossier.Text.Chunk
import Dossier.Text.Content

/-!
# Ingesting texts

A text becomes a record with chunks.  A text about an entity that has a live record replaces the
content and the chunks of that record.  All that goes into the store does so in one transaction; the
indexes and the bus follow when it has succeeded.
-/

namespace Dossier

/-- A request worked out: the content of the record and the chunks of the text. -/
structure Draft where
  tenant : String
  entity : Option EntityLink
  content : RecordContent
  pieces : List Text.Chunk

/-- The first number that no part of a chunk may reach. -/
def chunkBound : Nat := twoTo 31

/-- The first part of a chunk that is out of range. -/
def Text.Chunk.excess? (piece : Text.Chunk) : Option String :=
  if chunkBound ≤ piece.start then some "start_offset"
  else if chunkBound ≤ piece.stop then some "end_offset"
  else if chunkBound ≤ piece.tokenCount then some "token_count"
  else none

namespace IngestRequest

/-- What is wrong with a request. -/
def fault? (req : IngestRequest) : Option RequestFault :=
  if Text.isBlankText req.tenant then some .blankTenant
  else if req.entity.any fun link => Text.isBlankText link.kind || Text.isBlankText link.id then
    some .blankEntity
  else match req.metadata with
    | some (.obj _) | none => none
    | some _ => some .metadataNotObject

/-- The content of the record that a request makes. -/
def recordContent (req : IngestRequest) : RecordContent where
  sourceKind := req.sourceKind.label
  title := req.title
  raw := req.content
  normalized := Text.normalizeString req.content
  hash := Digest.Blake3.hex req.content
  owner := req.owner
  metadata := req.metadata.getD (.obj [])

/-- How a configuration cuts texts. -/
def chunking (cfg : ChunkingConfig) : Text.Chunking := ⟨cfg.windowTokens, cfg.overlapTokens⟩

/-- The request worked out. -/
def draft (cfg : ChunkingConfig) (req : IngestRequest) : Except RequestFault Draft :=
  let pieces := Text.chunks (chunking cfg) req.content.toList
  match req.fault?, pieces.findSome? Text.Chunk.excess? with
  | some fault, _ => .error fault
  | none, some part => .error (.chunkOutOfRange part)
  | none, none => .ok ⟨req.tenant, req.entity, req.recordContent, pieces⟩

end IngestRequest

/-- What an ingest has written: the record, its chunks, and the chunks that they replace. -/
structure Staged where
  tenant : String
  record : Id
  rows : List StoredChunk
  replaced : List Id
  created : Bool

namespace Draft

/-- The row of a chunk, pending. -/
def row (record : Id) (id : Id) (piece : Text.Chunk) : StoredChunk where
  id
  record
  index := piece.index
  start := piece.start
  stop := piece.stop
  text := String.ofList piece.text
  tokenCount := piece.tokenCount
  status := .pending
  lastError := none

/-- The rows of the chunks, which get the identifiers `fresh 1`, `fresh 2`, … -/
def rows (d : Draft) (fresh : Nat → Id) (record : Id) : List StoredChunk :=
  d.pieces.mapIdx fun i piece => row record (fresh (i + 1)) piece

/-- The record that a draft makes. -/
def record (d : Draft) (id : Id) (now : Instant) : Record where
  id
  tenant := d.tenant
  content := d.content
  entityKind := d.entity.map (·.kind)
  entityId := d.entity.map (·.id)
  deletedAt := none
  createdAt := now
  updatedAt := now
  indexedAt := none

/-- The live record that a draft replaces. -/
def target (d : Draft) : StoreAction (Option Record) :=
  match d.entity with
  | some link => Store.findLinked d.tenant link
  | none => pure none

/-- Writes a draft into the store.  A new record gets the identifier `fresh 0`. -/
def stage (d : Draft) (fresh : Nat → Id) (now : Instant) : StoreAction Staged := do
  match ← d.target with
  | some held =>
    let old ← Store.listChunks held.id
    let _ ← Store.deleteChunks held.id
    Store.updateRecord held.tenant held.id d.content now
    Store.insertChunks (d.rows fresh held.id)
    return ⟨d.tenant, held.id, d.rows fresh held.id, old.map (·.id), false⟩
  | none =>
    Store.insertRecord (d.record (fresh 0) now)
    Store.insertChunks (d.rows fresh (fresh 0))
    return ⟨d.tenant, fresh 0, d.rows fresh (fresh 0), [], true⟩

end Draft

/-- What the caller of an ingest learns. -/
structure Receipt where
  record : Id
  chunkCount : Nat
  created : Bool
deriving DecidableEq

namespace Staged

/-- The event that tells of an ingest. -/
def event (staged : Staged) : KnowledgeIngested := ⟨staged.record, staged.tenant, staged.rows.length⟩

/-- The receipt of an ingest. -/
def receipt (staged : Staged) : Receipt := ⟨staged.record, staged.rows.length, staged.created⟩

/-- The lexical index with one more row. -/
def index (staged : Staged) (lexical : LexicalIndex) (row : StoredChunk) : LexicalIndex :=
  lexical.add row.id staged.record staged.tenant row.text

/-- The memory of a process brought up to date with an ingest. -/
def applyTo (staged : Staged) (m : Memory) : Memory :=
  { m with
    lexical := staged.rows.foldl staged.index (m.lexical.remove staged.replaced)
    vectors := m.vectors.remove staged.replaced }

end Staged

namespace Service

variable {σ : Type}

/-- Runs a transaction that stages a draft, with the identifiers that it needs. -/
def staging (svc : Service σ) (d : Draft) (before : StoreAction Unit) : Action σ Staged := do
  let w ← get
  let staged ← Action.store (Store.transaction do
    before
    d.stage (fun n => svc.fresh (w.drawn + n)) w.now)
  modify fun w => { w with drawn := w.drawn + staged.rows.length + 1 }
  return staged

/-- Brings the process up to date with an ingest and tells of it. -/
def finish (staged : Staged) : Action σ Receipt := do
  Action.onMemory staged.applyTo
  publish .ingested staged.event.toJson
  return staged.receipt

/-- Makes a text a record, or the new content of the record that its entity has. -/
def ingest (svc : Service σ) (req : IngestRequest) : Action σ Receipt := do
  match req.draft svc.config.chunking with
  | .error fault => throw (.invalidRequest fault)
  | .ok d => finish (← svc.staging d (pure ()))

end Service

end Dossier
