import Dossier.Evidence.Rules
import Dossier.Id
import Dossier.Json.Print
import Dossier.Knowledge

/-!
# What a store holds

A store holds records, the chunks of their texts, the vectors of these chunks, the evidence that was
handed out and the audit events.  Every table is a list in the order of insertion.  `Store.record?`
and `Store.liveChunks` are the views that the statements are built on.
-/

namespace Dossier

/-- A value as it reads back from its text. -/
def Json.reread (j : Json) : Json := ((Json.parse j.print).map Json.canonical).getD j

/-- The part of a record that is written anew when the record is replaced. -/
structure RecordContent where
  sourceKind : String
  title : String
  raw : String
  normalized : String
  hash : String
  owner : Option String
  metadata : Json

/-- A record.  It is live until it is deleted, and a deleted record stays in the store. -/
structure Record where
  id : Id
  tenant : String
  content : RecordContent
  entityKind : Option String
  entityId : Option String
  deletedAt : Option Instant
  createdAt : Instant
  updatedAt : Instant
  indexedAt : Option Instant

namespace Record

/-- Is the record live? -/
def live (r : Record) : Bool := r.deletedAt.isNone

/-- The entity that the record is about, if both parts of the link are there. -/
def link? (r : Record) : Option EntityLink := do return ⟨← r.entityKind, ← r.entityId⟩

/-- Is this the live record of a tenant for an entity? -/
def isLiveFor (r : Record) (tenant : String) (link : EntityLink) : Bool :=
  r.live && r.tenant == tenant && r.link? == some link

end Record

/-- A chunk of the text of a record. -/
structure StoredChunk where
  id : Id
  record : Id
  index : Int
  start : Int
  stop : Int
  text : String
  tokenCount : Int
  status : EmbeddingStatus
  lastError : Option String
deriving DecidableEq

/-- The vector of a chunk for a tenant.  A greater number was written later. -/
structure StoredVector where
  seq : Nat
  chunk : Id
  tenant : String
  version : String
  dimension : Nat
  text : String
deriving DecidableEq

/-- A piece of evidence that was handed out in a pack. -/
structure EvidenceEntry where
  id : Id
  pack : Id
  tenant : String
  record : Id
  chunk : Id
  method : String
  score : Single
  snippet : Option String
  redacted : Bool

/-- Who did what, and how it ended. -/
structure AuditEvent where
  id : Id
  tenant : String
  actor : String
  action : String
  entityRef : Option String
  outcome : String
  details : Json
  createdAt : Instant

/-- A chunk together with its record. -/
structure ChunkContext where
  chunk : StoredChunk
  record : Record

/-- The statements that a store carries out. -/
inductive Statement where
  | insertRecord
  | updateRecord
  | readRecord
  | findLinked
  | markIndexed
  | deleteRecord
  | listLinked
  | listUnembedded
  | insertChunks
  | readChunks
  | listPending
  | deleteChunks
  | markEmbedded
  | markFailed
  | requeue
  | readContexts
  | listLive
  | writeVector
  | deleteVectors
  | readVectors
  | listVectors
  | insertEvidence
  | readEvidence
  | insertAudit
  | readAudits
  | commit
deriving DecidableEq, Repr

/-- All that is kept: the tables, the number of the last vector that was ever written, and the
statements that are refused for the time being. -/
structure Store where
  records : List Record := []
  chunks : List StoredChunk := []
  vectors : List StoredVector := []
  evidence : List EvidenceEntry := []
  audits : List AuditEvent := []
  lastSeq : Nat := 0
  refused : List Statement := []

namespace Store

/-- The record of an identifier. -/
def record? (s : Store) (id : Id) : Option Record := s.records.find? (·.id == id)

/-- The chunk of an identifier. -/
def chunk? (s : Store) (id : Id) : Option StoredChunk := s.chunks.find? (·.id == id)

/-- The chunks of a record. -/
def chunksOf (s : Store) (record : Id) : List StoredChunk := s.chunks.filter (·.record == record)

/-- A chunk with its record, if the record is live. -/
def context? (s : Store) (chunk : StoredChunk) : Option ChunkContext :=
  match s.record? chunk.record with
  | some record => if record.live then some ⟨chunk, record⟩ else none
  | none => none

/-- All chunks of live records. -/
def liveChunks (s : Store) : List ChunkContext := s.chunks.filterMap s.context?

end Store

end Dossier
