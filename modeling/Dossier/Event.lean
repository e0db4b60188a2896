import Dossier.Json.Decode
import Dossier.Knowledge

/-!
# Events

Two topics carry events: one tells that a record was ingested, the other that a business entity was
changed.  An event travels as JSON; `toJson` writes it and `ofJson` reads it.
-/

namespace Dossier

/-- The topics of the bus. -/
inductive Topic where
  | ingested
  | changed
deriving DecidableEq, Repr

/-- The name of a topic. -/
def Topic.label : Topic → String
  | ingested => "knowledge.ingested"
  | changed => "record.changed"

/-- A record was ingested and its chunks wait for their embedding. -/
structure KnowledgeIngested where
  record : Id
  tenant : String
  chunkCount : Nat
deriving DecidableEq

namespace KnowledgeIngested

/-- The event as JSON. -/
def toJson (e : KnowledgeIngested) : Json :=
  .obj [("chunk_count", .nat e.chunkCount), ("record_id", .str e.record.text),
    ("tenant_id", .str e.tenant)]

/-- The event that a JSON value stands for. -/
def ofJson (j : Json) : Option KnowledgeIngested := do
  let [record, tenant, count] ← j.slots ["record_id", "tenant_id", "chunk_count"] | none
  return {
    record := ← record.required Json.asId
    tenant := ← tenant.required Json.asString
    chunkCount := ← count.required (Json.asNat (twoTo 32)) }

end KnowledgeIngested

/-- What happened to an entity. -/
inductive ChangeOp where
  | created
  | updated
  | deleted
deriving DecidableEq, Repr

namespace ChangeOp

/-- The label of a change. -/
def label : ChangeOp → String
  | created => "created"
  | updated => "updated"
  | deleted => "deleted"

/-- All changes. -/
def all : List ChangeOp := [created, updated, deleted]

/-- The change with a given label. -/
def ofLabel? (s : String) : Option ChangeOp := all.find? (·.label == s)

end ChangeOp

/-- A business entity was changed.  The event may carry the state of the entity. -/
structure RecordChanged where
  tenant : String
  link : EntityLink
  op : ChangeOp
  snapshot : Option Json
  actor : Option String

namespace RecordChanged

/-- A field that is there when it has a value. -/
def fieldOf (name : String) : Option Json → List (String × Json)
  | some value => [(name, value)]
  | none => []

/-- The event as JSON. -/
def toJson (e : RecordChanged) : Json :=
  .obj (fieldOf "actor" (e.actor.map .str) ++ [("entity_id", .str e.link.id),
    ("entity_kind", .str e.link.kind), ("op", .str e.op.label)] ++ fieldOf "snapshot" e.snapshot ++
    [("tenant_id", .str e.tenant)])

/-- The event that a JSON value stands for. -/
def ofJson (j : Json) : Option RecordChanged := do
  let [tenant, kind, id, op, snapshot, actor] ←
    j.slots ["tenant_id", "entity_kind", "entity_id", "op", "snapshot", "actor"] | none
  return {
    tenant := ← tenant.required Json.asString
    link := ⟨← kind.required Json.asString, ← id.required Json.asString⟩
    op := ← op.required (Json.asLabel ChangeOp.ofLabel?)
    snapshot := ← snapshot.optional Json.asValue
    actor := ← actor.optional Json.asString }

end RecordChanged

end Dossier
