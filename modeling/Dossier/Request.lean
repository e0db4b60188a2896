import Dossier.Event
import Dossier.Policy

/-!
# Requests

What callers ask for, and how it is read from JSON.
-/

namespace Dossier

/-- The link to an entity that a JSON value stands for. -/
def EntityLink.ofJson (j : Json) : Option EntityLink := do
  let [kind, id] ← j.slots ["entity_kind", "entity_id"] | none
  return ⟨← kind.required Json.asString, ← id.required Json.asString⟩

/-- The link as JSON. -/
def EntityLink.toJson (link : EntityLink) : Json :=
  .obj [("entity_id", .str link.id), ("entity_kind", .str link.kind)]

/-- A text to be kept as a record. -/
structure IngestRequest where
  tenant : String
  sourceKind : SourceKind
  title : String
  content : String
  entity : Option EntityLink
  metadata : Option Json
  owner : Option String

/-- The request that a JSON value stands for. -/
def IngestRequest.ofJson (j : Json) : Option IngestRequest := do
  let [tenant, kind, title, content, entity, metadata, owner] ← j.slots
    ["tenant_id", "source_kind", "title", "raw_content", "entity", "metadata", "owner_id"] | none
  return {
    tenant := ← tenant.required Json.asString
    sourceKind := ← kind.required (Json.asLabel SourceKind.ofLabel?)
    title := ← title.required Json.asString
    content := ← content.required Json.asString
    entity := ← entity.optional EntityLink.ofJson
    metadata := ← metadata.optional Json.asValue
    owner := ← owner.optional Json.asString }

/-- The request as JSON. -/
def IngestRequest.toJson (r : IngestRequest) : Json :=
  .obj [("entity", (r.entity.map EntityLink.toJson).getD .null), ("metadata", r.metadata.getD .null),
    ("owner_id", .str? r.owner), ("raw_content", .str r.content),
    ("source_kind", .str r.sourceKind.label), ("tenant_id", .str r.tenant), ("title", .str r.title)]

/-- A query for the best records of a tenant. -/
structure SearchRequest where
  tenant : String
  query : String
  limit : Option Nat
deriving DecidableEq

/-- The request that a JSON value stands for. -/
def SearchRequest.ofJson (j : Json) : Option SearchRequest := do
  let [tenant, query, limit] ← j.slots ["tenant_id", "query", "limit"] | none
  return {
    tenant := ← tenant.required Json.asString
    query := ← query.required Json.asString
    limit := ← limit.optional (Json.asNat (twoTo 32)) }

/-- The request as JSON. -/
def SearchRequest.toJson (r : SearchRequest) : Json :=
  .obj [("limit", .nat? r.limit), ("query", .str r.query), ("tenant_id", .str r.tenant)]

/-- A query for evidence that a principal may see. -/
structure PackRequest where
  principal : Principal
  query : String
  limit : Option Nat
deriving DecidableEq

/-- The request that a JSON value stands for. -/
def PackRequest.ofJson (j : Json) : Option PackRequest := do
  let [principal, query, limit] ← j.slots ["principal", "query", "limit"] | none
  return {
    principal := ← principal.required Principal.ofJson
    query := ← query.required Json.asString
    limit := ← limit.optional (Json.asNat (twoTo 32)) }

/-- The request as JSON. -/
def PackRequest.toJson (r : PackRequest) : Json :=
  .obj [("limit", .nat? r.limit), ("principal", r.principal.toJson), ("query", .str r.query)]

/-- A request to refresh the linked records of a tenant, all or those of one kind of entity. -/
structure ReindexRequest where
  tenant : String
  entityKind : Option String
  actor : Option String
deriving DecidableEq

/-- The request that a JSON value stands for. -/
def ReindexRequest.ofJson (j : Json) : Option ReindexRequest := do
  let [tenant, kind, actor] ← j.slots ["tenant_id", "entity_kind", "actor"] | none
  return {
    tenant := ← tenant.required Json.asString
    entityKind := ← kind.optional Json.asString
    actor := ← actor.optional Json.asString }

/-- The request as JSON. -/
def ReindexRequest.toJson (r : ReindexRequest) : Json :=
  .obj [("actor", .str? r.actor), ("entity_kind", .str? r.entityKind), ("tenant_id", .str r.tenant)]

end Dossier
