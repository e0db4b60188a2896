import Dossier.Json.Shape
import Dossier.Request

/-!
# Bodies of requests

A body is read in one pass: the first fault that is met decides, and a body without one gives a
request.
-/

namespace Dossier.Http

/-- How the body of a request is read. -/
structure Body (α : Type) where
  shape : Json.Shape
  ofJson : Json → Option α

namespace Body

/-- The request that a text stands for. -/
def read {α : Type} (body : Body α) (text : String) : Except Json.Fault α := do
  let value ← body.shape.parse text
  match body.ofJson value with
  | some request => .ok request
  | none => .error .misshapen

/-- A field that has to be there. -/
def required (name : String) (shape : Json.Shape) : String × Bool × Json.Shape := (name, true, shape)

/-- A field that may be null or missing. -/
def optional (name : String) (shape : Json.Shape) : String × Bool × Json.Shape :=
  (name, false, .optional shape)

/-- A link to an entity. -/
def entityShape : Json.Shape :=
  .record [required "entity_kind" .text, required "entity_id" .text]

/-- A principal. -/
def principalShape : Json.Shape :=
  .record [required "tenant_id" .text, required "user_id" .text, ("roles", false, .list .text)]

/-- A text to be kept. -/
def ingest : Body IngestRequest where
  shape := .record [required "tenant_id" .text,
    required "source_kind" (.label fun s => (SourceKind.ofLabel? s).isSome),
    required "title" .text, required "raw_content" .text, optional "entity" entityShape,
    optional "metadata" .any, optional "owner_id" .text]
  ofJson := IngestRequest.ofJson

/-- A query. -/
def search : Body SearchRequest where
  shape := .record [required "tenant_id" .text, required "query" .text, optional "limit" .count]
  ofJson := SearchRequest.ofJson

/-- A query for evidence. -/
def pack : Body PackRequest where
  shape := .record [required "principal" principalShape, required "query" .text,
    optional "limit" .count]
  ofJson := PackRequest.ofJson

/-- A change of an entity. -/
def recordChanged : Body RecordChanged where
  shape := .record [required "tenant_id" .text, required "entity_kind" .text,
    required "entity_id" .text, required "op" (.label fun s => (ChangeOp.ofLabel? s).isSome),
    optional "snapshot" .any, optional "actor" .text]
  ofJson := RecordChanged.ofJson

/-- A tenant to be refreshed. -/
def reindex : Body ReindexRequest where
  shape := .record [required "tenant_id" .text, optional "entity_kind" .text, optional "actor" .text]
  ofJson := ReindexRequest.ofJson

end Body

end Dossier.Http
