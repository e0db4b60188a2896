import Dossier.Http.Body
import Dossier.Http.MediaType
import Dossier.Service.Answer

/-!
# Routes

A service is reached on two surfaces, one for everybody and one for administrators.  A request is
first matched against the paths of its surface, then its body is read, then its token is checked
where one is asked for, and only then is the operation carried out.
-/

namespace Dossier

namespace Http

/-- A request as it comes in. -/
structure Request where
  method : String
  target : String
  contentType : Option String
  authorization : Option String
  body : String

/-- The path of a request: its target without the query. -/
def Request.path (req : Request) : String := String.ofList (req.target.toList.takeWhile (· ≠ '?'))

/-- Does the body of a request claim to be JSON? -/
def Request.isJson (req : Request) : Bool :=
  ((req.contentType.bind visibleText?).bind MediaType.parse).any MediaType.isJson

/-- The token that a request presents. -/
def Request.token? (req : Request) : Option String := do
  let value ← req.authorization.bind visibleText?
  return String.ofList (← Json.afterWord "Bearer " value.toList)

/-- What is sent back; a body is JSON. -/
structure Response where
  status : Nat
  body : Option Json

namespace Response

/-- An answer without a body. -/
def bare (status : Nat) : Response := ⟨status, none⟩

/-- An answer with a body. -/
def ok (body : Json) : Response := ⟨200, some body⟩

/-- A refusal with a code and a text. -/
def refusal (status : Nat) (code message : String) : Response :=
  ⟨status, some (.obj [("error_code", .str code), ("message", .str message)])⟩

/-- The answer to a request that lacks the token. -/
def unauthorized : Response := refusal 401 "UNAUTHORIZED" "Admin token is missing or invalid."

/-- The answer to a body that cannot be read. -/
def ofFault : Json.Fault → Response
  | .malformed => bare 400
  | .misshapen => bare 422

/-- The answer to a request whose operation fails.  Faults inside the service are not told. -/
def ofError (e : ServiceError) : Response :=
  match e with
  | .invalidRequest _ => refusal 422 "INVALID_REQUEST" e.detail
  | .notFound _ => refusal 404 "NOT_FOUND" e.detail
  | .conflict _ => refusal 409 "CONFLICT" e.detail
  | .provider _ => refusal 502 "PROVIDER_ERROR" e.detail
  | .cancelled => refusal 503 "CANCELLED" e.detail
  | .policy _ | .storage _ | .index _ | .overflow => refusal 500 "INTERNAL" "Internal error."

end Response

/-- What can be asked for. -/
inductive Endpoint where
  | health
  | ingest
  | search
  | pack
  | recordChanged
  | reindex
  | rebuild
deriving DecidableEq

namespace Endpoint

/-- Where an endpoint is found. -/
def path : Endpoint → String
  | health => "/health"
  | ingest => "/v1/knowledge/ingest"
  | search => "/v1/search"
  | pack => "/v1/evidence/pack"
  | recordChanged => "/v1/events/record_changed"
  | reindex => "/v1/admin/reindex"
  | rebuild => "/v1/admin/rebuild_indexes"

/-- The methods that an endpoint takes. -/
def methods : Endpoint → List String
  | health => ["GET", "HEAD"]
  | _ => ["POST"]

end Endpoint

/-- The surfaces on which a service is reached. -/
inductive Surface where
  | everybody
  | administrators
deriving DecidableEq

/-- The endpoints of a surface. -/
def Surface.endpoints : Surface → List Endpoint
  | everybody => [.health, .ingest, .search, .pack, .recordChanged]
  | administrators => [.reindex, .rebuild]

/-- The endpoint of a path on a surface. -/
def Surface.endpoint? (surface : Surface) (path : String) : Option Endpoint :=
  surface.endpoints.find? (·.path == path)

end Http

namespace Service

open Http

variable {σ : Type}

/-- The answer that an operation gives, whether it succeeds or fails.  One that is broken off gives
none. -/
def answering {α : Type} (respond : α → Response) (act : Action σ α) : Action σ Response := do
  match ← Action.outcome act with
  | .ok result => return respond result
  | .error .overflow => throw .overflow
  | .error e => return .ofError e

/-- Goes on with the body of a request. -/
def withBody {α : Type} (body : Body α) (req : Request) (act : α → Action σ Response) :
    Action σ Response :=
  if req.isJson then
    match body.read req.body with
    | .ok x => act x
    | .error fault => return .ofFault fault
  else return .bare 415

/-- Does a request show the token that the configuration asks for, if it does? -/
def admits (svc : Service σ) (req : Request) : Bool :=
  match svc.config.security.adminAuthToken with
  | none => true
  | some token => req.token? == some token

/-- Goes on with a request of an administrator. -/
def withToken (svc : Service σ) (req : Request) (act : Action σ Response) : Action σ Response :=
  if svc.admits req then act else return .unauthorized

/-- Hands a change on to those who wait for it, and counts them. -/
def accept (e : RecordChanged) : Action σ Response :=
  if Text.isBlankText e.tenant || Text.isBlankText e.link.kind || Text.isBlankText e.link.id then
    return .refusal 422 "INVALID_REQUEST" "tenant_id, entity_kind and entity_id must be non-empty."
  else
    modifyGet fun w =>
      let (bus, receivers) := w.memory.bus.publish .changed e.toJson
      (⟨202, some (.obj [("receivers", .nat receivers)])⟩,
        { w with memory := { w.memory with bus } })

/-- Answers a request at an endpoint. -/
def serve (svc : Service σ) (req : Request) : Endpoint → Action σ Response
  | .health => return .bare 200
  | .ingest => withBody .ingest req fun r => answering (fun a => .ok a.toJson) (svc.ingest r)
  | .search => withBody .search req fun r => answering (fun a => .ok a.toJson) (svc.search r)
  | .pack => withBody .pack req fun r => answering (fun a => .ok a.toJson) (svc.pack r)
  | .recordChanged => withBody .recordChanged req accept
  | .reindex => withBody .reindex req fun r =>
    svc.withToken req (answering (fun n => .ok (.obj [("queued", .nat n)])) (svc.queueReindex r))
  | .rebuild => svc.withToken req (answering (fun a => .ok a.toJson) rebuild)

/-- Answers a request on a surface. -/
def respond (svc : Service σ) (surface : Surface) (req : Request) : Action σ Response :=
  match surface.endpoint? req.path with
  | none => return .bare 404
  | some endpoint =>
    if endpoint.methods.contains req.method then svc.serve req endpoint else return .bare 405

end Service

end Dossier
