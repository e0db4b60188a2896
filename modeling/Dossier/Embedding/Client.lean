import Dossier.Config.Types
import Dossier.Embedding.Reply
import Dossier.Http.Header
import Dossier.Http.Target
import Dossier.Json.Print

/-!
# The client of an embedding service

A batch of texts is sent as one request, and the reply has to list one vector for every text.  The
exchange itself is a function from requests to replies, so that everything else is decided here.
-/

namespace Dossier.Embedding

/-- A request with a JSON body. -/
structure Request where
  target : String
  headers : Http.Headers
  body : Json

/-- The line that a request begins with. -/
def Request.line (r : Request) : String := "POST " ++ r.target ++ " HTTP/1.1"

/-- A reply. -/
structure Reply where
  status : Nat
  body : String

/-- Why a batch of texts is not embedded. -/
inductive ClientError where
  | badHeader (cause : Http.HeaderError)
  | badAddress
  | unreachable (address : String)
  | badReply
  | useless (cause : ReplyError)
deriving DecidableEq

/-- The wording of a failure. -/
def ClientError.message : ClientError → String
  | badHeader .badName => "invalid HTTP header name"
  | badHeader .badValue => "failed to parse header value"
  | badHeader .notText => "Default header values must be strings."
  | badAddress => "builder error"
  | unreachable address => "error sending request for url (" ++ address ++ ")"
  | badReply => "error decoding response body"
  | useless cause => cause.message

/-- The body of the request that embeds some texts. -/
def requestBody (cfg : EmbeddingConfig) (texts : List String) : Json :=
  .obj [("dimensions", .nat cfg.dimensions), ("input", .arr (texts.map .str)),
    ("model", .str cfg.model)]

/-- The request that embeds some texts. -/
def request (cfg : EmbeddingConfig) (texts : List String) : Except ClientError Request := do
  let headers ← (Http.authorized cfg.apiKey cfg.defaultHeaders).mapError .badHeader
  let some target := Http.target? cfg.path | throw .badAddress
  let headers :=
    if (headers.find? "content-type").isSome then headers
    else headers.insert "content-type" "application/json"
  return { target, headers, body := requestBody cfg texts }

/-- Does a reply of this status report a failure? -/
def isFailure (status : Nat) : Bool := 400 ≤ status && status < 600

/-- Does a reply of this status come without a body? -/
def isBodiless (status : Nat) : Bool := status < 200 || status == 204 || status == 304

/-- The JSON value that a reply carries. -/
def Reply.json? (r : Reply) : Option Json :=
  if isFailure r.status || isBodiless r.status then none else (Json.parse r.body).map Json.canonical

/-- What a reply to a request for `count` vectors comes to. -/
def Reply.vectors (r : Reply) (count : Nat) : Except ClientError (List Vec) :=
  match r.json? with
  | none => .error .badReply
  | some json => (Embedding.vectors count json).mapError .useless

/-- The vectors of some texts in their order.  Nothing is sent when there is no text. -/
def embed (cfg : EmbeddingConfig) (texts : List String) (exchange : Request → Reply) :
    Except ClientError (List Vec) :=
  if texts.isEmpty then .ok []
  else do
    let sent ← request cfg texts
    (exchange sent).vectors texts.length

/-- What becomes of a batch of texts when nobody listens at the address. -/
def unanswered (cfg : EmbeddingConfig) (texts : List String) : Except ClientError (List Vec) :=
  if texts.isEmpty then .ok []
  else do
    let sent ← request cfg texts
    throw (.unreachable (cfg.apiBase ++ sent.target))

end Dossier.Embedding
