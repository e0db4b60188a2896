import Dossier.Json.Decode

/-!
# Configuration

The settings of a service and their standard values.  A configuration is read from a value whose
missing parts take their standard values.
-/

namespace Dossier

/-- Where a process listens and what it logs. -/
structure ListenConfig where
  httpBind : String
  adminBind : String
  logLevel : String

/-- Where the store lies. -/
structure StoreConfig where
  dsn : String
  maxConnections : Nat

/-- How texts are embedded. -/
structure EmbeddingConfig where
  providerId : String
  apiBase : String
  apiKey : String
  path : String
  model : String
  dimensions : Nat
  timeoutMs : Nat
  defaultHeaders : List (String × Json)

/-- How texts are cut into chunks. -/
structure ChunkingConfig where
  windowTokens : Nat := 512
  overlapTokens : Nat := 50

/-- How often an embedding is tried. -/
structure EmbedderConfig where
  maxAttempts : Nat := 3
  baseBackoffMs : Nat := 100

/-- How searches are run. -/
structure SearchConfig where
  lexicalK : Nat := 50
  vectorK : Nat := 50
  rrfK : Nat := 60
  maxChunksPerHit : Nat := 5

/-- How evidence is chosen. -/
structure EvidenceConfig where
  topK : Nat := 10
  candidateK : Nat := 40
  dedupThreshold : Single := Binary.ofRatio 95 100
  maxSourcesPerRecord : Nat := 3
  staleAfterDays : Int := 30
  highConfidence : Single := Binary.ofRatio 80 100
  mediumConfidence : Single := Binary.ofRatio 50 100
  snippetMaxChars : Nat := 600

/-- How records are refreshed. -/
structure ReindexConfig where
  batchSize : Nat := 200

/-- What is protected. -/
structure SecurityConfig where
  bindLocalhostOnly : Bool := true
  redactPii : Bool := true
  adminAuthToken : Option String := none

/-- All settings of a service. -/
structure Config where
  service : ListenConfig
  store : StoreConfig
  embedding : EmbeddingConfig
  chunking : ChunkingConfig := {}
  embedder : EmbedderConfig := {}
  search : SearchConfig := {}
  evidence : EvidenceConfig := {}
  reindex : ReindexConfig := {}
  security : SecurityConfig := {}

namespace Config

open Json

/-- A natural number of 32 bits. -/
def asWord : Json → Option Nat := asNat (twoTo 32)

/-- A natural number of 64 bits. -/
def asLong : Json → Option Nat := asNat (twoTo 64)

/-- The fields of an object. -/
def asFields : Json → Option (List (String × Json))
  | obj fields => match (obj fields).canonical with
    | obj fields => some fields
    | _ => none
  | _ => none

/-- Where a process listens, from a value. -/
def readListen (j : Json) : Option ListenConfig := do
  let [http, admin, level] ← j.slots ["http_bind", "admin_bind", "log_level"] | none
  return ⟨← http.required asString, ← admin.required asString, ← level.required asString⟩

/-- Where the store lies, from a value. -/
def readStore (j : Json) : Option StoreConfig := do
  let [dsn, conns] ← j.slots ["dsn", "pool_max_conns"] | none
  return ⟨← dsn.required asString, ← conns.required asWord⟩

/-- A value that stands under one name of its own. -/
def readOnly {α : Type} (name : String) (read : Json → Option α) (j : Json) : Option α := do
  let [inner] ← j.slots [name] | none
  inner.required read

/-- How texts are embedded, from a value. -/
def readEmbedding (j : Json) : Option EmbeddingConfig := do
  let [provider, base, key, path, model, dimensions, timeout, headers] ← j.slots ["provider_id",
    "api_base", "api_key", "path", "model", "dimensions", "timeout_ms", "default_headers"] | none
  return {
    providerId := ← provider.required asString
    apiBase := ← base.required asString
    apiKey := ← key.required asString
    path := ← path.required asString
    model := ← model.required asString
    dimensions := ← dimensions.required asWord
    timeoutMs := ← timeout.required asLong
    defaultHeaders := ← headers.orElse asFields [] }

/-- How texts are cut, from a value. -/
def readChunking (j : Json) : Option ChunkingConfig := do
  let [window, overlap] ← j.slots ["window_tokens", "overlap_tokens"] | none
  let standard : ChunkingConfig := {}
  return ⟨← window.orElse asWord standard.windowTokens,
    ← overlap.orElse asWord standard.overlapTokens⟩

/-- How often an embedding is tried, from a value. -/
def readEmbedder (j : Json) : Option EmbedderConfig := do
  let [attempts, backoff] ← j.slots ["max_attempts", "base_backoff_ms"] | none
  let standard : EmbedderConfig := {}
  return ⟨← attempts.orElse asWord standard.maxAttempts,
    ← backoff.orElse asLong standard.baseBackoffMs⟩

/-- How searches are run, from a value. -/
def readSearch (j : Json) : Option SearchConfig := do
  let [lexical, vector, rrf, chunks] ←
    j.slots ["lexical_k", "vector_k", "rrf_k", "max_chunks_per_hit"] | none
  let standard : SearchConfig := {}
  return {
    lexicalK := ← lexical.orElse asWord standard.lexicalK
    vectorK := ← vector.orElse asWord standard.vectorK
    rrfK := ← rrf.orElse asWord standard.rrfK
    maxChunksPerHit := ← chunks.orElse asWord standard.maxChunksPerHit }

/-- How evidence is chosen, from a value. -/
def readEvidence (j : Json) : Option EvidenceConfig := do
  let [top, candidates, dedup, perRecord, stale, high, medium, snippet] ← j.slots ["top_k",
    "candidate_k", "dedup_sim_threshold", "max_sources_per_record", "stale_after_days",
    "high_confidence", "medium_confidence", "snippet_max_chars"] | none
  let standard : EvidenceConfig := {}
  return {
    topK := ← top.orElse asWord standard.topK
    candidateK := ← candidates.orElse asWord standard.candidateK
    dedupThreshold := ← dedup.orElse asSingle standard.dedupThreshold
    maxSourcesPerRecord := ← perRecord.orElse asWord standard.maxSourcesPerRecord
    staleAfterDays := ← stale.orElse asInt64 standard.staleAfterDays
    highConfidence := ← high.orElse asSingle standard.highConfidence
    mediumConfidence := ← medium.orElse asSingle standard.mediumConfidence
    snippetMaxChars := ← snippet.orElse asWord standard.snippetMaxChars }

/-- How records are refreshed, from a value. -/
def readReindex (j : Json) : Option ReindexConfig := do
  let [batch] ← j.slots ["batch_size"] | none
  let standard : ReindexConfig := {}
  return ⟨← batch.orElse asWord standard.batchSize⟩

/-- What is protected, from a value. -/
def readSecurity (j : Json) : Option SecurityConfig := do
  let [localhost, redact, token] ←
    j.slots ["bind_localhost_only", "redact_pii", "admin_auth_token"] | none
  let standard : SecurityConfig := {}
  return {
    bindLocalhostOnly := ← localhost.orElse asBool standard.bindLocalhostOnly
    redactPii := ← redact.orElse asBool standard.redactPii
    adminAuthToken := ← token.optional asString }

/-- The configuration that a value stands for. -/
def ofJson (j : Json) : Option Config := do
  let [service, storage, providers, chunking, embedder, search, evidence, reindex, security] ←
    j.slots ["service", "storage", "providers", "chunking", "embedder", "search", "evidence",
      "reindex", "security"] | none
  return {
    service := ← service.required readListen
    store := ← storage.required (readOnly "sqlite" readStore)
    embedding := ← providers.required (readOnly "embedding" readEmbedding)
    chunking := ← chunking.orElse readChunking {}
    embedder := ← embedder.orElse readEmbedder {}
    search := ← search.orElse readSearch {}
    evidence := ← evidence.orElse readEvidence {}
    reindex := ← reindex.orElse readReindex {}
    security := ← security.orElse readSecurity {} }

end Config

end Dossier
