import Dossier.Evidence.Candidate
import Dossier.Service.Search

/-!
# Evidence packs

A pack is built on a search: candidates are permitted, redacted, marked, freed of duplicates and
limited, in this order.  What is handed out is put on record before it is, and so is that it was.
-/

namespace Dossier

/-- A source of evidence. -/
structure Source where
  id : Id
  candidate : Candidate

/-- A pack of evidence. -/
structure EvidencePack where
  id : Id
  tenant : String
  sources : List Source
  confidence : Confidence
  totalCandidates : Nat
  filteredCount : Nat
  warnings : List String
  degraded : Bool

/-- The candidates that are left for a pack, and what became of the others. -/
structure Selection where
  kept : List Candidate
  drops : Drops

namespace EvidencePack

/-- The action under which packs are audited. -/
def auditAction : String := "evidence.pack"

/-- The nanoseconds in a day. -/
def perDay : Int := 86400 * Instant.perSecond

/-- So many days in nanoseconds, if they are a span of time: their seconds have to fit into 64 bits,
one of which is for the sign. -/
def spanOfDays? (days : Int) : Option Int :=
  if -(twoTo 63 : Int) ≤ days * 86400 ∧ days * 86400 < twoTo 63 then some (days * perDay) else none

/-- What is left of the permitted candidates once duplicates are dropped and records limited. -/
def select (cfg : EvidenceConfig) (vectors : List (Id × Vec)) (permissionDrops : Nat)
    (permitted : List Candidate) : Selection :=
  let distinct := Candidate.distinctPass vectors cfg.dedupThreshold permitted
  let limited := Candidate.limitedPass cfg.maxSourcesPerRecord distinct.kept
  { kept := limited.kept
    drops := ⟨permissionDrops, distinct.dropped, limited.dropped⟩ }

/-- The warnings that go with some sources. -/
def warningsFor (sources : List Source) (drops : Drops) (staleDays : Int) (degraded : Bool) :
    List String :=
  let stale := sources.countP (·.candidate.stale)
  let redacted := sources.countP (·.candidate.redacted)
  (if 0 < stale then
    [s!"{stale} source(s) are older than {staleDays} days or not yet indexed."] else []) ++
  (if 0 < redacted then [s!"PII was redacted from {redacted} source(s)."] else []) ++
  (if 0 < drops.diversity then
    [s!"{drops.diversity} source(s) were dropped by the per-record source cap."] else []) ++
  (if degraded then ["Vector retrieval was unavailable; results are lexical only."] else [])

/-- The row that puts a source on record. -/
def evidenceOf (tenant : String) (pack : Id) (source : Source) : EvidenceEntry where
  id := source.id
  pack
  tenant
  record := source.candidate.record
  chunk := source.candidate.chunk
  method := source.candidate.method.label
  score := source.candidate.score
  snippet := some source.candidate.snippet
  redacted := source.candidate.redacted

/-- The rows that put a pack on record. -/
def evidence (pack : EvidencePack) : List EvidenceEntry :=
  pack.sources.map (evidenceOf pack.tenant pack.id)

/-- The audit event that tells of a pack. -/
def auditEvent (pack : EvidencePack) (id : Id) (req : PackRequest) (now : Instant) :
    AuditEvent where
  id
  tenant := req.principal.tenant
  actor := req.principal.user
  action := auditAction
  entityRef := some ("pack:" ++ pack.id.text)
  outcome := "ok"
  details := .obj [("confidence", .str pack.confidence.label), ("degraded", .bool pack.degraded),
    ("filtered_count", .nat pack.filteredCount), ("query_chars", .nat req.query.length),
    ("sources", .nat pack.sources.length), ("total_candidates", .nat pack.totalCandidates)]
  createdAt := now

end EvidencePack

namespace Service

variable {σ : Type}

/-- The candidates that a search yields, resolved against the store. -/
def candidates (svc : Service σ) (tenant : String) (found : SearchResponse) :
    Action σ (List Candidate) := do
  let contexts ← Action.store
    (Store.loadContexts tenant (found.hits.flatMap FusedHit.chunks))
  return Candidate.ofHits svc.config.evidence.snippetMaxChars found.hits contexts

/-- The candidates as they may be shown: redacted, if the configuration asks for it. -/
def redacted (svc : Service σ) (cs : List Candidate) : Action σ (List Candidate) := do
  if svc.config.security.redactPii && !cs.isEmpty then
    let items ← Action.ask fun o => (svc.redact (cs.map Candidate.redactionItem) o, o)
    match Candidate.withRedactions items cs with
    | some cs => return cs
    | none => throw (.policy .missingItem)
  else return cs

/-- The age from which sources count as stale.  The operation is broken off if it is no span of
time. -/
def staleAfter (svc : Service σ) : Action σ Int :=
  match EvidencePack.spanOfDays? svc.config.evidence.staleAfterDays with
  | some after => return after
  | none => throw .overflow

/-- Draws an identifier for each of some candidates. -/
def sourcesOf (svc : Service σ) : List Candidate → Action σ (List Source)
  | [] => return []
  | c :: rest => do
    let id ← Action.draw svc.fresh
    return ⟨id, c⟩ :: (← svc.sourcesOf rest)

/-- Puts together a pack for a request, before anything of it is put on record. -/
def assemble (svc : Service σ) (req : PackRequest) : Action σ EvidencePack := do
  let cfg := svc.config.evidence
  let tenant := req.principal.tenant
  let limit := req.limit.getD cfg.topK
  let id ← Action.draw svc.fresh
  let now := (← get).now
  let found ← svc.hybridSearch tenant req.query (max cfg.candidateK limit)
  let all ← svc.candidates tenant found
  let filter ← Action.ask fun o => (svc.permissions req.principal o, o)
  let permitted := Candidate.permittedPass filter all
  let shown ← svc.redacted permitted.kept
  let after ← svc.staleAfter
  let marked := shown.map (Candidate.marked now after)
  let vectors ← Action.store (Store.loadVectors tenant (marked.map Candidate.chunk))
  let selection := EvidencePack.select cfg vectors permitted.dropped marked
  let sources ← svc.sourcesOf (selection.kept.take limit)
  return {
    id
    tenant
    sources
    confidence := Confidence.ofScore (sources.head?.map (·.candidate.score)) cfg.highConfidence
      cfg.mediumConfidence
    totalCandidates := all.length
    filteredCount := selection.drops.total
    warnings := EvidencePack.warningsFor sources selection.drops cfg.staleAfterDays found.degraded
    degraded := found.degraded }

/-- Builds an evidence pack for a principal. -/
def pack (svc : Service σ) (req : PackRequest) : Action σ EvidencePack := do
  if Text.isBlankText req.principal.tenant then throw (.invalidRequest .blankPrincipal)
  else
    let pack ← svc.assemble req
    Action.store (Store.insertEvidence pack.evidence)
    let id ← Action.draw svc.fresh
    svc.record (pack.auditEvent id req (← get).now)
    return pack

end Service

end Dossier
