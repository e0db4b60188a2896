import Dossier.Service.Change
import Dossier.Service.Pack

/-!
# Answers as JSON

What operations come to, as the callers of a service get it.
-/

namespace Dossier

namespace Json

/-- The fewest digits that read back as a number in single precision; a number that is not finite is
null. -/
def single : Single → Json
  | .finite neg rank => .num (.float (Binary.ofDecimal neg (Binary.shortest .single rank)))
  | _ => .null

/-- A point in time, or null when there is none. -/
def instant? (t : Option Instant) : Json := str? (t.map Instant.text)

/-- An identifier. -/
def id (i : Id) : Json := .str i.text

end Json

/-- The receipt as JSON. -/
def Receipt.toJson (r : Receipt) : Json :=
  .obj [("chunk_count", .nat r.chunkCount), ("created", .bool r.created), ("record_id", .id r.record)]

/-- The hit as JSON. -/
def FusedHit.toJson (h : FusedHit) : Json :=
  .obj [("chunk_ids", .arr (h.chunks.map Json.id)), ("lexical_rank", .nat? h.lexicalRank),
    ("method", .str h.method.label), ("normalized_score", .single h.normalized),
    ("record_id", .id h.record), ("score", .single h.score), ("vector_rank", .nat? h.vectorRank)]

/-- The answer to a search as JSON. -/
def SearchResponse.toJson (r : SearchResponse) : Json :=
  .obj [("degraded", .bool r.degraded), ("hits", .arr (r.hits.map FusedHit.toJson))]

/-- The source as JSON. -/
def Source.toJson (source : Source) : Json :=
  let c := source.candidate
  let r := c.context.record
  .obj [("chunk_id", .id c.chunk), ("evidence_id", .id source.id),
    ("indexed_at", .instant? r.indexedAt), ("method", .str c.method.label),
    ("record_id", .id c.record), ("redacted", .bool c.redacted), ("score", .single c.score),
    ("snippet", .str c.snippet), ("source_kind", .str r.content.sourceKind), ("stale", .bool c.stale),
    ("title", .str r.content.title), ("updated_at", .str r.updatedAt.text)]

/-- The pack as JSON. -/
def EvidencePack.toJson (p : EvidencePack) : Json :=
  .obj [("confidence", .str p.confidence.label), ("degraded", .bool p.degraded),
    ("filtered_count", .nat p.filteredCount), ("pack_id", .id p.id),
    ("sources", .arr (p.sources.map Source.toJson)), ("tenant_id", .str p.tenant),
    ("total_candidates", .nat p.totalCandidates), ("warnings", .arr (p.warnings.map .str))]

/-- The report of a rebuild as JSON. -/
def RebuildReport.toJson (r : RebuildReport) : Json :=
  .obj [("error_count", .nat r.errors), ("lexical_chunks", .nat r.lexicalChunks),
    ("missing_vector_count", .nat r.missingVectors), ("vectors", .nat r.vectors)]

/-- The outcome of embedding a record as JSON. -/
def EmbedOutcome.toJson : EmbedOutcome → Json
  | nothingPending => .obj [("outcome", .str "nothing_pending")]
  | embedded written skipped =>
    .obj [("embedded", .nat written), ("outcome", .str "embedded"), ("skipped", .nat skipped)]

/-- The report of a pass over the backlog as JSON. -/
def BacklogReport.toJson (r : BacklogReport) : Json :=
  .obj [("embedded_chunks", .nat r.embeddedChunks), ("failed_records", .nat r.failedRecords),
    ("records", .nat r.records), ("requeued_failed", .nat r.requeuedFailed)]

/-- The outcome of a change as JSON. -/
def ChangeOutcome.toJson : ChangeOutcome → Json
  | noop => .obj [("outcome", .str "noop")]
  | refreshed record n =>
    .obj [("chunk_count", .nat n), ("outcome", .str "refreshed"), ("record_id", .id record)]
  | deleted record => .obj [("outcome", .str "deleted"), ("record_id", .id record)]

end Dossier
