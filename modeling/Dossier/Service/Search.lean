import Dossier.Request
import Dossier.Retrieval.Grouping
import Dossier.Service.Embed
import Dossier.Service.Project

/-!
# Hybrid search

A query is looked up in the lexical index and, once it is embedded, in the vector index, and both
rankings are fused.  When the query cannot be embedded or compared, the answer rests on the lexical
ranking alone and says so.
-/

namespace Dossier

/-- What a search finds; a degraded answer rests on the lexical ranking alone. -/
structure SearchResponse where
  hits : List FusedHit
  degraded : Bool

namespace SearchResponse

/-- Nothing found. -/
def empty : SearchResponse := ⟨[], false⟩

/-- The answer that two rankings give, cut to a number of records. -/
def ofLegs (rrfK limit : Nat) (lexical : List LegHit) (vector : Option (List LegHit)) :
    SearchResponse :=
  ⟨(Fusion.fuse lexical (vector.getD []) rrfK).take limit, vector.isNone⟩

end SearchResponse

/-- How many records a search answers with unless it is told. -/
def standardLimit : Nat := 10

/-- How many ranked chunks are looked up in the store at a time. -/
def pageSize : Nat := 256

/-- The ranked chunks that are live chunks of a tenant, with their records. -/
def resolve (contexts : List ChunkContext) (page : List VectorIndex.Hit) : List ChunkHit :=
  page.filterMap fun hit =>
    (contexts.find? (·.chunk.id == hit.chunk)).map fun ctx =>
      ⟨ctx.record.id, hit.chunk, hit.similarity⟩

/-- How many records some chunks belong to. -/
def recordCount (hits : List ChunkHit) : Nat := ((hits.map ChunkHit.record).eraseDups).length

namespace Service

variable {σ : Type}

/-- The terms of a query in the order in which a search goes through them. -/
def termsOf (svc : Service σ) (w : World σ) (query : String) : List String :=
  (svc.order w.outside).termsOf query

/-- The lexical ranking of records for a query. -/
def lexicalLeg (svc : Service σ) (w : World σ) (tenant query : String) : List LegHit :=
  Grouping.byRecord svc.config.search.lexicalK svc.config.search.maxChunksPerHit
    ((w.memory.lexical.search tenant (svc.termsOf w query)).map fun hit =>
      ⟨hit.record, hit.chunk, hit.score⟩)

/-- Looks ranked chunks up in the store, a page after the other, until enough records are found. -/
def resolvePages (tenant : String) (enough : Nat) :
    List ChunkHit → List (List VectorIndex.Hit) → StoreAction (List ChunkHit)
  | found, [] => return found
  | found, page :: rest => do
    let contexts ← Store.loadContexts tenant (page.map (·.chunk))
    let found := found ++ resolve contexts page
    if enough ≤ recordCount found then return found
    else resolvePages tenant enough found rest

/-- The ranking of records by their similarity to a query, unless the query cannot be embedded or
compared. -/
def vectorLeg (svc : Service σ) (tenant query : String) : Action σ (Option (List LegHit)) := do
  match ← svc.call [query] with
  | .error _ => return none
  | .ok [] => return none
  | .ok (v :: _) =>
    let _ ← sync
    match (← get).memory.vectors.rank v with
    | .error _ => return none
    | .ok ranked =>
      let limits := svc.config.search
      let found ← Action.store
        (resolvePages tenant limits.vectorK [] (batches pageSize ranked))
      return some (Grouping.byRecord limits.vectorK limits.maxChunksPerHit found)

/-- The best records of a tenant for a query. -/
def hybridSearch (svc : Service σ) (tenant query : String) (limit : Nat) :
    Action σ SearchResponse := do
  if limit = 0 || Text.isBlankText query then return .empty
  else
    let lexical := svc.lexicalLeg (← get) tenant query
    let vector ← svc.vectorLeg tenant query
    return .ofLegs svc.config.search.rrfK limit lexical vector

/-- Answers a search request. -/
def search (svc : Service σ) (req : SearchRequest) : Action σ SearchResponse :=
  svc.hybridSearch req.tenant req.query (req.limit.getD standardLimit)

end Service

end Dossier
