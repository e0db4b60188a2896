import Dossier.Policy
import Dossier.Retrieval.Fusion
import Dossier.Store.Row
import Dossier.Vector.Similarity

/-!
# Candidates for evidence

A search yields candidates, one for each chunk that it names.  They are filtered by permission,
redacted, marked when they are stale, freed of near duplicates, and limited for each record.  Each
of these steps is a function on lists of candidates.  Those that drop candidates are passes
(`Pass`), which count what they drop.
-/

namespace Dossier

/-- A chunk that may become evidence, with what is shown of its text. -/
structure Candidate where
  context : ChunkContext
  method : Method
  score : Single
  snippet : String
  redacted : Bool
  stale : Bool

namespace Candidate

/-- The chunk of a candidate. -/
def chunk (c : Candidate) : Id := c.context.chunk.id

/-- The record of a candidate. -/
def record (c : Candidate) : Id := c.context.record.id

/-- The first characters of a text. -/
def cut (n : Nat) (text : String) : String := String.ofList (text.toList.take n)

/-- The candidate for a chunk that a hit names. -/
def ofContext (snippetLimit : Nat) (hit : FusedHit) (context : ChunkContext) : Candidate where
  context
  method := hit.method
  score := hit.normalized
  snippet := cut snippetLimit context.chunk.text
  redacted := false
  stale := false

/-- The candidates for the chunks that a hit names, as far as they are live chunks of the tenant. -/
def ofHit (snippetLimit : Nat) (contexts : List ChunkContext) (hit : FusedHit) : List Candidate :=
  hit.chunks.filterMap fun id =>
    (contexts.find? (·.chunk.id == id)).map (ofContext snippetLimit hit)

/-- The candidates that a search yields. -/
def ofHits (snippetLimit : Nat) (hits : List FusedHit) (contexts : List ChunkContext) :
    List Candidate :=
  hits.flatMap (ofHit snippetLimit contexts)

/-- May a candidate be seen? -/
def permitted (f : PermissionFilter) (c : Candidate) : Bool :=
  f.allows c.context.record.tenant c.context.record.content.owner

/-- What the redaction of a candidate is asked for. -/
def redactionItem (c : Candidate) : RedactionItem := ⟨c.chunk, c.snippet⟩

/-- The candidate with its redacted text, which is the last one under its key. -/
def withRedaction (items : List RedactedItem) (c : Candidate) : Option Candidate :=
  (items.reverse.find? (·.key == c.chunk)).map fun item =>
    { c with snippet := item.text, redacted := item.redacted }

/-- The candidates with their redacted texts, if none is missing. -/
def withRedactions (items : List RedactedItem) (cs : List Candidate) : Option (List Candidate) :=
  cs.mapM (withRedaction items)

/-- The candidate marked when it is older than a number of nanoseconds. -/
def marked (now : Instant) (after : Int) (c : Candidate) : Candidate :=
  { c with stale := isStale c.context.record.updatedAt c.context.record.indexedAt now after }

/-! ### Choosing -/

/-- Does the first candidate rank no lower than the second? -/
def before (a b : Candidate) : Bool := b.score.totalCompare a.score != .gt

/-- Candidates by their scores, the highest first; equal ones keep their order. -/
def byScore (cs : List Candidate) : List Candidate := cs.mergeSort before

/-- The vector of a chunk among some vectors. -/
def vectorOf (vectors : List (Id × Vec)) (c : Candidate) : Option Vec :=
  (vectors.find? (·.1 == c.chunk)).map (·.2)

/-- Are two candidates near duplicates?  One without a vector is no duplicate of any other. -/
def similar (vectors : List (Id × Vec)) (threshold : Single) (a b : Candidate) : Bool :=
  match vectorOf vectors a, vectorOf vectors b with
  | some v, some w => (Vec.similarity? v w).any fun s => threshold.le s
  | _, _ => false

/-! ### Passes -/

/-- What a pass over candidates has come to: those that it keeps, and how many it has dropped. -/
structure Pass where
  kept : List Candidate := []
  dropped : Nat := 0

namespace Pass

/-- The pass with one more candidate, which is kept unless something drops it, be it something that
depends on what is kept already. -/
def next (drops : List Candidate → Candidate → Bool) (p : Pass) (c : Candidate) : Pass :=
  if drops p.kept c then { p with dropped := p.dropped + 1 } else { p with kept := p.kept ++ [c] }

/-- A pass over candidates, one after the other. -/
def through (drops : List Candidate → Candidate → Bool) (cs : List Candidate) : Pass :=
  cs.foldl (next drops) {}

end Pass

/-- A candidate that may not be seen is dropped. -/
def forbidden (f : PermissionFilter) (_ : List Candidate) (c : Candidate) : Bool := !c.permitted f

/-- A near duplicate of a kept candidate is dropped. -/
def duplicates (vectors : List (Id × Vec)) (threshold : Single) (kept : List Candidate)
    (c : Candidate) : Bool :=
  kept.any (similar vectors threshold c)

/-- A candidate whose record has enough is dropped. -/
def exceeds (limit : Nat) (kept : List Candidate) (c : Candidate) : Bool :=
  decide (limit ≤ kept.countP (·.record == c.record))

/-- The pass that lets those candidates through that may be seen. -/
def permittedPass (f : PermissionFilter) (cs : List Candidate) : Pass := .through (forbidden f) cs

/-- The pass over the candidates by their scores that drops near duplicates; of two, the one with
the higher score is kept. -/
def distinctPass (vectors : List (Id × Vec)) (threshold : Single) (cs : List Candidate) : Pass :=
  .through (duplicates vectors threshold) (byScore cs)

/-- The pass that keeps the first candidates of each record. -/
def limitedPass (limit : Nat) (cs : List Candidate) : Pass := .through (exceeds limit) cs

end Candidate

/-- How many candidates were dropped, by cause. -/
structure Drops where
  permission : Nat
  duplicate : Nat
  diversity : Nat
deriving DecidableEq

/-- All dropped candidates. -/
def Drops.total (d : Drops) : Nat := d.permission + d.duplicate + d.diversity

end Dossier
