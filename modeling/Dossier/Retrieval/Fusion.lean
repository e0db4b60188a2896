import Dossier.Evidence.Rules
import Dossier.Id

/-!
# Rank fusion

Two rankings of records, the legs, are fused into one.  A record earns `1 / (k + rank)` for every
place that it has in a leg, ranks being counted from one.  The sum of these contributions orders the
records; equal sums are ordered by the better rank in either leg, and equal ranks by identifier.
-/

namespace Dossier

/-- A record as one leg ranks it. -/
structure LegHit where
  record : Id
  score : Single
  chunks : List Id

/-- A record as the fused ranking has it. -/
structure FusedHit where
  record : Id
  score : Single
  normalized : Single
  method : Method
  lexicalRank : Option Nat
  vectorRank : Option Nat
  chunks : List Id

namespace Fusion

/-- What one place in a leg earns. -/
def contribution (k rank : Nat) : Single := Single.one / (Binary.ofNat k + Binary.ofNat rank)

/-- The most that a record can earn: the first place in both legs. -/
def maxScore (k : Nat) : Single := Binary.ofNat 2 * contribution k 1

/-- The ranks that a leg gives a record, counted from one, beginning with `rank`. -/
def ranksFrom (record : Id) : Nat → List LegHit → List Nat
  | _, [] => []
  | rank, hit :: rest =>
    if hit.record = record then rank :: ranksFrom record (rank + 1) rest
    else ranksFrom record (rank + 1) rest

/-- The ranks that a leg gives a record. -/
def ranks (record : Id) (leg : List LegHit) : List Nat := ranksFrom record 1 leg

/-- The chunks that a leg names for a record. -/
def chunksOf (record : Id) (leg : List LegHit) : List Id :=
  (leg.filter (·.record == record)).flatMap LegHit.chunks

/-- The method by which a record was found, from its ranks. -/
def methodOf : Option Nat → Option Nat → Method
  | some _, some _ => .hybrid
  | none, some _ => .vector
  | _, none => .lexical

/-- One record of the fused ranking. -/
def fusedHit (lexical vector : List LegHit) (k : Nat) (record : Id) : FusedHit :=
  let inLexical := ranks record lexical
  let inVector := ranks record vector
  let score := (inLexical ++ inVector).foldl (fun s rank => s + contribution k rank) Binary.zero
  { record
    score
    normalized := (score / maxScore k).clamp Binary.zero Single.one
    method := methodOf inLexical.getLast? inVector.getLast?
    lexicalRank := inLexical.getLast?
    vectorRank := inVector.getLast?
    chunks := (chunksOf record lexical ++ chunksOf record vector).eraseDups }

/-- The better of the ranks of a record in the two legs. -/
def bestRank (hit : FusedHit) : Nat :=
  match hit.lexicalRank, hit.vectorRank with
  | some l, some v => min l v
  | some rank, none => rank
  | none, some rank => rank
  | none, none => twoTo 32 - 1

/-- Does the first hit rank no lower than the second? -/
def before (a b : FusedHit) : Bool :=
  match b.score.totalCompare a.score with
  | .lt => true
  | .gt => false
  | .eq =>
    if bestRank a = bestRank b then a.record.number ≤ b.record.number else bestRank a < bestRank b

/-- The fused ranking of two legs. -/
def fuse (lexical vector : List LegHit) (k : Nat) : List FusedHit :=
  let records := ((lexical ++ vector).map LegHit.record).eraseDups
  (records.map (fusedHit lexical vector k)).mergeSort before

end Fusion

end Dossier
