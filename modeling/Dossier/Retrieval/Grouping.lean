import Dossier.Retrieval.Fusion

/-!
# Chunks grouped by record

A ranking of chunks becomes a ranking of records: a record stands where its best chunk stands, with
the score of that chunk, and names its best chunks.
-/

namespace Dossier

/-- A ranked chunk and the record it belongs to. -/
structure ChunkHit where
  record : Id
  chunk : Id
  score : Single

namespace Grouping

/-- One more chunk for the record that it belongs to, unless that record names enough. -/
def extend (chunkLimit : Nat) (hit : ChunkHit) (leg : LegHit) : LegHit :=
  if leg.record = hit.record ∧ leg.chunks.length < chunkLimit then
    { leg with chunks := leg.chunks ++ [hit.chunk] }
  else leg

/-- One more chunk taken into the ranking of records. -/
def step (recordLimit chunkLimit : Nat) (legs : List LegHit) (hit : ChunkHit) : List LegHit :=
  if legs.any (·.record == hit.record) then legs.map (extend chunkLimit hit)
  else if legs.length < recordLimit then legs ++ [⟨hit.record, hit.score, [hit.chunk]⟩]
  else legs

/-- The records of a ranking of chunks, at most `recordLimit` of them, each with at most
`chunkLimit` chunks but at least one. -/
def byRecord (recordLimit chunkLimit : Nat) (hits : List ChunkHit) : List LegHit :=
  hits.foldl (step recordLimit chunkLimit) []

end Grouping

end Dossier
