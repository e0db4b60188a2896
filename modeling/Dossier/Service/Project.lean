import Dossier.Service.World
import Dossier.Store.Chunks
import Dossier.Store.Vectors

/-!
# Indexes as projections of the store

The indexes of a process hold what the store holds for live records.  `sync` takes over the vectors
that were written since the last time, by whatever process, and `rebuild` makes both indexes anew.
-/

namespace Dossier

/-- What a rebuild comes to. -/
structure RebuildReport where
  lexicalChunks : Nat
  vectors : Nat
  missingVectors : Nat
  errors : Nat
deriving DecidableEq

/-- A vector as the store lists it: its number, its chunk and its value. -/
abbrev ListedVector := Nat × Id × Vec

namespace VectorIndex

/-- What taking over vectors has come to: the index, the chunks whose vectors are in it, and how
many vectors were taken over and how many do not fit. -/
structure Intake where
  index : VectorIndex
  covered : List Id := []
  taken : Nat := 0
  refused : Nat := 0

/-- The intake with one more vector, if it fits. -/
def Intake.next (i : Intake) (row : ListedVector) : Intake :=
  match i.index.upsert row.2.1 row.2.2 with
  | .ok index => { i with index, covered := row.2.1 :: i.covered, taken := i.taken + 1 }
  | .error _ => { i with refused := i.refused + 1 }

/-- The index with some vectors taken over. -/
def intake (index : VectorIndex) (rows : List ListedVector) : Intake :=
  rows.foldl Intake.next { index }

end VectorIndex

namespace LexicalIndex

/-- What putting chunks into an index has come to: the index, how many chunks it was given, and how
many of them have no vector. -/
structure Intake where
  index : LexicalIndex := .empty
  given : Nat := 0
  missing : Nat := 0

/-- The intake with one more chunk. -/
def Intake.next (covered : List Id) (i : Intake) (ctx : ChunkContext) : Intake where
  index := i.index.add ctx.chunk.id ctx.record.id ctx.record.tenant ctx.chunk.text
  given := i.given + 1
  missing := if covered.contains ctx.chunk.id then i.missing else i.missing + 1

/-- An index of some live chunks, some of which have vectors. -/
def intake (covered : List Id) (sources : List ChunkContext) : Intake :=
  sources.foldl (Intake.next covered) {}

end LexicalIndex

/-- The greatest number among some vectors, at least `least`. -/
def lastNumber (least : Nat) (rows : List ListedVector) : Nat :=
  rows.foldl (fun n row => max n row.1) least

namespace Service

variable {σ : Type}

/-- Takes over the vectors that were written since the last time, and counts them. -/
def sync : Action σ Nat := do
  let m := (← get).memory
  let rows ← Action.store (Store.listVectorsAfter m.watermark)
  let vectors := m.vectors.intake rows
  Action.onMemory fun m => { m with
    vectors := vectors.index
    watermark := lastNumber m.watermark rows }
  return vectors.taken

/-- Makes both indexes anew from the store. -/
def rebuild : Action σ RebuildReport := do
  let sources ← Action.store Store.listLiveChunks
  let rows ← Action.store (Store.listVectorsAfter 0)
  let vectors := (← get).memory.vectors.clear.intake rows
  let lexical := LexicalIndex.intake vectors.covered sources
  Action.onMemory fun m => { m with
    lexical := lexical.index
    vectors := vectors.index
    watermark := lastNumber 0 rows }
  return {
    lexicalChunks := lexical.given
    vectors := vectors.taken
    missingVectors := lexical.missing
    errors := vectors.refused }

end Service

end Dossier
