import Dossier.Store.Statement

/-!
# Vectors in the store

A chunk has at most one vector for a tenant.  Every vector that is written gets a number greater
than all numbers before it, also when it replaces another, so that a reader who remembers the
greatest number that it has seen misses nothing that was written since.
-/

namespace Dossier.Store

/-- Writes the vector of a chunk for a tenant, in place of any that it had. -/
def writeVector (chunk : Id) (tenant version : String) (v : Vec) : StoreAction Unit :=
  statement .writeVector fun s =>
    if (s.chunk? chunk).isNone then .error (.violated .foreignKey)
    else
      let seq := s.lastSeq + 1
      let others := s.vectors.filter fun held => !(held.chunk == chunk && held.tenant == tenant)
      .ok ((), { s with
        vectors := others ++ [⟨seq, chunk, tenant, version, v.length, v.text⟩]
        lastSeq := seq })

/-- Overwrites the text of the vectors of a chunk, and counts them. -/
def overwriteVectors (chunk : Id) (text : String) : StoreAction Nat :=
  writing .writeVector fun s =>
    (s.vectors.countP (·.chunk == chunk),
      { s with vectors := s.vectors.map fun v => if v.chunk == chunk then { v with text } else v })

/-- Deletes the vectors of the chunks of a record, and counts them. -/
def deleteVectors (record : Id) : StoreAction Nat :=
  writing .deleteVectors fun s =>
    let ids := (s.chunksOf record).map (·.id)
    let which := fun (v : StoredVector) => ids.contains v.chunk
    (s.vectors.countP which, { s with vectors := s.vectors.filter fun v => !which v })

/-- The value that the text of a stored vector stands for. -/
def StoredVector.value (v : StoredVector) : Except StoreError Vec :=
  (Vec.parse v.text).mapError .badVector

/-- The vectors of a tenant for one batch of chunks. -/
def vectorBatch (s : Store) (tenant : String) (ids : List Id) : List StoredVector :=
  (s.vectors.filter fun v => v.tenant == tenant && ids.contains v.chunk).mergeSort fun a b =>
    a.chunk.number ≤ b.chunk.number

/-- The vectors of a tenant for some chunks.  One text that is no vector makes this fail. -/
def loadVectors (tenant : String) (ids : List Id) : StoreAction (List (Id × Vec)) :=
  statement .readVectors fun s => do
    let found ← ((batches batchLimit ids).flatMap (vectorBatch s tenant)).mapM fun v =>
      (StoredVector.value v).map fun value => (v.chunk, value)
    return (found, s)

/-- Does a vector belong to a chunk of a live record of the same tenant? -/
def isLiveVector (s : Store) (v : StoredVector) : Bool :=
  match (s.chunk? v.chunk).bind s.context? with
  | some ctx => ctx.record.tenant == v.tenant
  | none => false

/-- The vectors behind a number whose chunks belong to live records of the same tenant, in the order
in which they were written.  One text that is no vector makes this fail. -/
def listVectorsAfter (seq : Nat) : StoreAction (List (Nat × Id × Vec)) :=
  statement .listVectors fun s => do
    let rows := s.vectors.filter fun v => seq < v.seq && isLiveVector s v
    let found ← rows.mapM fun v =>
      (StoredVector.value v).map fun value => (v.seq, v.chunk, value)
    return (found, s)

end Dossier.Store
