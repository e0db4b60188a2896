import Dossier.Store.Statement

/-!
# Chunks in the store

An identifier names at most one chunk, a place in a record holds at most one chunk, and every chunk
belongs to a record.  A chunk that is deleted takes its vectors with it.
-/

namespace Dossier.Store

/-- Is there a chunk of the same identifier or in the same place? -/
def clashes (chunks : List StoredChunk) (c : StoredChunk) : Bool :=
  chunks.any fun held => held.id == c.id || (held.record == c.record && held.index == c.index)

/-- Rows added one after the other, unless one of them clashes. -/
def addChunks (held : List StoredChunk) : List StoredChunk → Except StoreError (List StoredChunk)
  | [] => .ok held
  | c :: rest =>
    if clashes held c then .error (.violated .unique) else addChunks (held ++ [c]) rest

/-- Adds chunks with one statement.  That every chunk has a record is checked when all are added. -/
def insertBatch (rows : List StoredChunk) : StoreAction Unit :=
  statement .insertChunks fun s => do
    let chunks ← addChunks s.chunks rows
    if rows.all fun c => (s.record? c.record).isSome then return ((), { s with chunks })
    else throw (.violated .foreignKey)

/-- Adds chunks, a batch after the other. -/
def insertChunks (rows : List StoredChunk) : StoreAction Unit :=
  (batches batchLimit rows).forM insertBatch

/-- Chunks in the order of their places. -/
def inOrder (chunks : List StoredChunk) : List StoredChunk :=
  chunks.mergeSort fun a b => a.index ≤ b.index

/-- The chunks of a record in order. -/
def listChunks (record : Id) : StoreAction (List StoredChunk) :=
  reading .readChunks fun s => inOrder (s.chunksOf record)

/-- The pending chunks of a live record of a tenant, in order. -/
def listPending (tenant : String) (record : Id) : StoreAction (List StoredChunk) :=
  reading .listPending fun s =>
    inOrder ((s.liveChunks.filter fun ctx =>
      ctx.record.id == record && ctx.record.tenant == tenant && ctx.chunk.status == .pending).map
        (·.chunk))

/-- Deletes the chunks of a record with their vectors, and counts the chunks. -/
def deleteChunks (record : Id) : StoreAction Nat :=
  writing .deleteChunks fun s =>
    let gone := (s.chunksOf record).map (·.id)
    (gone.length,
      { s with
        chunks := s.chunks.filter (·.record != record)
        vectors := s.vectors.filter fun v => !gone.contains v.chunk })

/-- The store with the chunks changed that meet a condition. -/
def changeChunks (s : Store) (which : StoredChunk → Bool) (change : StoredChunk → StoredChunk) :
    Store :=
  { s with chunks := s.chunks.map fun c => if which c then change c else c }

/-- Marks a chunk as embedded if it is still pending, and tells whether it was. -/
def markEmbedded (chunk : Id) : StoreAction Bool :=
  writing .markEmbedded fun s =>
    let which := fun (c : StoredChunk) => c.id == chunk && c.status == .pending
    (s.chunks.any which,
      s.changeChunks which fun c => { c with status := .embedded, lastError := none })

/-- Marks those of some chunks as failed that are still pending, and counts them. -/
def markFailed (chunks : List Id) (error : String) : StoreAction Nat :=
  writing .markFailed fun s =>
    let which := fun (c : StoredChunk) => chunks.contains c.id && c.status == .pending
    (s.chunks.countP which,
      s.changeChunks which fun c => { c with status := .failed, lastError := some error })

/-- Makes the failed chunks of live records pending again, and counts them. -/
def requeueFailed : StoreAction Nat :=
  writing .requeue fun s =>
    let which := fun (c : StoredChunk) => c.status == .failed && (s.context? c).isSome
    (s.chunks.countP which, s.changeChunks which fun c => { c with status := .pending })

/-- The live chunks of a tenant among one batch of identifiers. -/
def contextBatch (s : Store) (tenant : String) (ids : List Id) : List ChunkContext :=
  s.liveChunks.filter fun ctx => ctx.record.tenant == tenant && ids.contains ctx.chunk.id

/-- The live chunks of a tenant among some identifiers, a batch after the other.  Identifiers of
other tenants' chunks, of chunks of deleted records and of no chunk at all are passed over. -/
def loadContexts (tenant : String) (ids : List Id) : StoreAction (List ChunkContext) :=
  reading .readContexts fun s => (batches batchLimit ids).flatMap (contextBatch s tenant)

/-- All chunks of live records, by record and place. -/
def listLiveChunks : StoreAction (List ChunkContext) :=
  reading .listLive fun s => s.liveChunks.mergeSort fun a b =>
    a.chunk.record.number < b.chunk.record.number ||
      (a.chunk.record == b.chunk.record && decide (a.chunk.index ≤ b.chunk.index))

end Dossier.Store
