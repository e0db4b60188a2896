import Dossier.Proofs.Store.Statement
import Dossier.Service.Change
import Dossier.Service.Embed

/-!
# What the transactions do to the tables

Every transaction of a service comes to a function on stores, named here without the statements that
it is made of: a draft makes a record or rewrites one, a record is retired, a batch is committed,
chunks fail or are queued again.  `Staging` says all that the transaction of a draft can come to.
-/

namespace Dossier

/-- Two stores with the same records, chunks and vectors. -/
structure Store.SameTables (s t : Store) : Prop where
  records : t.records = s.records
  chunks : t.chunks = s.chunks
  vectors : t.vectors = s.vectors
  lastSeq : t.lastSeq = s.lastSeq

namespace Store.SameTables

/-- A store has the same tables as itself. -/
lemma refl (s : Store) : SameTables s s := ⟨rfl, rfl, rfl, rfl⟩

/-- Having the same tables is transitive. -/
lemma trans {s t u : Store} (h : SameTables s t) (h' : SameTables t u) : SameTables s u :=
  ⟨h'.records.trans h.records, h'.chunks.trans h.chunks, h'.vectors.trans h.vectors,
    h'.lastSeq.trans h.lastSeq⟩

/-- Having the same tables is symmetric. -/
lemma symm {s t : Store} (h : SameTables s t) : SameTables t s :=
  ⟨h.records.symm, h.chunks.symm, h.vectors.symm, h.lastSeq.symm⟩

instance : Std.Refl SameTables := ⟨refl⟩

instance : IsTrans Store SameTables := ⟨fun _ _ _ => trans⟩

end Store.SameTables

/-- The content of a record as it is kept, with its metadata as they read back. -/
def RecordContent.kept (content : RecordContent) : RecordContent :=
  { content with metadata := content.metadata.reread }

namespace Store

variable {s t : Store}

/-! ### Adding and dropping -/

/-- The store with one more record. -/
def withRecord (s : Store) (r : Record) : Store := { s with records := s.records ++ [r] }

/-- The store with more chunks. -/
def withChunks (s : Store) (rows : List StoredChunk) : Store :=
  { s with chunks := s.chunks ++ rows }

/-- The vectors that do not belong to a chunk of a record. -/
def vectorsBeside (s : Store) (record : Id) : List StoredVector :=
  s.vectors.filter fun v => !((s.chunksOf record).map (·.id)).contains v.chunk

/-- The store without the vectors of the chunks of a record. -/
def dropVectors (s : Store) (record : Id) : Store := { s with vectors := s.vectorsBeside record }

/-- The store without the chunks of a record and their vectors. -/
def dropChunks (s : Store) (record : Id) : Store :=
  { s with chunks := s.chunks.filter (·.record != record), vectors := s.vectorsBeside record }

/-- The store with the content of a record of a tenant written anew. -/
def rewritten (s : Store) (tenant : String) (id : Id) (content : RecordContent) (now : Instant) :
    Store :=
  s.changeRecords (isOf tenant id) fun r => { r with content, updatedAt := now }

/-- The store with a live record of a tenant deleted. -/
def buried (s : Store) (tenant : String) (id : Id) (now : Instant) : Store :=
  s.changeRecords (fun r => isOf tenant id r && r.live) fun r =>
    { r with deletedAt := some now, updatedAt := now }

/-- The store behind the retirement of a record. -/
def retired (s : Store) (r : Record) (now : Instant) : Store :=
  (s.dropChunks r.id).buried r.tenant r.id now

/-- Chunks that can be added to others without a clash. -/
def Insertable (held rows : List StoredChunk) : Prop := addChunks held rows = .ok (held ++ rows)

/-- Adding chunks either clashes or comes to the chunks behind those that are there. -/
lemma addChunks_eq_ok {held rows out : List StoredChunk} (h : addChunks held rows = .ok out) :
    out = held ++ rows := by
  induction rows generalizing held with
  | nil =>
    cases h
    rw [List.append_nil]
  | cons c rest ih =>
    unfold addChunks at h
    split at h
    · cases h
    · rw [ih h, List.append_assoc, List.singleton_append]

/-- Chunks can be added in two parts exactly when they can be added at once. -/
lemma insertable_append {held first rest : List StoredChunk} (h : Insertable held first) :
    Insertable held (first ++ rest) ↔ Insertable (held ++ first) rest := by
  unfold Insertable at h ⊢
  induction first generalizing held with
  | nil => simp
  | cons c first ih =>
    unfold addChunks at h
    split at h
    · cases h
    · rename_i hc
      have hcons : held ++ c :: first = held ++ [c] ++ first := by simp
      rw [hcons] at h
      have hstep : addChunks held (c :: first ++ rest) =
          addChunks (held ++ [c]) (first ++ rest) := by
        rw [List.cons_append]
        conv_lhs => unfold addChunks
        rw [if_neg hc]
      have hsplit := ih h
      rw [hstep, hcons]
      rw [← hsplit, List.cons_append, List.append_assoc]
      simp

/-- A batch of chunks that is added can be added, and each of its chunks has a record. -/
lemma insertBatch_eq_ok {rows : List StoredChunk}
    (h : perform (insertBatch rows) s = (.ok (), t)) :
    Insertable s.chunks rows ∧ t = s.withChunks rows := by
  have hrun := (perform_statement_eq_ok.mp h).2
  rcases hadd : addChunks s.chunks rows with e | out
  · simp [hadd, bind, Except.bind] at hrun
  · have hout := addChunks_eq_ok hadd
    subst hout
    simp only [hadd, bind, Except.bind] at hrun
    split at hrun
    · cases hrun
      exact ⟨hadd, rfl⟩
    · cases hrun

/-- Batches of chunks that are added one after the other come to all of their chunks. -/
lemma insertBatches_eq_ok {parts : List (List StoredChunk)}
    (h : perform (parts.forM insertBatch) s = (.ok (), t)) :
    Insertable s.chunks parts.flatten ∧ t = s.withChunks parts.flatten := by
  induction parts generalizing s with
  | nil =>
    have ht : t = s := (congrArg Prod.snd h).symm
    subst ht
    exact ⟨by simp [Insertable, addChunks], by simp [withChunks]⟩
  | cons part parts ih =>
    change perform (insertBatch part >>= fun _ => parts.forM insertBatch) s = _ at h
    obtain ⟨⟨⟩, u, hpart, hrest⟩ := perform_bind_eq_ok.mp h
    obtain ⟨hfirst, rfl⟩ := insertBatch_eq_ok hpart
    obtain ⟨hothers, rfl⟩ := ih hrest
    refine ⟨?_, ?_⟩
    · rw [List.flatten_cons, insertable_append hfirst]
      exact hothers
    · simp [withChunks]

/-- Chunks that are added can be added, and are then in the store. -/
lemma insertChunks_eq_ok {rows : List StoredChunk}
    (h : perform (insertChunks rows) s = (.ok (), t)) :
    Insertable s.chunks rows ∧ t = s.withChunks rows := by
  have hall := insertBatches_eq_ok h
  rw [flatten_batches] at hall
  exact hall

/-! ### Batches of vectors -/

/-- Is a chunk waiting to be embedded? -/
def isPending (s : Store) (chunk : Id) : Bool :=
  s.chunks.any fun c => c.id == chunk && c.status == .pending

/-- The store with a chunk marked as embedded if it is pending. -/
def marked (s : Store) (chunk : Id) : Store :=
  s.changeChunks (fun c => c.id == chunk && c.status == .pending) fun c =>
    { c with status := .embedded, lastError := none }

/-- The row of the next vector that is written. -/
def vectorRow (s : Store) (chunk : Id) (tenant version : String) (v : Vec) : StoredVector :=
  ⟨s.lastSeq + 1, chunk, tenant, version, v.length, v.text⟩

/-- The store with the vector of a chunk for a tenant put in place of any that it had. -/
def withVector (s : Store) (chunk : Id) (tenant version : String) (v : Vec) : Store :=
  { s with
    vectors := (s.vectors.filter fun held => !(held.chunk == chunk && held.tenant == tenant)) ++
      [s.vectorRow chunk tenant version v]
    lastSeq := s.lastSeq + 1 }

/-- The store with one pair of a batch committed, which counts only if its chunk is pending. -/
def embedOne (tenant version : String) (s : Store) (pair : StoredChunk × Vec) : Store :=
  if s.isPending pair.1.id then (s.marked pair.1.id).withVector pair.1.id tenant version pair.2
  else s

/-- The store with a batch committed, one pair after the other. -/
def embedAll (tenant version : String) (s : Store) (batch : List (StoredChunk × Vec)) : Store :=
  batch.foldl (embedOne tenant version) s

/-- The vectors of a batch that count when it is committed. -/
def counted (tenant version : String) : Store → List (StoredChunk × Vec) → List (Id × Vec)
  | _, [] => []
  | s, pair :: rest =>
    if s.isPending pair.1.id then
      (pair.1.id, pair.2) :: counted tenant version (embedOne tenant version s pair) rest
    else counted tenant version s rest

/-- The store with a note when a record was indexed. -/
def noted (s : Store) (record : Id) (now : Instant) : Store :=
  s.changeRecords (·.id == record) fun r => { r with indexedAt := some now }

/-- The store behind the commitment of a batch. -/
def committed (s : Store) (tenant : String) (record : Id) (version : String) (now : Instant)
    (batch : List (StoredChunk × Vec)) : Store :=
  if (counted tenant version s batch).isEmpty then embedAll tenant version s batch
  else (embedAll tenant version s batch).noted record now

/-- Marking a chunk keeps the chunk of every identifier in the store. -/
lemma chunk?_marked_isSome (chunk id : Id) :
    ((s.marked chunk).chunk? id).isSome = (s.chunk? id).isSome := by
  unfold chunk? marked changeChunks
  rw [Bool.eq_iff_iff, List.find?_isSome, List.find?_isSome]
  constructor
  · rintro ⟨c, hc, hid⟩
    obtain ⟨c', hc', rfl⟩ := List.mem_map.mp hc
    refine ⟨c', hc', ?_⟩
    split at hid <;> exact hid
  · rintro ⟨c, hc, hid⟩
    refine ⟨_, List.mem_map_of_mem hc, ?_⟩
    split <;> exact hid

/-- A pending chunk is in the store. -/
lemma chunk?_isSome_of_isPending {chunk : Id} (h : s.isPending chunk = true) :
    (s.chunk? chunk).isSome = true := by
  unfold isPending at h
  obtain ⟨c, hc, hid⟩ := List.any_eq_true.mp h
  unfold chunk?
  rw [List.find?_isSome]
  exact ⟨c, hc, (Bool.and_eq_true_iff.mp hid).1⟩

/-- Writing the vector of a chunk that is in the store. -/
lemma writeVector_eq_ok {chunk : Id} {tenant version : String} {v : Vec}
    (h : perform (writeVector chunk tenant version v) s = (.ok (), t)) :
    t = s.withVector chunk tenant version v := by
  have hrun := (perform_statement_eq_ok.mp h).2
  dsimp only at hrun
  split at hrun
  · cases hrun
  · cases hrun
    rfl

/-- Marking a chunk tells whether it was pending. -/
lemma markEmbedded_eq_ok {chunk : Id} {marked : Bool}
    (h : perform (markEmbedded chunk) s = (.ok marked, t)) :
    marked = s.isPending chunk ∧ t = s.marked chunk := by
  have hrun := (perform_writing_eq_ok.mp h).2
  cases hrun
  exact ⟨rfl, rfl⟩

/-- Marking a chunk that is not pending changes nothing. -/
lemma marked_of_not_isPending {chunk : Id} (h : s.isPending chunk = false) :
    s.marked chunk = s := by
  have hmap : (s.chunks.map fun c =>
      if c.id == chunk && c.status == .pending then
        { c with status := .embedded, lastError := none } else c) = s.chunks := by
    refine (List.map_congr_left fun c hc => ?_).trans (List.map_id _)
    have hno := List.any_eq_false.mp h c hc
    rw [if_neg hno]
    rfl
  unfold marked changeChunks
  rw [hmap]

/-- Writing a batch that succeeds commits its pairs one after the other and gives those that
count. -/
lemma writeEach_eq_ok {tenant version : String} {batch : List (StoredChunk × Vec)}
    {written : List (Id × Vec)}
    (h : perform (writeEach tenant version batch) s = (.ok written, t)) :
    written = counted tenant version s batch ∧ t = embedAll tenant version s batch := by
  induction batch generalizing s written with
  | nil =>
    cases h
    exact ⟨rfl, rfl⟩
  | cons pair rest ih =>
    obtain ⟨chunk, v⟩ := pair
    unfold writeEach at h
    obtain ⟨b, u, hmark, hrest⟩ := perform_bind_eq_ok.mp h
    obtain ⟨rfl, rfl⟩ := markEmbedded_eq_ok hmark
    cases hp : s.isPending chunk.id
    · rw [hp, marked_of_not_isPending hp] at hrest
      obtain ⟨rfl, rfl⟩ := ih hrest
      refine ⟨?_, ?_⟩
      · simp [counted, hp]
      · simp [embedAll, embedOne, hp]
    · rw [hp] at hrest
      obtain ⟨⟨⟩, u, hwrite, hrest⟩ := perform_bind_eq_ok.mp hrest
      rw [writeVector_eq_ok hwrite] at hrest
      obtain ⟨others, u, hothers, hpure⟩ := perform_bind_eq_ok.mp hrest
      cases hpure
      obtain ⟨rfl, rfl⟩ := ih hothers
      refine ⟨?_, ?_⟩
      · simp [counted, embedOne, hp]
      · simp [embedAll, embedOne, hp]

/-- Committing a batch that succeeds. -/
lemma commitBatch_eq_ok {tenant version : String} {record : Id} {now : Instant}
    {batch : List (StoredChunk × Vec)} {written : List (Id × Vec)}
    (h : perform (commitBatch tenant record version now batch) s = (.ok written, t)) :
    written = counted tenant version s batch ∧
      t = s.committed tenant record version now batch := by
  have hwork := (perform_transaction_eq_ok.mp h).1
  obtain ⟨counts, u, heach, hrest⟩ := perform_bind_eq_ok.mp hwork
  obtain ⟨rfl, rfl⟩ := writeEach_eq_ok heach
  unfold committed
  cases hempty : (counted tenant version s batch).isEmpty
  · rw [hempty] at hrest
    obtain ⟨⟨⟩, u, hnote, hpure⟩ := perform_bind_eq_ok.mp hrest
    cases hpure
    cases (perform_writing_eq_ok.mp hnote).2
    exact ⟨rfl, rfl⟩
  · rw [hempty] at hrest
    cases hrest
    exact ⟨rfl, rfl⟩

/-! ### Chunks that fail or are queued again -/

/-- The store with those of some chunks marked as failed that are pending. -/
def failed (s : Store) (chunks : List Id) (error : String) : Store :=
  s.changeChunks (fun c => chunks.contains c.id && c.status == .pending) fun c =>
    { c with status := .failed, lastError := some error }

/-- The store with the failed chunks of live records pending again. -/
def requeued (s : Store) : Store :=
  s.changeChunks (fun c => c.status == .failed && (s.context? c).isSome) fun c =>
    { c with status := .pending }

/-! ### Retiring a record -/

/-- Dropping the chunks of a record leaves nothing of their vectors. -/
lemma dropVectors_dropChunks (s : Store) (record : Id) :
    (s.dropVectors record).dropChunks record = s.dropChunks record := by
  have hof : (s.dropVectors record).chunksOf record = s.chunksOf record := rfl
  unfold dropChunks
  congr 1
  unfold vectorsBeside
  rw [hof]
  unfold dropVectors vectorsBeside
  rw [List.filter_filter]
  simp only [Bool.and_self]

/-- The vectors that go with the chunks of a record are those that are left out of the store. -/
lemma deleteVectors_eq_ok {record : Id} {n : Nat}
    (h : perform (deleteVectors record) s = (.ok n, t)) : t = s.dropVectors record := by
  cases (perform_writing_eq_ok.mp h).2
  rfl

/-- The chunks of a record go with their vectors. -/
lemma deleteChunks_eq_ok {record : Id} {n : Nat}
    (h : perform (deleteChunks record) s = (.ok n, t)) : t = s.dropChunks record := by
  cases (perform_writing_eq_ok.mp h).2
  rfl

/-- Listing the chunks of a record. -/
lemma listChunks_eq_ok {record : Id} {chunks : List StoredChunk}
    (h : perform (listChunks record) s = (.ok chunks, t)) :
    chunks = inOrder (s.chunksOf record) ∧ t = s := by
  obtain ⟨-, rfl, rfl⟩ := perform_reading_eq_ok.mp h
  exact ⟨rfl, rfl⟩

/-- The identifiers of the chunks of a record in order. -/
def chunkIds (s : Store) (record : Id) : List Id := (inOrder (s.chunksOf record)).map (·.id)

/-- The retirement of a record that succeeds gives its chunks. -/
lemma retireWork_eq_ok {r : Record} {now : Instant} {gone : List Id}
    (h : perform (Service.retireWork r now) s = (.ok gone, t)) :
    gone = s.chunkIds r.id ∧ t = s.retired r now := by
  have hwork := (perform_transaction_eq_ok.mp h).1
  obtain ⟨chunks, u, hlist, hrest⟩ := perform_bind_eq_ok.mp hwork
  obtain ⟨rfl, rfl⟩ := listChunks_eq_ok hlist
  obtain ⟨n, v, hvectors, hrest⟩ := perform_bind_eq_ok.mp hrest
  rw [deleteVectors_eq_ok hvectors] at hrest
  obtain ⟨m, w, hchunks, hrest⟩ := perform_bind_eq_ok.mp hrest
  rw [deleteChunks_eq_ok hchunks, dropVectors_dropChunks] at hrest
  obtain ⟨k, x, hrecord, hpure⟩ := perform_bind_eq_ok.mp hrest
  cases (perform_writing_eq_ok.mp hrecord).2
  cases hpure
  exact ⟨rfl, rfl⟩

end Store

/-! ### Staging a draft -/

namespace Draft

/-- The live record that a draft replaces in a store. -/
def target? (d : Draft) (s : Store) : Option Record :=
  d.entity.bind fun link => s.records.find? (·.isLiveFor d.tenant link)

/-- The record that a draft makes, as it is kept. -/
def newRecord (d : Draft) (id : Id) (now : Instant) : Record :=
  { d.record id now with content := d.content.kept }

/-- The store behind a draft that makes a record. -/
def created (d : Draft) (fresh : Nat → Id) (now : Instant) (s : Store) : Store :=
  (s.withRecord (d.newRecord (fresh 0) now)).withChunks (d.rows fresh (fresh 0))

/-- The store behind a draft that rewrites a record. -/
def replaced (d : Draft) (fresh : Nat → Id) (now : Instant) (held : Record) (s : Store) : Store :=
  ((s.dropChunks held.id).rewritten held.tenant held.id d.content.kept now).withChunks
    (d.rows fresh held.id)

/-- What the transaction of a draft can come to: what it has written, and the store behind it. -/
inductive Staging (d : Draft) (fresh : Nat → Id) (now : Instant) (s : Store) :
    Staged → Store → Prop
  | created (hnone : d.target? s = none) (hid : s.record? (fresh 0) = none)
      (hrows : Store.Insertable s.chunks (d.rows fresh (fresh 0))) :
      Staging d fresh now s ⟨d.tenant, fresh 0, d.rows fresh (fresh 0), [], true⟩
        (d.created fresh now s)
  | replaced {held : Record} (hheld : d.target? s = some held)
      (hrows : Store.Insertable (s.dropChunks held.id).chunks (d.rows fresh held.id)) :
      Staging d fresh now s
        ⟨d.tenant, held.id, d.rows fresh held.id, s.chunkIds held.id, false⟩
        (d.replaced fresh now held s)

variable {d : Draft} {fresh : Nat → Id} {now : Instant} {s t : Store}

/-- Looking for the record that a draft replaces. -/
lemma target_eq_ok {held : Option Record} (h : perform d.target s = (.ok held, t)) :
    held = d.target? s ∧ t = s := by
  unfold target at h
  unfold target?
  cases hentity : d.entity with
  | none =>
    rw [hentity] at h
    cases h
    exact ⟨rfl, rfl⟩
  | some link =>
    rw [hentity] at h
    obtain ⟨-, rfl, rfl⟩ := Store.perform_reading_eq_ok.mp h
    exact ⟨rfl, rfl⟩

/-- A record that is added is new to the store. -/
lemma insertRecord_eq_ok {id : Id}
    (h : perform (Store.insertRecord (d.record id now)) s = (.ok (), t)) :
    s.record? id = none ∧ t = s.withRecord (d.newRecord id now) := by
  have hrun := (Store.perform_statement_eq_ok.mp h).2
  dsimp only at hrun
  split at hrun
  · cases hrun
  · rename_i hfree
    cases hrun
    refine ⟨?_, rfl⟩
    rw [Bool.or_eq_true, not_or] at hfree
    exact Option.not_isSome_iff_eq_none.mp hfree.1

/-- The transaction of a draft that succeeds. -/
lemma stage_eq_ok {staged : Staged} (h : perform (d.stage fresh now) s = (.ok staged, t)) :
    Staging d fresh now s staged t := by
  unfold stage at h
  obtain ⟨held, u, htarget, hrest⟩ := perform_bind_eq_ok.mp h
  obtain ⟨hheld, rfl⟩ := target_eq_ok htarget
  cases held with
  | none =>
    obtain ⟨⟨⟩, v, hrecord, hrest⟩ := perform_bind_eq_ok.mp hrest
    obtain ⟨hid, rfl⟩ := insertRecord_eq_ok hrecord
    obtain ⟨⟨⟩, w, hchunks, hpure⟩ := perform_bind_eq_ok.mp hrest
    obtain ⟨hrows, rfl⟩ := Store.insertChunks_eq_ok hchunks
    cases hpure
    exact .created hheld.symm hid hrows
  | some held =>
    obtain ⟨old, v, hlist, hrest⟩ := perform_bind_eq_ok.mp hrest
    obtain ⟨rfl, rfl⟩ := Store.listChunks_eq_ok hlist
    obtain ⟨n, w, hdelete, hrest⟩ := perform_bind_eq_ok.mp hrest
    obtain rfl := Store.deleteChunks_eq_ok hdelete
    obtain ⟨⟨⟩, x, hupdate, hrest⟩ := perform_bind_eq_ok.mp hrest
    cases (Store.perform_writing_eq_ok.mp hupdate).2
    obtain ⟨⟨⟩, y, hchunks, hpure⟩ := perform_bind_eq_ok.mp hrest
    obtain ⟨hrows, rfl⟩ := Store.insertChunks_eq_ok hchunks
    cases hpure
    exact .replaced hheld.symm hrows

end Draft

end Dossier
