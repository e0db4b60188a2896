import Dossier.Proofs.Store.Statement
import Dossier.Proofs.Vector.Index

/-!
# Bringing the indexes up to date

Taking over what was written since and making both indexes anew are readings of the store and one
change to the memory of the process.  `Memory.follow` and `Memory.rebuilt` say what this change is,
and `sync_cases` and `rebuild_cases` what the two operations come to; nothing else has to look into
them.
-/

namespace Dossier

variable {σ : Type}

/-! ### Listing vectors -/

namespace Store

variable {s t : Store} {seq : Nat} {rows : List ListedVector}

/-- The vectors behind a number that belong to chunks of live records, with their values. -/
def listedAfter (s : Store) (seq : Nat) : Except StoreError (List ListedVector) :=
  (s.vectors.filter fun v => seq < v.seq && isLiveVector s v).mapM fun v =>
    (StoredVector.value v).map fun value => (v.seq, v.chunk, value)

/-- Listing the vectors behind a number. -/
lemma listVectorsAfter_eq_ok (h : perform (listVectorsAfter seq) s = (.ok rows, t)) :
    s.listedAfter seq = .ok rows ∧ t = s := by
  have hrun := (perform_statement_eq_ok.mp h).2
  rcases hlisted : s.listedAfter seq with e | found
  · unfold listedAfter at hlisted
    simp [hlisted, bind, Except.bind] at hrun
  · unfold listedAfter at hlisted
    simp only [hlisted, bind, Except.bind, Pure.pure, Except.pure] at hrun
    cases hrun
    exact ⟨rfl, rfl⟩

/-- Listing vectors that can be read succeeds, unless the statement is refused. -/
lemma perform_listVectorsAfter (hlisting : .listVectors ∉ s.refused)
    (hrows : s.listedAfter seq = .ok rows) :
    perform (listVectorsAfter seq) s = (.ok rows, s) := by
  refine perform_statement_eq_ok.mpr ⟨hlisting, ?_⟩
  unfold listedAfter at hrows
  dsimp only
  rw [hrows]
  rfl

end Store

/-! ### The indexes afterwards -/

namespace LexicalIndex

/-- The index with some live chunks put in place. -/
def addAll (index : LexicalIndex) (sources : List ChunkContext) : LexicalIndex :=
  sources.foldl (fun index ctx =>
    index.add ctx.chunk.id ctx.record.id ctx.record.tenant ctx.chunk.text) index

/-- What putting chunks into an index comes to, whatever went before: all of them are put in place
and counted, and so are those without a vector. -/
lemma Intake.foldl_next (covered : List Id) (sources : List ChunkContext) (i : Intake) :
    sources.foldl (next covered) i =
      { index := i.index.addAll sources
        given := i.given + sources.length
        missing := i.missing + sources.countP fun ctx => !covered.contains ctx.chunk.id } := by
  induction sources generalizing i with
  | nil => rfl
  | cons ctx rest ih =>
    rw [List.foldl_cons, ih, List.length_cons, List.countP_cons]
    unfold next
    cases hcovered : covered.contains ctx.chunk.id
    · simp only [Bool.false_eq_true, ↓reduceIte, Bool.not_false, addAll, List.foldl_cons,
        Nat.add_assoc, Nat.add_comm 1]
    · simp only [↓reduceIte, Bool.not_true, Bool.false_eq_true, Nat.add_zero, addAll,
        List.foldl_cons, Nat.add_assoc, Nat.add_comm 1]

end LexicalIndex

namespace Memory

/-- The memory with the vectors of the store taken over that were not seen before. -/
def follow (m : Memory) (rows : List ListedVector) : Memory :=
  { m with
    vectors := (m.vectors.intake rows).index
    watermark := lastNumber m.watermark rows }

/-- The lexical index of some live chunks. -/
def lexicalOf (sources : List ChunkContext) : LexicalIndex := .addAll .empty sources

/-- The memory with both indexes made anew from what the store lists. -/
def rebuilt (m : Memory) (sources : List ChunkContext) (rows : List ListedVector) : Memory :=
  { m with
    lexical := lexicalOf sources
    vectors := (m.vectors.clear.intake rows).index
    watermark := lastNumber 0 rows }

end Memory

/-- What a rebuild reports of the live chunks and the vectors that it has read: the chunks, the
vectors that fit and the others, and the chunks without a vector that fits. -/
structure RebuildReport.Counts (report : RebuildReport) (fits : ListedVector → Bool)
    (sources : List ChunkContext) (rows : List ListedVector) : Prop where
  lexicalChunks : report.lexicalChunks = sources.length
  vectors : report.vectors = rows.countP fits
  missing : report.missingVectors = sources.countP fun ctx =>
    !((rows.filter fits).map (·.2.1)).contains ctx.chunk.id
  listed : report.vectors + report.errors = rows.length

namespace Service

variable {w w' : World σ}

/-- Taking over the vectors that were written since succeeds if the store can be read. -/
lemma perform_sync {rows : List ListedVector} (hlisting : .listVectors ∉ w.store.refused)
    (hrows : w.store.listedAfter w.memory.watermark = .ok rows) :
    perform (sync : Action σ Nat) w =
      (.ok (rows.countP w.memory.vectors.fits), { w with memory := w.memory.follow rows }) := by
  have hlist := Store.perform_listVectorsAfter hlisting hrows
  unfold sync
  rw [perform_bind_of_ok (perform_get _), perform_bind_of_ok (perform_store_of_ok_same hlist)]
  dsimp only
  rw [perform_bind_of_ok (perform_onMemory _ _), VectorIndex.taken_intake]
  rfl

/-- Taking over the vectors that were written since fails if they cannot be listed. -/
lemma perform_sync_of_error {e : StoreError} {s : Store}
    (hlist : perform (Store.listVectorsAfter w.memory.watermark) w.store = (.error e, s)) :
    perform (sync : Action σ Nat) w = (.error (.ofStore e), w) := by
  have hsame : s = w.store := Store.perform_statement_error hlist
  unfold sync
  rw [perform_bind_of_ok (perform_get w), perform_bind_of_error (perform_store_of_error hlist),
    hsame]

/-- Taking over the vectors that were written since fails if listing them is refused. -/
lemma perform_sync_of_refused (hlisting : .listVectors ∈ w.store.refused) :
    perform (sync : Action σ Nat) w = (.error (.ofStore (.refused .listVectors)), w) := by
  refine perform_sync_of_error (s := w.store) ?_
  unfold Store.listVectorsAfter
  rw [Store.perform_statement, if_pos hlisting]

/-- Taking over the vectors that were written since fails without a change, or it takes over what is
listed. -/
lemma sync_cases (w : World σ) :
    (∃ e, perform (sync : Action σ Nat) w = (.error e, w)) ∨
      ∃ rows, w.store.listedAfter w.memory.watermark = .ok rows ∧
        perform (sync : Action σ Nat) w =
          (.ok (rows.countP w.memory.vectors.fits), { w with memory := w.memory.follow rows }) := by
  rcases hlist : perform (Store.listVectorsAfter w.memory.watermark) w.store with ⟨e | rows, s⟩
  · exact .inl ⟨_, perform_sync_of_error hlist⟩
  · have hallowed := (Store.perform_statement_eq_ok.mp hlist).1
    obtain ⟨hrows, -⟩ := Store.listVectorsAfter_eq_ok hlist
    exact .inr ⟨rows, hrows, perform_sync hallowed hrows⟩

/-- Taking over the vectors that were written since comes to what is listed, if it succeeds. -/
lemma sync_eq_ok {n : Nat} (h : perform sync w = (.ok n, w')) :
    ∃ rows, w.store.listedAfter w.memory.watermark = .ok rows ∧
      w' = { w with memory := w.memory.follow rows } := by
  rcases sync_cases w with ⟨e, hfails⟩ | ⟨rows, hrows, hsync⟩
  · rw [hfails] at h
    cases h
  · rw [hsync] at h
    cases h
    exact ⟨rows, hrows, rfl⟩

/-- Making both indexes anew succeeds if the store can be read, and counts what it has read. -/
lemma perform_rebuild {sources : List ChunkContext} {rows : List ListedVector}
    (hlive : perform Store.listLiveChunks w.store = (.ok sources, w.store))
    (hlisting : .listVectors ∉ w.store.refused) (hrows : w.store.listedAfter 0 = .ok rows) :
    ∃ report : RebuildReport, report.Counts w.memory.vectors.fits sources rows ∧
      perform rebuild w = (.ok report, { w with memory := w.memory.rebuilt sources rows }) := by
  have hlist := Store.perform_listVectorsAfter hlisting hrows
  set vectors := w.memory.vectors.clear.intake rows with hvectors
  set lexical := LexicalIndex.intake vectors.covered sources with hlexical
  have hintake : lexical = ⟨Memory.lexicalOf sources, sources.length,
      sources.countP fun ctx => !vectors.covered.contains ctx.chunk.id⟩ := by
    rw [hlexical, LexicalIndex.intake, LexicalIndex.Intake.foldl_next, Nat.zero_add, Nat.zero_add]
    rfl
  refine ⟨⟨lexical.given, vectors.taken, lexical.missing, vectors.refused⟩, ?_, ?_⟩
  · have hcovered : ∀ chunk, vectors.covered.contains chunk =
        ((rows.filter w.memory.vectors.fits).map (·.2.1)).contains chunk := fun chunk =>
      Bool.eq_iff_iff.mpr (by
        rw [List.contains_iff_mem, List.contains_iff_mem, hvectors, VectorIndex.mem_covered_intake]
        rfl)
    constructor
    · rw [hintake]
    · exact VectorIndex.taken_intake rows
    · simp only [hintake, hcovered]
    · exact VectorIndex.taken_add_refused_intake rows
  · have hmemory : w.memory.rebuilt sources rows = { w.memory with
        lexical := lexical.index
        vectors := vectors.index
        watermark := lastNumber 0 rows } := by
      rw [hintake]
      rfl
    unfold rebuild
    rw [perform_bind_of_ok (perform_store_of_ok_same hlive),
      perform_bind_of_ok (perform_store_of_ok_same hlist), perform_bind_of_ok (perform_get _)]
    dsimp only
    rw [perform_bind_of_ok (perform_onMemory _ _), hmemory]
    rfl

/-- Making both indexes anew fails without a change, or it puts what it has read in their place. -/
lemma rebuild_cases (w : World σ) :
    (∃ e, perform (rebuild : Action σ RebuildReport) w = (.error e, w)) ∨
      ∃ sources rows report, sources.Perm w.store.liveChunks ∧
        .listVectors ∉ w.store.refused ∧ w.store.listedAfter 0 = .ok rows ∧
        report.Counts w.memory.vectors.fits sources rows ∧
        perform (rebuild : Action σ RebuildReport) w =
          (.ok report, { w with memory := w.memory.rebuilt sources rows }) := by
  rcases hlive : perform Store.listLiveChunks w.store with ⟨e | sources, s⟩
  · have hsame : s = w.store := Store.perform_reading_error hlive
    left
    refine ⟨.ofStore e, ?_⟩
    unfold rebuild
    rw [perform_bind_of_error (perform_store_of_error hlive), hsame]
  obtain ⟨-, hsources, rfl⟩ := Store.perform_reading_eq_ok.mp hlive
  rcases hlist : perform (Store.listVectorsAfter 0) w.store with ⟨e | rows, s⟩
  · have hsame : s = w.store := Store.perform_statement_error hlist
    left
    refine ⟨.ofStore e, ?_⟩
    unfold rebuild
    rw [perform_bind_of_ok (perform_store_of_ok_same hlive),
      perform_bind_of_error (perform_store_of_error hlist), hsame]
  · have hlisting := (Store.perform_statement_eq_ok.mp hlist).1
    obtain ⟨hrows, -⟩ := Store.listVectorsAfter_eq_ok hlist
    obtain ⟨report, hcounts, hrebuild⟩ := perform_rebuild hlive hlisting hrows
    refine .inr ⟨sources, rows, report, ?_, hlisting, hrows, hcounts, hrebuild⟩
    rw [← hsources]
    exact List.mergeSort_perm _ _

end Service

end Dossier
