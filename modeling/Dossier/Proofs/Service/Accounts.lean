import Dossier.Proofs.Service.Covering
import Dossier.Proofs.Service.Listing
import Dossier.Proofs.Service.Search
import Dossier.Proofs.Store.Lookup

/-!
# A rebuild accounts for every live chunk

Making both indexes anew asks nothing of the store but what its tables ensure.  Whatever the indexes
held before, they then hold the chunks of live records, and of the vectors of these chunks under the
tenants of their records those that fit.  The report counts every live chunk once, as one with a
vector in the index or as one without, and every such vector once, as one that fits or as one that
does not.
-/

namespace Dossier

variable {σ : Type} {w w' : World σ} {s : Store} {m : Memory} {sources : List ChunkContext}
  {rows : List ListedVector}

/-- Lists that name the same things, each once, are of one length. -/
lemma length_eq_of_names {α β : Type} {l : List α} {l' : List β} {f : α → Id} {g : β → Id}
    (hl : (l.map f).Nodup) (hl' : (l'.map g).Nodup) (h : ∀ id, id ∈ l.map f ↔ id ∈ l'.map g) :
    l.length = l'.length := by
  have hperm := (List.perm_ext_iff_of_nodup hl hl').mpr h
  simpa using hperm.length_eq

/-! ### Indexes that are made anew -/

namespace Memory

/-- The entries of a lexical index that is made anew are the sources. -/
lemma mem_lexicalOf (hnodup : (sources.map (·.chunk.id)).Nodup) {e : LexicalEntry} :
    e ∈ (lexicalOf sources).entries ↔ ∃ ctx ∈ sources,
      e = ⟨ctx.chunk.id, ctx.record.id, ctx.record.tenant, terms ctx.chunk.text⟩ := by
  constructor
  · intro he
    rcases LexicalIndex.of_mem_foldl_add he with hold | hsource
    · cases hold
    · exact hsource
  · rintro ⟨ctx, hctx, rfl⟩
    exact LexicalIndex.mem_foldl_add hnodup hctx

/-- A lexical index that is made anew names a chunk once. -/
lemma nodup_lexicalOf (sources : List ChunkContext) :
    ((lexicalOf sources).entries.map (·.chunk)).Nodup :=
  LexicalIndex.nodup_foldl_add List.nodup_nil

/-- The entries of a vector index that is made anew are the rows that fit. -/
lemma mem_vectors_rebuilt (hnodup : (rows.map (·.2.1)).Nodup) {e : Id × Vec} :
    e ∈ (m.rebuilt sources rows).vectors.entries ↔ ∃ row ∈ rows, m.vectors.fits row ∧ row.2 = e := by
  have hempty : e ∉ m.vectors.clear.entries := List.not_mem_nil
  refine (VectorIndex.mem_intake hnodup).trans (or_iff_left ?_)
  exact fun hold => hempty hold.1

/-- A vector index that is made anew names a chunk once. -/
lemma nodup_vectors_rebuilt (m : Memory) (sources : List ChunkContext) (rows : List ListedVector) :
    ((m.rebuilt sources rows).vectors.entries.map (·.1)).Nodup := by
  have hempty : (m.vectors.clear.entries.map (·.1)).Nodup := List.nodup_nil
  exact VectorIndex.nodup_intake hempty rows

/-- A lexical index that is made anew has as many entries as there are sources. -/
lemma length_lexicalOf (hnodup : (sources.map (·.chunk.id)).Nodup) :
    (lexicalOf sources).entries.length = sources.length := by
  refine length_eq_of_names (nodup_lexicalOf sources) hnodup fun id => ?_
  simp only [List.mem_map, mem_lexicalOf hnodup]
  constructor
  · rintro ⟨e, ⟨ctx, hctx, rfl⟩, rfl⟩
    exact ⟨ctx, hctx, rfl⟩
  · rintro ⟨ctx, hctx, rfl⟩
    exact ⟨_, ⟨ctx, hctx, rfl⟩, rfl⟩

/-- A vector index that is made anew has as many entries as there are rows that fit. -/
lemma size_vectors_rebuilt (hnodup : (rows.map (·.2.1)).Nodup) :
    (m.rebuilt sources rows).vectors.size = rows.countP m.vectors.fits := by
  rw [List.countP_eq_length_filter]
  have hfitting : ((rows.filter m.vectors.fits).map (·.2.1)).Nodup :=
    hnodup.sublist (List.filter_sublist.map _)
  refine length_eq_of_names (m.nodup_vectors_rebuilt sources rows) hfitting fun id => ?_
  simp only [List.mem_map, mem_vectors_rebuilt hnodup, List.mem_filter]
  constructor
  · rintro ⟨e, ⟨row, hrow, hfits, rfl⟩, rfl⟩
    exact ⟨row, ⟨hrow, hfits⟩, rfl⟩
  · rintro ⟨row, ⟨hrow, hfits⟩, rfl⟩
    exact ⟨row.2, ⟨row, hrow, hfits, rfl⟩, rfl⟩

end Memory

/-! ### Counting -/

/-- Some of the names in a list without repetitions are counted by looking for them. -/
lemma countP_contains {names some : List Id} (hnames : names.Nodup) (hsome : some.Nodup)
    (hsubset : some ⊆ names) : names.countP some.contains = some.length := by
  rw [List.countP_eq_length_filter]
  refine List.Perm.length_eq ?_
  refine (List.perm_ext_iff_of_nodup (hnames.filter _) hsome).mpr fun id => ?_
  rw [List.mem_filter, List.contains_iff_mem]
  exact ⟨And.right, fun h => ⟨hsubset h, h⟩⟩

/-- The greatest number among some vectors is not below the least one, nor below any of theirs. -/
lemma le_lastNumber (least : ℕ) (rows : List ListedVector) :
    least ≤ lastNumber least rows ∧ ∀ row ∈ rows, row.1 ≤ lastNumber least rows := by
  unfold lastNumber
  induction rows generalizing least with
  | nil => exact ⟨Nat.le_refl _, by simp⟩
  | cons first rest ih =>
    obtain ⟨hleast, hrest⟩ := ih (max least first.1)
    refine ⟨(Nat.le_max_left _ _).trans hleast, fun row hrow => ?_⟩
    rcases List.mem_cons.mp hrow with rfl | hlater
    · exact (Nat.le_max_right _ _).trans hleast
    · exact hrest row hlater

/-- Behind the numbers of a listing from the beginning there is nothing to list. -/
lemma Store.Constrained.listedAfter_lastNumber (hs : s.Constrained)
    (h : s.listedAfter 0 = .ok rows) : s.listedAfter (lastNumber 0 rows) = .ok [] := by
  have hnone : (s.vectors.filter fun v => lastNumber 0 rows < v.seq && Store.isLiveVector s v) =
      [] := by
    refine List.filter_eq_nil_iff.mpr fun v hv hlate => ?_
    rw [Bool.and_eq_true, decide_eq_true_eq] at hlate
    have hlisted : v ∈ s.vectors.filter fun v => 0 < v.seq && Store.isLiveVector s v :=
      List.mem_filter.mpr ⟨hv, by simp [hs.numbered v hv, hlate.2]⟩
    unfold Store.listedAfter at h
    have hnumbers := map_eq_of_mapM_eq_ok h fun v row hrow => (Store.listed_eq_ok hrow).2.1.symm
    have hmem : v.seq ∈ rows.map (·.1) := by
      rw [hnumbers]
      exact List.mem_map_of_mem hlisted
    obtain ⟨row, hrow, hseq⟩ := List.mem_map.mp hmem
    have hle := (le_lastNumber 0 rows).2 row hrow
    omega
  unfold Store.listedAfter
  rw [hnone]
  rfl

/-! ### Rebuilding -/

/-- What the report of a rebuild says of a store, and the indexes that it leaves behind: the lexical
index has the live chunks; the vector index has of their vectors under the tenants of their records
those of its dimension; the live chunks are counted, each with a vector in the index or as one that
misses it; and so are these vectors, each in the index or as an error. -/
structure RebuildReport.Accounts (report : RebuildReport) (dimension : ℕ) (s : Store) (m : Memory) :
    Prop where
  lexical : ∀ e, e ∈ m.lexical.entries ↔ ∃ ctx ∈ s.liveChunks,
    e = ⟨ctx.chunk.id, ctx.record.id, ctx.record.tenant, terms ctx.chunk.text⟩
  lexicalNames : (m.lexical.entries.map (·.chunk)).Nodup
  vectors : ∀ chunk x, m.vectors.find? chunk = some x ↔ ∃ ctx ∈ s.liveChunks,
    ctx.chunk.id = chunk ∧ s.Holds ctx.record.tenant chunk x ∧ x.length = dimension
  vectorNames : (m.vectors.entries.map (·.1)).Nodup
  lexicalChunks : report.lexicalChunks = s.liveChunks.length
  sizes : m.lexical.entries.length = report.lexicalChunks ∧ m.vectors.size = report.vectors
  ownedVectors : report.vectors + report.errors = s.ownedVectors.length
  missing : report.lexicalChunks = report.vectors + report.missingVectors

namespace Service

/-- A rebuild that succeeds has read the live chunks and the listed vectors, and changes nothing but
the indexes of the process. -/
lemma rebuild_eq_ok {report : RebuildReport} (h : perform rebuild w = (.ok report, w')) :
    ∃ sources rows, sources.Perm w.store.liveChunks ∧ .listVectors ∉ w.store.refused ∧
      w.store.listedAfter 0 = .ok rows ∧
      report.Counts w.memory.vectors.fits sources rows ∧
      w' = { w with memory := w.memory.rebuilt sources rows } := by
  rcases rebuild_cases w with ⟨e, hfails⟩ | ⟨sources, rows, counted, hsources, hlisting, hrows,
    hcounts, hrebuild⟩
  · rw [hfails] at h
    cases h
  · rw [hrebuild] at h
    cases h
    exact ⟨sources, rows, hsources, hlisting, hrows, hcounts, rfl⟩

/-- A vector index that is made anew finds the vectors of live chunks under the tenants of their
records that fit. -/
lemma find?_rebuilt (hs : s.Constrained) (hrows : s.listedAfter 0 = .ok rows) (chunk : Id) (x : Vec) :
    (m.rebuilt sources rows).vectors.find? chunk = some x ↔ ∃ ctx ∈ s.liveChunks,
      ctx.chunk.id = chunk ∧ s.Holds ctx.record.tenant chunk x ∧
        x.length = m.vectors.dimension := by
  rw [VectorIndex.find?_eq_some_iff (m.nodup_vectors_rebuilt sources rows),
    Memory.mem_vectors_rebuilt (hs.nodup_listedAfter hrows)]
  constructor
  · rintro ⟨row, hrow, hfits, heq⟩
    obtain ⟨v, hv, -, hlive, hvalue, -, hchunk⟩ := (Store.mem_listedAfter_iff hrows).mp hrow
    obtain ⟨ctx, hctx, hid, htenant⟩ := hs.isLiveVector_iff.mp hlive
    rw [heq] at hvalue hchunk
    have hlength : row.2.2.length = m.vectors.dimension := beq_iff_eq.mp hfits
    rw [heq] at hlength
    exact ⟨ctx, hctx, hid.trans hchunk, ⟨v, hv, hchunk, htenant.symm, hvalue⟩, hlength⟩
  · rintro ⟨ctx, hctx, hid, ⟨v, hv, hchunk, htenant, hvalue⟩, hlength⟩
    have hlive := hs.isLiveVector_iff.mpr ⟨ctx, hctx, hid.trans hchunk.symm, htenant.symm⟩
    refine ⟨(v.seq, chunk, x), (Store.mem_listedAfter_iff hrows).mpr ?_, beq_iff_eq.mpr hlength, rfl⟩
    exact ⟨v, hv, hs.numbered v hv, hlive, hvalue, rfl, hchunk⟩

/-- A live chunk has a row that fits, or it misses one. -/
lemma length_eq_fitting_add_missing (hs : s.Constrained) (hsources : sources.Perm s.liveChunks)
    (hrows : s.listedAfter 0 = .ok rows) (fits : ListedVector → Bool) :
    sources.length = rows.countP fits +
      sources.countP fun ctx => !((rows.filter fits).map (·.2.1)).contains ctx.chunk.id := by
  set covered := (rows.filter fits).map (·.2.1) with hcovered
  have hnames := (hsources.map (·.chunk.id)).nodup_iff.mpr hs.nodup_liveChunks
  have hdistinct : covered.Nodup :=
    (hs.nodup_listedAfter hrows).sublist (List.filter_sublist.map _)
  have hsubset : covered ⊆ sources.map (·.chunk.id) := by
    intro id hid
    obtain ⟨row, hrow, rfl⟩ := List.mem_map.mp hid
    obtain ⟨v, -, -, hlive, -, -, hchunk⟩ :=
      (Store.mem_listedAfter_iff hrows).mp (List.mem_filter.mp hrow).1
    obtain ⟨ctx, hctx, hname, -⟩ := hs.isLiveVector_iff.mp hlive
    rw [← hchunk, ← hname]
    exact List.mem_map_of_mem (hsources.mem_iff.mpr hctx)
  have hcount := countP_contains hnames hdistinct hsubset
  rw [List.countP_map, hcovered, List.length_map, ← List.countP_eq_length_filter] at hcount
  have hsplit := List.length_eq_countP_add_countP (l := sources) fun ctx =>
    covered.contains ctx.chunk.id
  simp only [Bool.not_eq_true, Bool.decide_eq_false] at hsplit
  rw [hsplit, ← hcount]
  rfl

/-- Making both indexes anew leaves nothing but projections of the store behind, whatever they held
before, and its report counts every live chunk and every vector of one.  Taking over what was
written since finds nothing to take over and changes nothing. -/
theorem rebuild_accounts {report : RebuildReport} (hs : w.store.Constrained) (config : Config)
    (hdim : w.memory.vectors.dimension = config.embedding.dimensions)
    (h : perform rebuild w = (.ok report, w')) :
    report.Accounts config.embedding.dimensions w.store w'.memory ∧
      w' = { w with memory := w'.memory } ∧ perform sync w' = (.ok 0, w') := by
  obtain ⟨sources, rows, hsources, hallowed, hrows, hcounts, rfl⟩ := rebuild_eq_ok h
  have hnames := (hsources.map (·.chunk.id)).nodup_iff.mpr hs.nodup_liveChunks
  have hfitting := length_eq_fitting_add_missing hs hsources hrows w.memory.vectors.fits
  have hentries := Memory.length_lexicalOf hnames
  have hsize : (w.memory.rebuilt sources rows).vectors.size = _ :=
    Memory.size_vectors_rebuilt (hs.nodup_listedAfter hrows)
  refine ⟨?_, rfl, ?_⟩
  · exact
      { lexical := fun e => by
          simp only [← hsources.mem_iff]
          exact Memory.mem_lexicalOf hnames
        lexicalNames := Memory.nodup_lexicalOf sources
        vectors := fun chunk x => by
          rw [← hdim]
          exact find?_rebuilt hs hrows chunk x
        vectorNames := w.memory.nodup_vectors_rebuilt sources rows
        lexicalChunks := hcounts.lexicalChunks.trans hsources.length_eq
        sizes := ⟨hentries.trans hcounts.lexicalChunks.symm, hsize.trans hcounts.vectors.symm⟩
        ownedVectors := hcounts.listed.trans (hs.length_listedAfter hrows)
        missing := by
          rw [hcounts.lexicalChunks, hcounts.vectors, hcounts.missing]
          exact hfitting }
  · have hnothing : w.store.listedAfter (w.memory.rebuilt sources rows).watermark = .ok [] :=
      hs.listedAfter_lastNumber hrows
    exact perform_sync (w := { w with memory := w.memory.rebuilt sources rows }) hallowed hnothing

end Service

/-- A store that other configurations have left behind: of the chunks of a live record the first has
a vector of two components, the second one of three, the third none, and the fourth one of another
tenant; the fifth belongs to a deleted record. -/
def Store.leftBehind : Store where
  records :=
    [⟨⟨1⟩, "acme", ⟨"note", "Call", "", "", "", none, .null⟩, none, none, none, ⟨0⟩, ⟨0⟩, none⟩,
      ⟨⟨2⟩, "acme", ⟨"note", "Call", "", "", "", none, .null⟩, none, none, some ⟨1⟩, ⟨0⟩, ⟨1⟩, none⟩]
  chunks :=
    [⟨⟨11⟩, ⟨1⟩, 0, 0, 3, "one", 1, .embedded, none⟩, ⟨⟨12⟩, ⟨1⟩, 1, 3, 6, "two", 1, .embedded, none⟩,
      ⟨⟨13⟩, ⟨1⟩, 2, 6, 11, "three", 1, .failed, none⟩, ⟨⟨14⟩, ⟨1⟩, 3, 11, 15, "four", 1, .embedded, none⟩,
      ⟨⟨15⟩, ⟨2⟩, 0, 0, 4, "five", 1, .embedded, none⟩]
  vectors :=
    [⟨2, ⟨12⟩, "acme", "before", 3, "[1,0,1]"⟩, ⟨5, ⟨15⟩, "acme", "before", 2, "[0,1]"⟩,
      ⟨6, ⟨14⟩, "other", "before", 2, "[1,1]"⟩, ⟨9, ⟨11⟩, "acme", "now", 2, "[1,0]"⟩]
  lastSeq := 9

/-- A process over this store that has seen everything, and whose indexes hold a chunk that the
store does not. -/
def World.leftBehind : World Unit where
  store := .leftBehind
  memory := ⟨⟨[⟨⟨99⟩, ⟨9⟩, "acme", ["gone"]⟩]⟩, ⟨2, [(⟨99⟩, [Single.one, Binary.zero])]⟩, 9, {}⟩
  drawn := 0
  now := ⟨2⟩
  cancelled := false
  outside := ()

namespace Service

/-- Over this store one of four live chunks has a vector that fits, three miss one, and one vector
does not fit. -/
theorem rebuild_leftBehind :
    ∃ report w', perform rebuild World.leftBehind = (.ok report, w') ∧ report = ⟨4, 1, 3, 1⟩ ∧
      report.Accounts 2 .leftBehind w'.memory ∧ perform sync w' = (.ok 0, w') := by
  have hs : Store.leftBehind.Constrained := ⟨by decide, by decide, by decide⟩
  have hok : (perform rebuild World.leftBehind).1.isOk = true := by decide +kernel
  have hentries : (perform rebuild World.leftBehind).2.memory.vectors.entries =
      [(⟨11⟩, [Single.one, Binary.zero])] := by decide +kernel
  have hlive : Store.leftBehind.liveChunks.length = 4 := by decide +kernel
  have howned : Store.leftBehind.ownedVectors.length = 2 := by decide +kernel
  rcases hrebuild : perform rebuild World.leftBehind with ⟨e | report, w'⟩
  · rw [hrebuild] at hok
    cases hok
  · rw [hrebuild] at hentries
    obtain ⟨haccounts, -, hsync⟩ :=
      rebuild_accounts (w := World.leftBehind) hs Config.small rfl hrebuild
    -- the fields of the report are settled by its account
    have hchunks : report.lexicalChunks = 4 := haccounts.lexicalChunks.trans hlive
    have hvectors : report.vectors = 1 := by
      rw [← haccounts.sizes.2]
      exact congrArg List.length hentries
    have hsum : report.vectors + report.errors = 2 := haccounts.ownedVectors.trans howned
    have hmissing := haccounts.missing
    refine ⟨report, w', rfl, ?_, haccounts, hsync⟩
    rcases report with ⟨chunks, vectors, missing, errors⟩
    dsimp only at hchunks hvectors hsum hmissing
    rw [RebuildReport.mk.injEq]
    omega

end Service

end Dossier
