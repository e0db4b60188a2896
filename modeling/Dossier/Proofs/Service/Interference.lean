import Dossier.Proofs.Service.Following
import Dossier.Proofs.Service.Search

/-!
# What others can do to a search

Two processes that hold the same for a tenant rank its chunks in the same way, whatever they hold
for others, so that a search finds the same records with the same scores and ranks.  What others
have in the vector index decides where the pages of the joint ranking end, and with them how many
chunks of a record a search gets to see: the chunks that it names are the same just when the pages
read show the same (`Service.ReadAlike`).
-/

namespace Dossier

variable {σ τ : Type}

/-! ### Answers from parts of a ranking -/

namespace SearchResponse

variable {rrfK limit recordLimit chunkLimit : Nat} {lexical : List LegHit}
  {part part' own : List ChunkHit}

/-- Legs that rest on parts of one ranking that suffice have the same records. -/
lemma map_record_byRecord_eq (hpart : Grouping.Suffices recordLimit part own)
    (hpart' : Grouping.Suffices recordLimit part' own) :
    (Grouping.byRecord recordLimit chunkLimit part).map (·.record) =
      (Grouping.byRecord recordLimit chunkLimit part').map (·.record) := by
  rw [Grouping.map_record_byRecord, Grouping.map_record_byRecord,
    hpart.take_records, hpart'.take_records]

/-- Answers whose legs have the same records differ at most in the chunks that they name. -/
lemma map_bare_ofLegs {vector vector' : List LegHit}
    (h : vector.map (·.record) = vector'.map (·.record)) :
    (ofLegs rrfK limit lexical (some vector)).hits.map Fusion.bare =
      (ofLegs rrfK limit lexical (some vector')).hits.map Fusion.bare := by
  unfold ofLegs
  rw [List.map_take, List.map_take]
  exact congrArg (List.take limit) (Fusion.map_bare_fuse h)

/-- From the legs of two parts that suffice a record gets the same chunks just when every chunk that
the whole ranking names for it besides the lexical leg is in both parts or in neither, if it is in
the legs at all. -/
lemma eraseDups_chunksOf_iff (hpart : Grouping.Suffices recordLimit part own)
    (hpart' : Grouping.Suffices recordLimit part' own)
    (hnodup : (own.map (·.chunk)).Nodup) (record : Id) :
    (Fusion.chunksOf record lexical ++
          Fusion.chunksOf record (Grouping.byRecord recordLimit chunkLimit part)).eraseDups =
        (Fusion.chunksOf record lexical ++
          Fusion.chunksOf record (Grouping.byRecord recordLimit chunkLimit part')).eraseDups ↔
      (record ∈ (Grouping.byRecord recordLimit chunkLimit part).map (·.record) →
        ∀ chunk ∈ Grouping.named chunkLimit own record,
          chunk ∉ Fusion.chunksOf record lexical →
            (chunk ∈ part.map (·.chunk) ↔ chunk ∈ part'.map (·.chunk))) := by
  have htake := hpart.take_records
  have htake' := hpart'.take_records
  by_cases hin : record ∈ (Grouping.byRecord recordLimit chunkLimit part).map (·.record)
  · have hown : record ∈ (Grouping.records own).take recordLimit := by
      rwa [Grouping.map_record_byRecord, htake] at hin
    rw [Fusion.chunksOf_byRecord (by rwa [htake]), Fusion.chunksOf_byRecord (by rwa [htake']),
      Fusion.eraseDups_named_iff hpart.start hpart'.start hnodup]
    exact ⟨fun hall _ => hall, fun hall => hall hin⟩
  · have hin' := hin
    rw [map_record_byRecord_eq hpart hpart'] at hin'
    rw [Fusion.chunksOf_of_not_mem hin, Fusion.chunksOf_of_not_mem hin']
    exact ⟨fun _ h => absurd h hin, fun _ => rfl⟩

/-- Two answers that rest on parts of one ranking that suffice are the same just when every chunk
that the whole ranking names for a hit besides the lexical leg is in both parts or in neither. -/
lemma ofLegs_eq_iff (hpart : Grouping.Suffices recordLimit part own)
    (hpart' : Grouping.Suffices recordLimit part' own)
    (hnodup : (own.map (·.chunk)).Nodup) :
    ofLegs rrfK limit lexical (some (Grouping.byRecord recordLimit chunkLimit part)) =
        ofLegs rrfK limit lexical (some (Grouping.byRecord recordLimit chunkLimit part')) ↔
      ∀ hit ∈ (ofLegs rrfK limit lexical
          (some (Grouping.byRecord recordLimit chunkLimit part))).hits, hit.vectorRank.isSome →
        ∀ chunk ∈ Grouping.named chunkLimit own hit.record,
          chunk ∉ Fusion.chunksOf hit.record lexical →
            (chunk ∈ part.map (·.chunk) ↔ chunk ∈ part'.map (·.chunk)) := by
  set vector := Grouping.byRecord recordLimit chunkLimit part with hvector
  set vector' := Grouping.byRecord recordLimit chunkLimit part' with hvector'
  have hanswers : ofLegs rrfK limit lexical (some vector) =
      ofLegs rrfK limit lexical (some vector') ↔
        (Fusion.fuse lexical vector rrfK).take limit =
          (Fusion.fuse lexical vector' rrfK).take limit :=
    ⟨fun h => congrArg hits h, fun h => congrArg (SearchResponse.mk · false) h⟩
  rw [hanswers, Fusion.take_fuse_eq_iff (map_record_byRecord_eq hpart hpart')]
  refine forall₂_congr fun hit hmem => ?_
  -- A hit has a rank from the vectors when the leg has its record.
  have hrank : hit.vectorRank = (Fusion.ranks hit.record vector).getLast? :=
    congrArg FusedHit.vectorRank (Fusion.eq_fusedHit_of_mem_fuse (List.mem_of_mem_take hmem))
  rw [hrank, Fusion.isSome_getLast?_ranks]
  exact eraseDups_chunksOf_iff hpart hpart' hnodup hit.record

end SearchResponse

/-! ### Stores with the same tables -/

namespace Store

variable {s t : Store}

/-- Stores with the same tables list the same vectors. -/
lemma SameTables.listedAfter (h : SameTables s t) (seq : Nat) :
    t.listedAfter seq = s.listedAfter seq := by
  obtain ⟨hrecords, hchunks, hvectors, -⟩ := h
  rcases s with ⟨_, _, _, _, _, _, _⟩
  rcases t with ⟨_, _, _, _, _, _, _⟩
  dsimp only at hrecords hchunks hvectors
  subst hrecords hchunks hvectors
  rfl

/-- Stores with the same tables have the same live chunks among some identifiers. -/
lemma SameTables.contextsOf (h : SameTables s t) (tenant : String) (ids : List Id) :
    t.contextsOf tenant ids = s.contextsOf tenant ids := by
  obtain ⟨hrecords, hchunks, -, -⟩ := h
  rcases s with ⟨_, _, _, _, _, _, _⟩
  rcases t with ⟨_, _, _, _, _, _, _⟩
  dsimp only at hrecords hchunks
  subst hrecords hchunks
  rfl

/-- Stores with the same tables resolve pages to the same chunks. -/
lemma SameTables.resolvedPages (h : SameTables s t) (tenant : String) (enough : Nat)
    (found : List ChunkHit) (pages : List (List VectorIndex.Hit)) :
    t.resolvedPages tenant enough found pages = s.resolvedPages tenant enough found pages := by
  induction pages generalizing found with
  | nil => rfl
  | cons page rest ih =>
    unfold Store.resolvedPages
    simp only [h.contextsOf, ih]

end Store

/-! ### The rankings of a world -/

namespace World

/-- All chunks ranked against a vector when the process has taken over what its store lists; none if
they cannot be compared. -/
def ranking (w : World σ) (v : Vec) : List VectorIndex.Hit :=
  match w.store.listedAfter w.memory.watermark with
  | .ok rows => ((w.memory.follow rows).vectors.rank v).toOption.getD []
  | .error _ => []

/-- The live chunks of a tenant in this ranking. -/
def ownRanking (w : World σ) (tenant : String) (v : Vec) : List ChunkHit :=
  w.store.ranked tenant (w.ranking v)

/-- The live chunks of a tenant on the pages of this ranking that are read until enough records are
found. -/
def readRanking (w : World σ) (tenant : String) (enough : Nat) (v : Vec) : List ChunkHit :=
  w.store.resolvedPages tenant enough [] (batches pageSize (w.ranking v))

/-- Two processes and their stores hold the same for a tenant: records, chunks, vectors and entries
of the lexical index.  What a process has of the vectors follows from its store. -/
structure AgreeFor (tenant : String) (w : World σ) (w' : World τ) : Prop where
  store : Store.AgreeFor tenant w.store w'.store
  lexical : ∀ e, e ∈ w.memory.lexical.ofTenant tenant ↔ e ∈ w'.memory.lexical.ofTenant tenant

variable {chunking : Text.Chunking} {dimension : Nat} {w : World σ} {tenant : String} {v : Vec}

/-- The ranking of a process that follows its store has the chunks whose stored vector compares with
the query. -/
lemma ranked_ranking (hs : w.store.Sound chunking dimension)
    (hw : w.memory.Follows dimension w.store) (hv : v.length = dimension) :
    Ranked (fun hit : VectorIndex.Hit => (hit.similarity, hit.chunk)) (w.ranking v) ∧
      ∀ hit, hit ∈ w.ranking v ↔ ∃ stored ∈ w.store.vectors, stored.chunk = hit.chunk ∧
        ∃ x, Store.StoredVector.value stored = .ok x ∧
          Vec.similarity? v x = some hit.similarity := by
  obtain ⟨rows, hrows⟩ := hs.keyed.exists_listedAfter w.memory.watermark
  have hfollows := hw.followed hs hrows
  obtain ⟨-, hits, hhits⟩ := (hfollows.rank_cases v).resolve_right fun h => h.1 hv
  have hranking : w.ranking v = hits := by
    unfold ranking
    rw [hrows]
    dsimp only
    rw [hhits]
    rfl
  obtain ⟨hranked, hmem⟩ := VectorIndex.ranked_of_rank hfollows.named hhits
  rw [hranking]
  refine ⟨hranked, fun hit => ?_⟩
  rw [hmem hit]
  constructor
  · rintro ⟨⟨chunk, x⟩, he, hchunk, hsimilarity⟩
    obtain ⟨stored, hstored, hof, hvalue⟩ := (hw.mem_follow hs hrows).mp he
    exact ⟨stored, hstored, hof.trans hchunk, x, hvalue, hsimilarity⟩
  · rintro ⟨stored, hstored, hchunk, x, hvalue, hsimilarity⟩
    exact ⟨(hit.chunk, x), (hw.mem_follow hs hrows).mpr ⟨stored, hstored, hchunk, hvalue⟩, rfl,
      hsimilarity⟩

/-- The chunks of a tenant in the ranking of a process that follows its store are its live chunks
with a vector that compares with the query, whatever the store holds for others. -/
lemma mem_ownRanking (hs : w.store.Sound chunking dimension)
    (hw : w.memory.Follows dimension w.store) (hv : v.length = dimension) {hit : ChunkHit} :
    hit ∈ w.ownRanking tenant v ↔
      ∃ ctx ∈ w.store.contextsFor tenant, ctx.chunk.id = hit.chunk ∧ ctx.record.id = hit.record ∧
        ∃ text, (hit.chunk, text) ∈ w.store.vectorsFor tenant ∧
          ∃ x, Vec.parse text = .ok x ∧ Vec.similarity? v x = some hit.score := by
  obtain ⟨-, hranking⟩ := ranked_ranking hs hw hv
  unfold ownRanking
  rw [hs.mem_ranked]
  refine exists_congr fun ctx => and_congr_right fun hctx => and_congr_right fun hid =>
    and_congr_right fun _ => ?_
  rw [hranking]
  constructor
  · rintro ⟨stored, hstored, hchunk, x, hvalue, hsimilarity⟩
    obtain ⟨owner, howner, hof, htenant, -⟩ := hs.owner_of_vector hstored
    obtain ⟨hlive, hown⟩ := Store.mem_contextsFor.mp hctx
    obtain rfl := hs.context_eq_of_id howner hlive (hof.trans (hchunk.trans hid.symm))
    refine ⟨stored.text, List.mem_map.mpr ⟨stored, ?_, ?_⟩, x, ?_, hsimilarity⟩
    · exact List.mem_filter.mpr ⟨hstored, beq_iff_eq.mpr (htenant.symm.trans hown)⟩
    · rw [hchunk]
    · exact Store.StoredVector.value_eq_ok_iff.mp hvalue
  · rintro ⟨text, htext, x, hparse, hsimilarity⟩
    obtain ⟨stored, hstored, heq⟩ := List.mem_map.mp htext
    rw [Prod.mk.injEq] at heq
    obtain ⟨hchunk, rfl⟩ := heq
    exact ⟨stored, (List.mem_filter.mp hstored).1, hchunk, x,
      Store.StoredVector.value_eq_ok_iff.mpr hparse, hsimilarity⟩

/-- The chunks of a tenant are ranked in order, each once. -/
lemma ranked_ownRanking (hs : w.store.Sound chunking dimension)
    (hw : w.memory.Follows dimension w.store) (hv : v.length = dimension) :
    Ranked (fun hit : ChunkHit => (hit.score, hit.chunk)) (w.ownRanking tenant v) := by
  refine (ranked_ranking hs hw hv).1.filterMap ?_
  intro found hit hmap
  obtain ⟨ctx, -, rfl⟩ := Option.map_eq_some_iff.mp hmap
  rfl

/-- Nothing is ranked against a vector of another dimension. -/
lemma ranking_of_ne (hs : w.store.Sound chunking dimension)
    (hw : w.memory.Follows dimension w.store) (hv : v.length ≠ dimension) : w.ranking v = [] := by
  obtain ⟨rows, hrows⟩ := hs.keyed.exists_listedAfter w.memory.watermark
  have hfollows := hw.followed hs hrows
  unfold ranking
  rw [hrows]
  dsimp only
  obtain ⟨-, e, he⟩ := (hfollows.rank_cases v).resolve_left fun h => hv h.1
  rw [he]
  rfl

/-- Processes that hold the same for a tenant rank its chunks in the same way. -/
theorem AgreeFor.ownRanking_eq {w' : World τ} (h : w.AgreeFor tenant w')
    (hs : w.store.Sound chunking dimension) (hs' : w'.store.Sound chunking dimension)
    (hw : w.memory.Follows dimension w.store) (hw' : w'.memory.Follows dimension w'.store)
    (v : Vec) : w.ownRanking tenant v = w'.ownRanking tenant v := by
  by_cases hv : v.length = dimension
  · refine (ranked_ownRanking hs hw hv).eq_of_members (ranked_ownRanking hs' hw' hv) ?_
    intro hit
    rw [mem_ownRanking hs hw hv, mem_ownRanking hs' hw' hv]
    simp only [h.store.mem_contextsFor_iff hs hs', h.store.vectors]
  · unfold ownRanking
    rw [ranking_of_ne hs hw hv, ranking_of_ne hs' hw' hv]
    rfl

/-- The pages that are read suffice to find the first records of a tenant's own ranking. -/
lemma suffices_readRanking (w : World σ) (tenant : String) (enough : Nat) (v : Vec) :
    Grouping.Suffices enough (w.readRanking tenant enough v) (w.ownRanking tenant v) :=
  w.store.suffices_resolvedPages tenant enough pageSize (w.ranking v)

end World

/-! ### The legs of a search -/

namespace Service

variable {svc : Service σ} {svc' : Service τ} {w : World σ} {w' : World τ} {tenant query : String}

/-- The lexical leg for a tenant is the same with the same entries for the tenant and the same
terms, gone through in the same order. -/
lemma lexicalLeg_eq (hconfig : svc'.config = svc.config)
    (hw : w.memory.Follows svc.dimension w.store)
    (hw' : w'.memory.Follows svc'.dimension w'.store) (h : w.AgreeFor tenant w')
    (hterms : svc'.termsOf w' query = svc.termsOf w query) :
    svc'.lexicalLeg w' tenant query = svc.lexicalLeg w tenant query := by
  have hnodup : ((w.memory.lexical.ofTenant tenant).map (·.chunk)).Nodup :=
    hw.lexical.sublist (List.filter_sublist.map _)
  have hnodup' : ((w'.memory.lexical.ofTenant tenant).map (·.chunk)).Nodup :=
    hw'.lexical.sublist (List.filter_sublist.map _)
  have hperm : (w.memory.lexical.ofTenant tenant).Perm (w'.memory.lexical.ofTenant tenant) :=
    (List.perm_ext_iff_of_nodup (.of_map _ hnodup) (.of_map _ hnodup')).mpr h.lexical
  unfold lexicalLeg LexicalIndex.search
  rw [hconfig, hterms, LexicalIndex.rank_eq_of_perm hperm hnodup]

/-- The vector leg of a search in a world whose process follows its store: nothing, unless the
provider gives a vector of the right dimension. -/
def vectorLegOf (svc : Service σ) (w : World σ) (tenant query : String) : Option (List LegHit) :=
  match (svc.embed [query] w.outside).outcome with
  | .ok (v :: _) =>
    if v.length = svc.dimension then
      some (Grouping.byRecord svc.config.search.vectorK svc.config.search.maxChunksPerHit
        (w.readRanking tenant svc.config.search.vectorK v))
    else none
  | _ => none

/-- What a search rests on besides the lexical leg is the vector leg of its world. -/
lemma Quiet.eq_vectorLegOf (hq : svc.Quiet) (hs : svc.Keeps w.store)
    (hw : w.memory.Follows svc.dimension w.store) {leg : Option (List LegHit)}
    (h : svc.Compared w tenant query leg) : leg = svc.vectorLegOf w tenant query := by
  have hsame := hq [query] w.outside w.store
  unfold vectorLegOf
  cases h with
  | failed h => rw [h]
  | empty h => rw [h]
  | @ranked v vs rows h hrows =>
    rw [hsame.listedAfter] at hrows
    have hfollows := hw.followed hs hrows
    rw [h]
    dsimp only
    unfold legAt World.readRanking World.ranking
    rw [hrows]
    dsimp only
    rcases hfollows.rank_cases v with ⟨hv, hits, hhits⟩ | ⟨hv, e, he⟩
    · rw [if_pos hv, hhits]
      dsimp only
      rw [hsame.resolvedPages]
      rfl
    · rw [if_neg hv, he]

/-- Of the chunks that a search could name for its hits, those that only the vector leg tells of lie
on the pages that are read in one world just when they do in another. -/
def ReadAlike (svc : Service σ) (w : World σ) (w' : World τ) (tenant query : String)
    (hits : List FusedHit) : Prop :=
  ∀ v vs, (svc.embed [query] w.outside).outcome = .ok (v :: vs) →
    ∀ hit ∈ hits, hit.vectorRank.isSome →
      ∀ chunk ∈ Grouping.named svc.config.search.maxChunksPerHit (w.ownRanking tenant v) hit.record,
        chunk ∉ Fusion.chunksOf hit.record (svc.lexicalLeg w tenant query) →
          (chunk ∈ (w.readRanking tenant svc.config.search.vectorK v).map (·.chunk) ↔
            chunk ∈ (w'.readRanking tenant svc.config.search.vectorK v).map (·.chunk))

/-- With the same reply neither of two services has a vector leg, or both have one from their
rankings against the same vector. -/
lemma vectorLegOf_cases (hconfig : svc'.config = svc.config)
    (hreply : (svc'.embed [query] w'.outside).outcome = (svc.embed [query] w.outside).outcome)
    (tenant : String) :
    (svc.vectorLegOf w tenant query = none ∧ svc'.vectorLegOf w' tenant query = none) ∨
      ∃ v vs, (svc.embed [query] w.outside).outcome = .ok (v :: vs) ∧ v.length = svc.dimension ∧
        svc.vectorLegOf w tenant query = some (Grouping.byRecord svc.config.search.vectorK
          svc.config.search.maxChunksPerHit
          (w.readRanking tenant svc.config.search.vectorK v)) ∧
        svc'.vectorLegOf w' tenant query = some (Grouping.byRecord svc.config.search.vectorK
          svc.config.search.maxChunksPerHit
          (w'.readRanking tenant svc.config.search.vectorK v)) := by
  unfold vectorLegOf dimension
  rw [hreply, hconfig]
  rcases (svc.embed [query] w.outside).outcome with e | _ | ⟨v, vs⟩
  · exact .inl ⟨rfl, rfl⟩
  · exact .inl ⟨rfl, rfl⟩
  · dsimp only
    by_cases hv : v.length = svc.config.embedding.dimensions
    · rw [if_pos hv, if_pos hv]
      exact .inr ⟨v, vs, rfl, hv, rfl, rfl⟩
    · rw [if_neg hv, if_neg hv]
      exact .inl ⟨rfl, rfl⟩

/-- An answer that rests on the lexical leg alone has no hit that the vectors rank. -/
lemma readAlike_of_none (svc : Service σ) (w : World σ) (w' : World τ) (tenant query : String)
    (lexical : List LegHit) (rrfK limit : Nat) :
    svc.ReadAlike w w' tenant query (SearchResponse.ofLegs rrfK limit lexical none).hits := by
  intro v vs _ hit hhit hrank
  rw [Fusion.eq_fusedHit_of_mem_fuse (List.mem_of_mem_take hhit)] at hrank
  cases hrank

/-- Two worlds that hold the same for a tenant answer it alike from their legs, up to the chunks
that are named, and name the same chunks just when the pages that are read show the same. -/
lemma answers_agree (hconfig : svc'.config = svc.config) (hs : svc.Keeps w.store)
    (hs' : svc.Keeps w'.store) (hw : w.memory.Follows svc.dimension w.store)
    (hw' : w'.memory.Follows svc.dimension w'.store) (h : w.AgreeFor tenant w')
    (hreply : (svc'.embed [query] w'.outside).outcome = (svc.embed [query] w.outside).outcome)
    (rrfK limit : Nat) {a b : SearchResponse}
    (ha : a = .ofLegs rrfK limit (svc.lexicalLeg w tenant query)
      (svc.vectorLegOf w tenant query))
    (hb : b = .ofLegs rrfK limit (svc.lexicalLeg w tenant query)
      (svc'.vectorLegOf w' tenant query)) :
    a.degraded = b.degraded ∧ a.hits.map Fusion.bare = b.hits.map Fusion.bare ∧
      (a = b ↔ svc.ReadAlike w w' tenant query a.hits) := by
  rcases vectorLegOf_cases hconfig hreply tenant with
    ⟨hnone, hnone'⟩ | ⟨v, vs, houtcome, hv, hleg, hleg'⟩
  · rw [hnone] at ha
    rw [hnone'] at hb
    subst ha hb
    exact ⟨rfl, rfl, fun _ => readAlike_of_none svc w w' tenant query _ rrfK limit, fun _ => rfl⟩
  · rw [hleg] at ha
    rw [hleg'] at hb
    subst ha hb
    have hown := h.ownRanking_eq hs hs' hw hw' v
    have hpart := World.suffices_readRanking w tenant svc.config.search.vectorK v
    have hpart' := World.suffices_readRanking w' tenant svc.config.search.vectorK v
    rw [← hown] at hpart'
    refine ⟨rfl, SearchResponse.map_bare_ofLegs
      (SearchResponse.map_record_byRecord_eq hpart hpart'), ?_⟩
    rw [SearchResponse.ofLegs_eq_iff hpart hpart'
      (World.ranked_ownRanking hs hw hv).nodup]
    constructor
    · intro hall v' vs' hreply'
      rw [houtcome] at hreply'
      cases hreply'
      exact hall
    · exact fun hall => hall v vs houtcome

/-- The records in a tenant's own ranking are records of the tenant. -/
lemma recordCount_ownRanking_le {v : Vec} (hs : svc.Keeps w.store) :
    recordCount (w.ownRanking tenant v) ≤ (w.store.recordsFor tenant).length := by
  have hsub : Grouping.records (w.ownRanking tenant v) ⊆
      (w.store.recordsFor tenant).map (·.id) := by
    intro id hid
    obtain ⟨hit, hhit, rfl⟩ := Grouping.mem_records.mp hid
    obtain ⟨ctx, hctx, -, hrecord, -⟩ := hs.mem_ranked.mp hhit
    obtain ⟨hlive, htenant⟩ := Store.mem_contextsFor.mp hctx
    obtain ⟨-, hfound, -⟩ := Store.mem_liveChunks.mp hlive
    rw [← hrecord]
    refine List.mem_map_of_mem (List.mem_filter.mpr ⟨?_, beq_iff_eq.mpr htenant⟩)
    exact (Store.of_record?_eq_some hfound).1
  have hlength := List.Nodup.length_le_of_subset (Grouping.nodup_records _) hsub
  rwa [List.length_map] at hlength

/-- A tenant with fewer records than the vector leg may have is shown all its chunks, however many
vectors of others rank between them. -/
lemma readAlike_of_few (hs : svc.Keeps w.store) (hs' : svc.Keeps w'.store)
    (hw : w.memory.Follows svc.dimension w.store)
    (hw' : w'.memory.Follows svc.dimension w'.store) (h : w.AgreeFor tenant w')
    (hfew : (w.store.recordsFor tenant).length < svc.config.search.vectorK) (hits : List FusedHit) :
    svc.ReadAlike w w' tenant query hits := by
  intro v vs _ hit _ _ chunk _ _
  have hown := h.ownRanking_eq hs hs' hw hw' v
  have hcount : recordCount (w.ownRanking tenant v) < svc.config.search.vectorK :=
    Nat.lt_of_le_of_lt (recordCount_ownRanking_le hs) hfew
  have hpart := World.suffices_readRanking w tenant svc.config.search.vectorK v
  have hpart' := World.suffices_readRanking w' tenant svc.config.search.vectorK v
  rw [← hown] at hpart'
  rw [hpart.eq_of_few hcount, hpart'.eq_of_few hcount]

end Service

/-! ### Worlds that hold the same for a tenant -/

variable {svc : Service σ} {w : World σ} {tenant : String}

/-- Worlds with the same tables and entries hold the same for a tenant as any other world does. -/
lemma World.AgreeFor.still {u v : World σ} (h : w.AgreeFor tenant u) (hstill : u.Still v) :
    w.AgreeFor tenant v := by
  obtain ⟨hrecords, hchunks, hvectors, -⟩ := hstill.tables
  refine ⟨⟨?_, ?_, ?_⟩, ?_⟩
  · intro r
    unfold Store.recordsFor
    rw [hrecords]
    exact h.store.records r
  · intro c
    unfold Store.chunksFor Store.recordsFor
    rw [hrecords, hchunks]
    exact h.store.chunks c
  · intro row
    unfold Store.vectorsFor
    rw [hvectors]
    exact h.store.vectors row
  · rw [hstill.lexical]
    exact h.lexical

/-- An ingest of another tenant leaves what a tenant has. -/
theorem Reachable.agreeFor_ingest (hq : svc.Quiet) (hw : Reachable svc w) {req : IngestRequest}
    (htenant : req.tenant ≠ tenant) :
    w.AgreeFor tenant (stateAfter (svc.ingest req) w) := by
  have hs := hw.sound hq
  have hself : w.AgreeFor tenant w :=
    ⟨⟨fun _ => .rfl, fun _ => .rfl, fun _ => .rfl⟩, fun _ => .rfl⟩
  cases Service.drafted_ingest svc req w with
  | still h => exact hself.still h
  | @staged d now staged s _ hd hcut h hstill =>
    have hother : d.tenant ≠ tenant := by rwa [hd]
    refine World.AgreeFor.still ⟨hs.agreeFor_staging h hother, fun e => ?_⟩ hstill
    have hsame := (hw.shows hq).ofTenant_staging hs hcut h hother
    exact (Iff.of_eq (congrArg (e ∈ ·) hsame)).symm

/-! ### Noninterference -/

variable {svc' : Service τ} {w' : World τ} {query : String}

/-- A search can read the store of a world behind the call to the provider: neither of its
statements is refused. -/
def Service.Reads (svc : Service σ) (w : World σ) (query : String) : Prop :=
  ∀ st ∈ [Statement.listVectors, .readContexts],
    st ∉ ((svc.embed [query] w.outside).meanwhile w.store).refused

instance (svc : Service σ) (w : World σ) (query : String) : Decidable (svc.Reads w query) :=
  List.decidableBAll _ _

/-- In a reachable world a search succeeds if its statements are not refused. -/
lemma Service.Quiet.exists_found (hq : svc.Quiet) (hw : Reachable svc w)
    (hreads : svc.Reads w query) (tenant : String) (limit : Nat) :
    ∃ found u, perform (svc.hybridSearch tenant query limit) w = (.ok found, u) := by
  refine Service.exists_hybridSearch_eq_ok tenant limit ⟨?_, ?_, ?_⟩
  · exact hreads .listVectors (by simp)
  · exact hreads .readContexts (by simp)
  · rw [(hq [query] w.outside w.store).listedAfter]
    exact (hw.sound hq).keyed.exists_listedAfter _

/-- A world that a service with the same configuration reaches has a sound store, which its process
follows. -/
lemma Reachable.of_config (hw' : Reachable svc' w') (hq' : svc'.Quiet)
    (hconfig : svc'.config = svc.config) :
    svc.Keeps w'.store ∧ w'.memory.Follows svc.dimension w'.store := by
  have hs' := hw'.sound hq'
  have hfollows' := hw'.follows hq'
  unfold Service.Keeps Service.cutting at hs'
  unfold Service.dimension at hs' hfollows'
  rw [hconfig] at hs' hfollows'
  exact ⟨hs', hfollows'⟩

/-- What two searches of a tenant find that succeed in worlds that hold the same for it. -/
lemma Service.Quiet.found_agree (hq : svc.Quiet) (hq' : svc'.Quiet)
    (hconfig : svc'.config = svc.config) (hw : Reachable svc w) (hw' : Reachable svc' w')
    (h : w.AgreeFor tenant w')
    (hreply : (svc'.embed [query] w'.outside).outcome = (svc.embed [query] w.outside).outcome)
    (hterms : svc'.termsOf w' query = svc.termsOf w query)
    {limit : Nat} {a b : SearchResponse} {u : World σ} {u' : World τ}
    (ha : perform (svc.hybridSearch tenant query limit) w = (.ok a, u))
    (hb : perform (svc'.hybridSearch tenant query limit) w' = (.ok b, u')) :
    a.degraded = b.degraded ∧ a.hits.map Fusion.bare = b.hits.map Fusion.bare ∧
      (a = b ↔ svc.ReadAlike w w' tenant query a.hits) := by
  obtain ⟨hs', hfollows'⟩ := hw'.of_config hq' hconfig
  rcases hybridSearch_eq_ok ha with ⟨hidle, rfl, -⟩ | ⟨hbusy, leg, hleg, -, hfound⟩
  · rcases hybridSearch_eq_ok hb with ⟨-, rfl, -⟩ | ⟨hbusy, -⟩
    · exact ⟨rfl, rfl, fun _ _ _ _ hit hhit => (nomatch hhit), fun _ => rfl⟩
    · rw [hidle] at hbusy
      cases hbusy
  · rcases hybridSearch_eq_ok hb with ⟨hidle, -⟩ | ⟨-, leg', hleg', -, hfound'⟩
    · rw [hbusy] at hidle
      cases hidle
    · rw [hq'.eq_vectorLegOf (hw'.sound hq') (hw'.follows hq') hleg', hconfig,
        lexicalLeg_eq hconfig (hw.follows hq) (hw'.follows hq') h hterms] at hfound'
      rw [hq.eq_vectorLegOf (hw.sound hq) (hw.follows hq) hleg] at hfound
      exact answers_agree hconfig (hw.sound hq) hs' (hw.follows hq) hfollows' h hreply _ limit
        hfound hfound'

/-- Take two worlds, reached by services with the same configuration, that hold the same records,
chunks, vectors and lexical entries for a tenant and anything for others, the same reply to a query,
and one order in which both go through its terms, whichever it is.  A search of the tenant succeeds
in both unless the store refuses to be read.  Both answers are degraded or neither is, and their
hits are the same, in the same order and with the same scores, methods and ranks, up to the chunks
that they name.  The answers are the same altogether just when the pages that are read show the same
of those chunks. -/
theorem search_noninterference (hq : svc.Quiet) (hq' : svc'.Quiet)
    (hconfig : svc'.config = svc.config) (hw : Reachable svc w) (hw' : Reachable svc' w')
    (h : w.AgreeFor tenant w')
    (hreply : (svc'.embed [query] w'.outside).outcome = (svc.embed [query] w.outside).outcome)
    (hterms : svc'.termsOf w' query = svc.termsOf w query) (limit : Nat) :
    (svc.Reads w query → ∃ a u, perform (svc.hybridSearch tenant query limit) w = (.ok a, u)) ∧
      (svc'.Reads w' query →
        ∃ b u, perform (svc'.hybridSearch tenant query limit) w' = (.ok b, u)) ∧
      ∀ a u b u', perform (svc.hybridSearch tenant query limit) w = (.ok a, u) →
        perform (svc'.hybridSearch tenant query limit) w' = (.ok b, u') →
          a.degraded = b.degraded ∧ a.hits.map Fusion.bare = b.hits.map Fusion.bare ∧
            (a = b ↔ svc.ReadAlike w w' tenant query a.hits) :=
  ⟨fun hreads => hq.exists_found hw hreads tenant limit,
    fun hreads => hq'.exists_found hw' hreads tenant limit,
    fun _ _ _ _ ha hb => hq.found_agree hq' hconfig hw hw' h hreply hterms ha hb⟩

/-- The store of a service on its own that keeps notes of two tenants about the same account, with a
vector for each. -/
def Service.twoEmbedded : World Unit :=
  standaloneAfter [
    .ingest (.sampleNote "rival" "Call" "Renewal is done."), .embedRecord "rival" ⟨0⟩,
    .ingest (.sampleNote "acme" "Call" "Renewal is due."), .embedRecord "acme" ⟨2⟩]

/-- The same store when the second tenant has rewritten its note, which has no vector then. -/
def Service.twoRewritten : World Unit :=
  stateAfter ((standalone .small).ingest (.sampleNote "rival" "Call" "Renewal is over."))
    twoEmbedded

/-- One tenant finds the same before and after another one rewrites its note. -/
theorem search_noninterference_rewritten :
    let svc := Service.standalone .small
    let w := Service.twoEmbedded
    let w' := Service.twoRewritten
    svc.Quiet ∧ Reachable svc w ∧ Reachable svc w' ∧ w.AgreeFor "acme" w' ∧
      w.store.vectors.length = 2 ∧ w'.store.vectors.length = 1 ∧
      (∃ a u, perform (svc.hybridSearch "acme" "renewal" 10) w = (.ok a, u)) ∧
      (∃ b u, perform (svc.hybridSearch "acme" "renewal" 10) w' = (.ok b, u)) ∧
      ∀ a u b u', perform (svc.hybridSearch "acme" "renewal" 10) w = (.ok a, u) →
        perform (svc.hybridSearch "acme" "renewal" 10) w' = (.ok b, u') →
          a.degraded = b.degraded ∧ a.hits.map Fusion.bare = b.hits.map Fusion.bare ∧
            (a = b ↔ svc.ReadAlike w w' "acme" "renewal" a.hits) := by
  have hq := Service.quiet_standalone .small
  have hw : Reachable (Service.standalone .small) Service.twoEmbedded :=
    Service.reachable_standaloneAfter _
  have hw' : Reachable (Service.standalone .small) Service.twoRewritten :=
    hw.run (.single (.operation (.ingest _)))
  have hagree : Service.twoEmbedded.AgreeFor "acme" Service.twoRewritten :=
    hw.agreeFor_ingest hq (by decide)
  have hreply :
      ((Service.standalone .small).embed ["renewal"] Service.twoRewritten.outside).outcome =
        ((Service.standalone .small).embed ["renewal"] Service.twoEmbedded.outside).outcome := rfl
  obtain ⟨hfound, hfound', hsame⟩ := search_noninterference hq hq rfl hw hw' hagree hreply rfl
    10
  exact ⟨hq, hw, hw', hagree, by decide +kernel, by decide +kernel,
    hfound (by decide +kernel), hfound' (by decide +kernel), hsame⟩

/-- The answers are the same for a tenant with fewer records than the vector leg may have. -/
theorem search_eq_of_few_records (hq : svc.Quiet) (hq' : svc'.Quiet)
    (hconfig : svc'.config = svc.config) (hw : Reachable svc w) (hw' : Reachable svc' w')
    (h : w.AgreeFor tenant w')
    (hreply : (svc'.embed [query] w'.outside).outcome = (svc.embed [query] w.outside).outcome)
    (hterms : svc'.termsOf w' query = svc.termsOf w query)
    (hfew : (w.store.recordsFor tenant).length < svc.config.search.vectorK) {limit : Nat}
    {a b : SearchResponse} {u : World σ} {u' : World τ}
    (ha : perform (svc.hybridSearch tenant query limit) w = (.ok a, u))
    (hb : perform (svc'.hybridSearch tenant query limit) w' = (.ok b, u')) : a = b := by
  obtain ⟨hs', hfollows'⟩ := hw'.of_config hq' hconfig
  obtain ⟨-, -, hiff⟩ := hq.found_agree hq' hconfig hw hw' h hreply hterms ha hb
  exact hiff.mpr (Service.readAlike_of_few (hw.sound hq) hs' (hw.follows hq) hfollows' h hfew _)

end Dossier
