import Dossier.Proofs.Retrieval.Legs
import Dossier.Proofs.Service.Move
import Dossier.Proofs.Store.Tenancy

/-!
# What a search comes to

The steps of a search without the operations that they are made of: pages of ranked chunks are
resolved in one state of the store, and the answer is that of the two legs.
-/

namespace Dossier

variable {σ : Type}

namespace Store

variable {s t : Store}

/-! ### Listings -/

/-- A search can read the store: its statements are not refused, and the vectors behind a number can
be read. -/
structure Readable (s : Store) (seq : Nat) : Prop where
  listing : .listVectors ∉ s.refused
  contexts : .readContexts ∉ s.refused
  values : ∃ rows, s.listedAfter seq = .ok rows

/-! ### Pages -/

/-- Ranked chunks resolved a page after the other, until enough records are found. -/
def resolvedPages (s : Store) (tenant : String) (enough : Nat) :
    List ChunkHit → List (List VectorIndex.Hit) → List ChunkHit
  | found, [] => found
  | found, page :: rest =>
    let found := found ++ resolve (s.contextsOf tenant (page.map (·.chunk))) page
    if enough ≤ recordCount found then found else resolvedPages s tenant enough found rest

/-- Looking ranked chunks up is resolving them, if the store reads. -/
lemma perform_resolvePages (hread : .readContexts ∉ s.refused) (tenant : String) (enough : Nat)
    (found : List ChunkHit) (pages : List (List VectorIndex.Hit)) :
    perform (Service.resolvePages tenant enough found pages) s =
      (.ok (s.resolvedPages tenant enough found pages), s) := by
  induction pages generalizing found with
  | nil => rfl
  | cons page rest ih =>
    have hload : perform (loadContexts tenant (page.map (·.chunk))) s =
        (.ok (s.contextsOf tenant (page.map (·.chunk))), s) :=
      perform_reading_eq_ok.mpr ⟨hread, rfl, rfl⟩
    unfold Service.resolvePages resolvedPages
    rw [perform_bind_of_ok hload]
    dsimp only
    split
    · rfl
    · exact ih _

/-- Looking ranked chunks up is resolving them, if it succeeds. -/
lemma resolvePages_eq_ok {tenant : String} {enough : Nat} {found all : List ChunkHit}
    {pages : List (List VectorIndex.Hit)}
    (h : perform (Service.resolvePages tenant enough found pages) s = (.ok all, t)) :
    all = s.resolvedPages tenant enough found pages ∧ t = s := by
  induction pages generalizing found with
  | nil =>
    cases h
    exact ⟨rfl, rfl⟩
  | cons page rest ih =>
    unfold Service.resolvePages at h
    obtain ⟨contexts, u, hload, hrest⟩ := perform_bind_eq_ok.mp h
    obtain ⟨-, rfl, rfl⟩ := perform_reading_eq_ok.mp hload
    unfold resolvedPages
    dsimp only at hrest ⊢
    split at hrest
    · rename_i henough
      cases hrest
      exact ⟨(if_pos henough).symm, rfl⟩
    · rename_i henough
      obtain ⟨hall, ht⟩ := ih hrest
      refine ⟨?_, ht⟩
      rw [hall]
      exact (if_neg henough).symm

/-- A chunk that a page resolves to is one of the contexts. -/
lemma of_mem_resolve {contexts : List ChunkContext} {page : List VectorIndex.Hit} {hit : ChunkHit}
    (h : hit ∈ resolve contexts page) :
    ∃ ctx ∈ contexts, hit.record = ctx.record.id ∧ hit.chunk = ctx.chunk.id := by
  unfold resolve at h
  obtain ⟨ranked, -, hmap⟩ := List.mem_filterMap.mp h
  obtain ⟨ctx, hfind, rfl⟩ := Option.map_eq_some_iff.mp hmap
  have hid := List.find?_some hfind
  exact ⟨ctx, List.mem_of_find?_eq_some hfind, rfl, (beq_iff_eq.mp hid).symm⟩

/-- Chunks that pages resolve to are live chunks of the tenant. -/
lemma of_mem_resolvedPages {tenant : String} {enough : Nat} {found : List ChunkHit}
    {pages : List (List VectorIndex.Hit)} {hit : ChunkHit}
    (h : hit ∈ s.resolvedPages tenant enough found pages) :
    hit ∈ found ∨ s.LiveChunk tenant hit.record hit.chunk := by
  induction pages generalizing found with
  | nil => exact .inl h
  | cons page rest ih =>
    have hmore : hit ∈ found ++ resolve (s.contextsOf tenant (page.map (·.chunk))) page →
        hit ∈ found ∨ s.LiveChunk tenant hit.record hit.chunk := by
      intro hmem
      rcases List.mem_append.mp hmem with hold | hnew
      · exact .inl hold
      · obtain ⟨ctx, hctx, hrecord, hchunk⟩ := of_mem_resolve hnew
        obtain ⟨hlive, htenant, -⟩ := mem_contextsOf.mp hctx
        right
        rw [hrecord, hchunk, ← htenant]
        exact liveChunk_of_mem_liveChunks hlive
    unfold resolvedPages at h
    dsimp only at h
    split at h
    · exact hmore h
    · rcases ih h with hfound | hlive
      · exact hmore hfound
      · exact .inr hlive

/-- The chunks of a ranking that are live chunks of a tenant. -/
def ranked (s : Store) (tenant : String) (hits : List VectorIndex.Hit) : List ChunkHit :=
  resolve (s.contextsFor tenant) hits

variable {chunking : Text.Chunking} {dimension : Nat} {tenant : String}

/-- A page resolves to what it has of the live chunks of a tenant. -/
lemma resolve_contextsOf (s : Store) (tenant : String)
    (page : List VectorIndex.Hit) :
    resolve (s.contextsOf tenant (page.map (·.chunk))) page = s.ranked tenant page := by
  unfold ranked resolve
  refine List.filterMap_congr fun hit hhit => ?_
  rw [find?_contextsOf (List.mem_map_of_mem hhit)]

/-- The chunks of a ranking that are live chunks of a tenant, each with its record. -/
lemma Sound.mem_ranked (hs : s.Sound chunking dimension) {hits : List VectorIndex.Hit}
    {hit : ChunkHit} :
    hit ∈ s.ranked tenant hits ↔ ∃ ctx ∈ s.contextsFor tenant, ctx.chunk.id = hit.chunk ∧
      ctx.record.id = hit.record ∧ ⟨hit.chunk, hit.score⟩ ∈ hits := by
  unfold ranked resolve
  rw [List.mem_filterMap]
  constructor
  · rintro ⟨found, hfound, hmap⟩
    obtain ⟨ctx, hfind, rfl⟩ := Option.map_eq_some_iff.mp hmap
    have hid := List.find?_some hfind
    exact ⟨ctx, List.mem_of_find?_eq_some hfind, beq_iff_eq.mp hid, rfl, hfound⟩
  · rintro ⟨ctx, hctx, hid, hrecord, hin⟩
    refine ⟨_, hin, Option.map_eq_some_iff.mpr ⟨ctx, ?_, ?_⟩⟩
    · refine find?_eq_some_of_unique hctx (beq_iff_eq.mpr hid) ?_
      intro other hother hwhich
      exact hs.context_eq_of_id (mem_contextsFor.mp hother).1 (mem_contextsFor.mp hctx).1
        ((beq_iff_eq.mp hwhich).trans hid.symm)
    · rw [hrecord]

/-- What two rankings have of the live chunks of a tenant comes one after the other. -/
lemma ranked_append (hits rest : List VectorIndex.Hit) :
    s.ranked tenant (hits ++ rest) = s.ranked tenant hits ++ s.ranked tenant rest := by
  unfold ranked resolve
  exact List.filterMap_append

/-- Pages that are read one after the other until enough records are found come to the beginning of
what all pages have of the live chunks of a tenant: to all of it, or to a part with enough
records. -/
lemma exists_resolvedPages_eq (s : Store) (tenant : String) (enough : Nat)
    (found : List ChunkHit) (pages : List (List VectorIndex.Hit)) :
    ∃ part, s.resolvedPages tenant enough found pages = found ++ part ∧
      part <+: s.ranked tenant pages.flatten ∧
      (part = s.ranked tenant pages.flatten ∨ enough ≤ recordCount (found ++ part)) := by
  induction pages generalizing found with
  | nil =>
    refine ⟨[], ?_, List.nil_prefix, .inl rfl⟩
    rw [List.append_nil]
    rfl
  | cons page rest ih =>
    unfold resolvedPages
    rw [resolve_contextsOf, List.flatten_cons, ranked_append]
    dsimp only
    by_cases henough : enough ≤ recordCount (found ++ s.ranked tenant page)
    · rw [if_pos henough]
      exact ⟨_, rfl, List.prefix_append _ _, .inr henough⟩
    · rw [if_neg henough]
      obtain ⟨part, heq, hstart, hall⟩ := ih (found ++ s.ranked tenant page)
      refine ⟨s.ranked tenant page ++ part, ?_, ?_, ?_⟩
      · rw [heq, List.append_assoc]
      · exact (List.prefix_append_right_inj _).mpr hstart
      · rw [← List.append_assoc]
        rcases hall with hwhole | hmany
        · exact .inl (by rw [hwhole])
        · exact .inr hmany

/-- The pages of a ranking that are looked up suffice to find its first records, whatever the size
of a page. -/
lemma suffices_resolvedPages (s : Store) (tenant : String) (enough size : Nat)
    (ranking : List VectorIndex.Hit) :
    Grouping.Suffices enough (s.resolvedPages tenant enough [] (batches size ranking))
      (s.ranked tenant ranking) := by
  obtain ⟨part, hpart, hstart, hall⟩ :=
    s.exists_resolvedPages_eq tenant enough [] (batches size ranking)
  rw [flatten_batches] at hstart hall
  rw [hpart, List.nil_append]
  exact ⟨hstart, hall⟩

end Store

/-- A record as a leg names it has a live chunk of a tenant, and so are the chunks that are
named. -/
structure LegHit.LiveIn (s : Store) (tenant : String) (leg : LegHit) : Prop where
  record : ∃ chunk, s.LiveChunk tenant leg.record chunk
  chunks : ∀ chunk ∈ leg.chunks, s.LiveChunk tenant leg.record chunk

/-- A grouped ranking of live chunks of a tenant. -/
lemma Grouping.liveIn_of_mem_byRecord {s : Store} {tenant : String} {recordLimit chunkLimit : Nat}
    {hits : List ChunkHit} (hlive : ∀ hit ∈ hits, s.LiveChunk tenant hit.record hit.chunk)
    {leg : LegHit} (hleg : leg ∈ byRecord recordLimit chunkLimit hits) : leg.LiveIn s tenant := by
  obtain ⟨⟨best, hbest, hrecord⟩, hchunks⟩ := of_mem_byRecord hleg
  refine ⟨⟨best.chunk, ?_⟩, ?_⟩
  · rw [← hrecord]
    exact hlive best hbest
  · intro chunk hchunk
    obtain ⟨hit, hhit, hrecord', rfl⟩ := hchunks chunk hchunk
    rw [← hrecord']
    exact hlive hit hhit

namespace Service

variable {svc : Service σ} {w w' : World σ} {tenant query : String}

/-! ### The vector leg -/

/-- The vector leg for the vector of a query, in a state of the store and with an index. -/
def legAt (svc : Service σ) (s : Store) (index : VectorIndex) (tenant : String) (v : Vec) :
    Option (List LegHit) :=
  let limits := svc.config.search
  match index.rank v with
  | .error _ => none
  | .ok ranked => some (Grouping.byRecord limits.vectorK limits.maxChunksPerHit
      (s.resolvedPages tenant limits.vectorK [] (batches pageSize ranked)))

/-- What a vector leg may rest on: nothing, when the provider gives no vector, or its first vector
and an index that follows the store. -/
inductive Compared (svc : Service σ) (w : World σ) (tenant query : String) :
    Option (List LegHit) → Prop
  | failed {e : ServiceError} (h : (svc.embed [query] w.outside).outcome = .error e) :
      Compared svc w tenant query none
  | empty (h : (svc.embed [query] w.outside).outcome = .ok []) : Compared svc w tenant query none
  | ranked {v : Vec} {vs : List Vec} {rows : List ListedVector}
      (h : (svc.embed [query] w.outside).outcome = .ok (v :: vs))
      (hrows : ((svc.embed [query] w.outside).meanwhile w.store).listedAfter w.memory.watermark =
        .ok rows) :
      Compared svc w tenant query (svc.legAt ((svc.embed [query] w.outside).meanwhile w.store)
        (w.memory.follow rows).vectors tenant v)

/-- A vector leg that succeeds, and the store behind it. -/
lemma vectorLeg_eq_ok {leg : Option (List LegHit)}
    (h : perform (svc.vectorLeg tenant query) w = (.ok leg, w')) :
    svc.Compared w tenant query leg ∧
      w'.store = (svc.embed [query] w.outside).meanwhile w.store := by
  unfold vectorLeg at h
  obtain ⟨reply, u, hcall, hrest⟩ := perform_bind_eq_ok.mp h
  cases hcall
  split at hrest
  · rename_i e he
    cases hrest
    exact ⟨.failed he, rfl⟩
  · rename_i he
    cases hrest
    exact ⟨.empty he, rfl⟩
  · rename_i v vs he
    obtain ⟨n, u, hsync, hrest⟩ := perform_bind_eq_ok.mp hrest
    obtain ⟨rows, hrows, rfl⟩ := sync_eq_ok hsync
    rw [perform_bind_of_ok (perform_get _)] at hrest
    dsimp only at hrows hrest
    have hleg : svc.Compared w tenant query _ := .ranked he hrows
    unfold legAt at hleg
    split at hrest
    · rename_i mismatch hrank
      cases hrest
      simp only [hrank] at hleg
      exact ⟨hleg, rfl⟩
    · rename_i ranked hrank
      obtain ⟨found, x, hpages, hpure⟩ := perform_bind_eq_ok.mp hrest
      obtain ⟨t, hresolved, rfl⟩ := perform_store_eq_ok.mp hpages
      obtain ⟨rfl, rfl⟩ := Store.resolvePages_eq_ok hresolved
      cases hpure
      simp only [hrank] at hleg
      exact ⟨hleg, rfl⟩

/-- A vector leg names live chunks of the tenant. -/
lemma liveIn_of_mem_legAt {s : Store} {index : VectorIndex} {v : Vec} {legs : List LegHit}
    (h : svc.legAt s index tenant v = some legs) {leg : LegHit} (hleg : leg ∈ legs) :
    leg.LiveIn s tenant := by
  unfold legAt at h
  dsimp only at h
  split at h
  · cases h
  · cases h
    refine Grouping.liveIn_of_mem_byRecord ?_ hleg
    intro hit hhit
    rcases Store.of_mem_resolvedPages hhit with hnone | hlive
    · cases hnone
    · exact hlive

/-- The legs that a search may rest on name live chunks of the tenant. -/
lemma Compared.liveIn {legs : Option (List LegHit)} (h : svc.Compared w tenant query legs)
    {leg : LegHit} (hleg : leg ∈ legs.getD []) :
    leg.LiveIn ((svc.embed [query] w.outside).meanwhile w.store) tenant := by
  cases h with
  | failed h => cases hleg
  | empty h => cases hleg
  | @ranked v vs rows h hrows =>
    rcases hlegs : svc.legAt ((svc.embed [query] w.outside).meanwhile w.store)
      (w.memory.follow rows).vectors tenant v with _ | legs
    · rw [hlegs] at hleg
      cases hleg
    · rw [hlegs] at hleg
      exact liveIn_of_mem_legAt hlegs hleg

/-- The lexical leg names a record once. -/
lemma nodup_record_lexicalLeg (w : World σ) (tenant query : String) :
    ((svc.lexicalLeg w tenant query).map LegHit.record).Nodup := Grouping.nodup_record_byRecord

/-- The legs that a search may rest on name a record once. -/
lemma Compared.nodup_record {legs : Option (List LegHit)} (h : svc.Compared w tenant query legs) :
    ((legs.getD []).map LegHit.record).Nodup := by
  cases h with
  | failed h => exact List.nodup_nil
  | empty h => exact List.nodup_nil
  | ranked h hrows =>
    unfold legAt
    dsimp only
    split
    · exact List.nodup_nil
    · exact Grouping.nodup_record_byRecord

/-! ### The answer -/

/-- A search that succeeds answers with nothing when it asks for nothing, and else with its legs. -/
lemma hybridSearch_eq_ok {limit : Nat} {found : SearchResponse}
    (h : perform (svc.hybridSearch tenant query limit) w = (.ok found, w')) :
    ((limit = 0 || Text.isBlankText query) = true ∧ found = .empty ∧ w' = w) ∨
      (limit = 0 || Text.isBlankText query) = false ∧ ∃ vector, svc.Compared w tenant query vector ∧
        w'.store = (svc.embed [query] w.outside).meanwhile w.store ∧
        found = .ofLegs svc.config.search.rrfK limit (svc.lexicalLeg w tenant query) vector := by
  unfold hybridSearch at h
  split at h
  · rename_i hidle
    cases h
    exact .inl ⟨hidle, rfl, rfl⟩
  · rename_i hbusy
    rw [perform_bind_of_ok (perform_get w)] at h
    obtain ⟨vector, u, hleg, hpure⟩ := perform_bind_eq_ok.mp h
    cases hpure
    obtain ⟨hcompared, hstore⟩ := vectorLeg_eq_ok hleg
    exact .inr ⟨Bool.eq_false_iff.mpr hbusy, vector, hcompared, hstore, rfl⟩

/-- A search fuses two legs that name their records once, and a degraded one has no vector leg. -/
lemma exists_legs_of_search {limit : Nat} {found : SearchResponse}
    (h : perform (svc.hybridSearch tenant query limit) w = (.ok found, w')) {hit : FusedHit}
    (hhit : hit ∈ found.hits) : ∃ lexical vector : List LegHit,
      (lexical.map LegHit.record).Nodup ∧ (vector.map LegHit.record).Nodup ∧
        hit ∈ Fusion.fuse lexical vector svc.config.search.rrfK ∧
        (found.degraded = true → vector = []) := by
  rcases hybridSearch_eq_ok h with ⟨-, rfl, -⟩ | ⟨-, leg, hcompared, -, rfl⟩
  · cases hhit
  · refine ⟨svc.lexicalLeg w tenant query, leg.getD [], nodup_record_lexicalLeg _ _ _,
      hcompared.nodup_record, List.mem_of_mem_take hhit, fun hdegraded => ?_⟩
    have hnone : leg = none := Option.isNone_iff_eq_none.mp hdegraded
    rw [hnone]
    rfl

/-! ### Searches that succeed -/

/-- A vector leg succeeds if the store can be read behind the call to the provider. -/
lemma exists_vectorLeg_eq_ok (tenant : String)
    (h : ((svc.embed [query] w.outside).meanwhile w.store).Readable w.memory.watermark) :
    ∃ leg w', perform (svc.vectorLeg tenant query) w = (.ok leg, w') := by
  obtain ⟨hlisting, hcontexts, rows, hrows⟩ := h
  set u : World σ := { w with
    store := (svc.embed [query] w.outside).meanwhile w.store
    cancelled := w.cancelled || (svc.embed [query] w.outside).cancels
    outside := (svc.embed [query] w.outside).outside } with hu
  have hcall : perform (svc.call [query]) w = (.ok (svc.embed [query] w.outside).outcome, u) := rfl
  unfold vectorLeg
  rw [perform_bind_of_ok hcall]
  split
  · exact ⟨none, u, rfl⟩
  · exact ⟨none, u, rfl⟩
  · rw [perform_bind_of_ok (perform_sync hlisting hrows), perform_bind_of_ok (perform_get _)]
    dsimp only
    split
    · exact ⟨none, _, rfl⟩
    · rename_i ranked _
      have hpages := Store.perform_resolvePages hcontexts tenant svc.config.search.vectorK []
        (batches pageSize ranked)
      rw [perform_bind_of_ok (perform_store_of_ok_same hpages)]
      exact ⟨_, _, rfl⟩

/-- A search succeeds if the store can be read behind the call to the provider. -/
lemma exists_hybridSearch_eq_ok (tenant : String) (limit : Nat)
    (h : ((svc.embed [query] w.outside).meanwhile w.store).Readable w.memory.watermark) :
    ∃ found w', perform (svc.hybridSearch tenant query limit) w = (.ok found, w') := by
  unfold hybridSearch
  split
  · exact ⟨.empty, w, rfl⟩
  · obtain ⟨leg, w', hleg⟩ := exists_vectorLeg_eq_ok tenant h
    rw [perform_bind_of_ok (perform_get _), perform_bind_of_ok hleg]
    exact ⟨_, w', rfl⟩

end Service

end Dossier
