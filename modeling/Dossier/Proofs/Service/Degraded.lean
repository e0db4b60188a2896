import Dossier.Proofs.Evidence.Redaction
import Dossier.Proofs.Retrieval.LexicalOnly
import Dossier.Proofs.Service.Following
import Dossier.Proofs.Service.Packing

/-!
# Searches without the provider

When the provider gives no vector that can be compared, a search rests on the lexical ranking alone.
It still fuses that ranking with an empty one; what comes out is the lexical ranking in its order,
cut to the limit, and a pack that rests on it has no other sources.
-/

namespace Dossier

variable {σ : Type}

/-! ### The lexical leg -/

/-- A ranking names a chunk once if the index does. -/
lemma LexicalIndex.nodup_search {index : LexicalIndex} (h : (index.entries.map (·.chunk)).Nodup)
    (tenant : String) (ts : List String) : ((index.search tenant ts).map Hit.chunk).Nodup := by
  have hentries : ((index.ofTenant tenant).map (·.chunk)).Nodup := h.sublist (List.filter_sublist.map _)
  unfold search rank
  refine ((List.mergeSort_perm _ _).map Hit.chunk).nodup_iff.mpr ?_
  refine nodup_map_filterMap hentries fun entry hit heq => ?_
  obtain ⟨score, -, rfl⟩ := Option.map_eq_some_iff.mp heq
  rfl

/-- A grouped ranking names a chunk once if the ranking of chunks does. -/
lemma Grouping.nodup_chunks_of_mem_byRecord {recordLimit chunkLimit : Nat} {hits : List ChunkHit}
    (h : (hits.map (·.chunk)).Nodup) {leg : LegHit}
    (hleg : leg ∈ byRecord recordLimit chunkLimit hits) : leg.chunks.Nodup := by
  rw [byRecord_eq] at hleg
  obtain ⟨record, -, rfl⟩ := List.mem_map.mp hleg
  exact (h.sublist (List.filter_sublist.map _)).sublist (List.take_sublist _ _)

namespace Service

variable {svc : Service σ} {w : World σ} {query : String}

/-- The lexical leg names a chunk of a record once. -/
lemma nodup_chunks_of_mem_lexicalLeg (h : (w.memory.lexical.entries.map (·.chunk)).Nodup)
    {tenant query : String} {leg : LegHit} (hleg : leg ∈ svc.lexicalLeg w tenant query) :
    leg.chunks.Nodup := by
  refine Grouping.nodup_chunks_of_mem_byRecord ?_ hleg
  rw [List.map_map]
  exact LexicalIndex.nodup_search h tenant _

/-! ### Searches -/

/-- The provider gives no vector for a query that can be compared: it fails, it gives none, or the
first that it gives has another dimension than the vectors of the service. -/
def Unanswered (svc : Service σ) (query : String) (o : σ) : Prop :=
  (∃ e, (svc.embed [query] o).outcome = .error e) ∨ (svc.embed [query] o).outcome = .ok [] ∨
    ∃ v vs, (svc.embed [query] o).outcome = .ok (v :: vs) ∧ v.length ≠ svc.dimension

/-- The world behind a call to the provider. -/
def called (svc : Service σ) (query : String) (w : World σ) : World σ where
  store := (svc.embed [query] w.outside).meanwhile w.store
  memory := w.memory
  drawn := w.drawn
  now := w.now
  cancelled := w.cancelled || (svc.embed [query] w.outside).cancels
  outside := (svc.embed [query] w.outside).outside

/-- Without a vector to compare there is no vector leg; the index may have taken over what was
written. -/
lemma Unanswered.exists_vectorLeg_eq (h : svc.Unanswered query w.outside) (tenant : String)
    (hdimension : w.memory.vectors.dimension = svc.dimension)
    (hlisting : .listVectors ∉ (svc.called query w).store.refused)
    (hvalues : ∃ rows, (svc.called query w).store.listedAfter w.memory.watermark = .ok rows) :
    ∃ m, perform (svc.vectorLeg tenant query) w =
      (.ok none, { svc.called query w with memory := m }) := by
  have hcall : perform (svc.call [query]) w =
      (.ok (svc.embed [query] w.outside).outcome, svc.called query w) := rfl
  unfold vectorLeg
  rw [perform_bind_of_ok hcall]
  rcases h with ⟨e, he⟩ | he | ⟨v, vs, he, hlength⟩ <;> rw [he]
  · exact ⟨w.memory, rfl⟩
  · exact ⟨w.memory, rfl⟩
  · obtain ⟨rows, hrows⟩ := hvalues
    have hmismatch : v.length ≠ (w.memory.follow rows).vectors.dimension := by
      rw [Memory.dimension_follow, hdimension]
      exact hlength
    have hrank : ((svc.called query w).memory.follow rows).vectors.rank v =
        .error (.query v.length (w.memory.follow rows).vectors.dimension) := if_pos hmismatch
    refine ⟨w.memory.follow rows, ?_⟩
    dsimp only
    rw [perform_bind_of_ok (perform_sync hlisting hrows), perform_bind_of_ok (perform_get _)]
    dsimp only
    rw [hrank]
    rfl

/-- A search without a vector to compare is the lexical ranking in its order, cut to the limit, and
is degraded. -/
lemma Unanswered.exists_hybridSearch_eq (h : svc.Unanswered query w.outside) (tenant : String)
    {limit : Nat} (hquery : Text.isBlankText query = false) (hlimit : 0 < limit)
    (hlexical : (w.memory.lexical.entries.map (·.chunk)).Nodup)
    (hdimension : w.memory.vectors.dimension = svc.dimension)
    (hlisting : .listVectors ∉ (svc.called query w).store.refused)
    (hvalues : ∃ rows, (svc.called query w).store.listedAfter w.memory.watermark = .ok rows) :
    ∃ m, perform (svc.hybridSearch tenant query limit) w =
      (.ok ⟨((svc.lexicalLeg w tenant query).mapIdx fun i leg =>
        Fusion.single svc.config.search.rrfK (i + 1) leg).take limit, true⟩,
        { svc.called query w with memory := m }) := by
  have hbusy : (decide (limit = 0) || Text.isBlankText query) = false := by
    rw [hquery, Bool.or_false]
    exact decide_eq_false (Nat.ne_of_gt hlimit)
  obtain ⟨m, hleg⟩ := h.exists_vectorLeg_eq tenant hdimension hlisting hvalues
  refine ⟨m, ?_⟩
  unfold hybridSearch
  rw [hbusy, if_neg Bool.false_ne_true, perform_bind_of_ok (perform_get _),
    perform_bind_of_ok hleg, perform_pure]
  unfold SearchResponse.ofLegs
  rw [Option.getD_none, Fusion.fuse_nil _ (nodup_record_lexicalLeg _ _ _)
    fun leg hleg => nodup_chunks_of_mem_lexicalLeg hlexical hleg]
  rfl

end Service

/-- In every world that a service reaches from an empty store, when the provider gives no vector for
a query that can be compared and listing vectors is not refused, a search succeeds for every
constant of fusion: it is degraded, and its hits are the records of the lexical leg in their order,
up to the limit, each found lexically, with its place as its rank and with the chunks that the leg
names.  A pack that rests on such a search is built if nobody else fails it and the configured days
after which sources are stale have no more seconds than a number of 64 bits holds; it is degraded,
and all its sources were found lexically.  With more days than that it is broken off like every
other pack (`Service.exists_pack_eq_overflow`). -/
theorem search_degrades {svc : Service σ} {w : World σ} (hq : svc.Quiet) (hw : Reachable svc w)
    {query : String} (hquery : Text.isBlankText query = false)
    (hmute : svc.Unanswered query w.outside)
    (hlisting : .listVectors ∉ (svc.called query w).store.refused) :
    (∀ tenant limit, 0 < limit → ∃ found w',
      perform (svc.hybridSearch tenant query limit) w = (.ok found, w') ∧ found.degraded = true ∧
      found.hits = ((svc.lexicalLeg w tenant query).mapIdx fun i leg =>
        Fusion.single svc.config.search.rrfK (i + 1) leg).take limit) ∧
    ∀ req : PackRequest, req.query = query → Text.isBlankText req.principal.tenant = false →
      0 < max svc.config.evidence.candidateK (svc.sourceLimit req) →
      svc.config.search.rrfK < twoTo 32 →
      -106751991167300 ≤ svc.config.evidence.staleAfterDays →
      svc.config.evidence.staleAfterDays ≤ 106751991167300 →
      svc.Serves req (svc.called query w).store (w.drawn + 1) (svc.called query w).outside →
      ∃ pack w', perform (svc.pack req) w = (.ok pack, w') ∧ pack.degraded = true ∧
        ∀ source ∈ pack.sources, source.candidate.method = .lexical := by
  have hfollows := hw.follows hq
  have hsame : Store.SameTables w.store (svc.called query w).store := hq [query] w.outside w.store
  have hkeyed : (svc.called query w).store.Keyed := (hw.sound hq).keyed.of_sameTables hsame
  have hvalues := hkeyed.exists_listedAfter w.memory.watermark
  constructor
  · intro tenant limit hlimit
    obtain ⟨m, hsearch⟩ := hmute.exists_hybridSearch_eq tenant hquery hlimit hfollows.lexical
      hfollows.dimension hlisting hvalues
    exact ⟨_, _, hsearch, rfl, rfl⟩
  · rintro req rfl htenant hlimit hfusion hleast hmost hserves
    have hspan := (Service.isSome_spanOfDays?_iff _).mpr ⟨hleast, hmost⟩
    obtain ⟨m, hsearch⟩ := Service.Unanswered.exists_hybridSearch_eq
      (w := { w with drawn := w.drawn + 1 }) hmute req.principal.tenant hquery hlimit
      hfollows.lexical hfollows.dimension hlisting hvalues
    obtain ⟨pack, w', hpack, hdegraded, hmethods⟩ :=
      Service.exists_pack_eq_ok htenant hfusion hsearch hserves hkeyed hspan
    refine ⟨pack, w', hpack, hdegraded, fun source hsource => ?_⟩
    obtain ⟨hit, hhit, hmethod⟩ := hmethods source hsource
    obtain ⟨i, leg, rfl⟩ : ∃ i leg, Fusion.single svc.config.search.rrfK (i + 1) leg = hit := by
      obtain ⟨i, hi, heq⟩ := List.mem_mapIdx.mp (List.mem_of_mem_take hhit)
      exact ⟨i, _, heq⟩
    exact hmethod

/-- The standard policy answers every text that it is asked for. -/
lemma Policy.exists_answer_of_mem {items : List RedactionItem} :
    ∀ item ∈ items, ∃ answer ∈ standardRedaction items, answer.key = item.key := by
  intro item hitem
  have hkey : item.key ∈ (standardRedaction items).map RedactedItem.key := by
    unfold standardRedaction
    rw [map_key_redactIn]
    exact List.mem_map_of_mem hitem
  exact List.mem_map.mp hkey

/-- A service on its own whose provider fails. -/
def Service.unembedded (config : Config) : Service Unit :=
  { standalone config with
    embed := fun _ o => ⟨.error (.provider (.reported "down")), fun s => s, false, o⟩ }

/-- The store of such a service that keeps a note. -/
def Service.unembeddedNote : World Unit :=
  Operation.run (unembedded .small) (.start (unembedded .small) ⟨0⟩ ())
    (.ingest (.sampleNote "acme" "Call" "Renewal is due."))

/-- A search and a pack when the provider fails. -/
theorem search_degrades_oneNote :
    let svc := Service.unembedded .small
    let w := Service.unembeddedNote
    svc.Quiet ∧ Reachable svc w ∧ Text.isBlankText "renewal" = false ∧
      svc.Unanswered "renewal" w.outside ∧
      .listVectors ∉ (svc.called "renewal" w).store.refused ∧
      (svc.lexicalLeg w "acme" "renewal").length = 1 ∧
      (∃ found w', perform (svc.hybridSearch "acme" "renewal" 10) w = (.ok found, w') ∧
        found.degraded = true ∧
        found.hits = ((svc.lexicalLeg w "acme" "renewal").mapIdx fun i leg =>
          Fusion.single svc.config.search.rrfK (i + 1) leg).take 10) ∧
      svc.Serves .sample (svc.called "renewal" w).store (w.drawn + 1)
        (svc.called "renewal" w).outside ∧
      ∃ pack w', perform (svc.pack .sample) w = (.ok pack, w') ∧ pack.degraded = true ∧
        ∀ source ∈ pack.sources, source.candidate.method = .lexical := by
  have hq : (Service.unembedded .small).Quiet := fun _ _ s => .refl s
  have hw : Reachable (Service.unembedded .small) Service.unembeddedNote :=
    ⟨⟨0⟩, (), .single (.operation _)⟩
  have hmute : (Service.unembedded .small).Unanswered "renewal" Service.unembeddedNote.outside :=
    .inl ⟨_, rfl⟩
  have hquery : Text.isBlankText "renewal" = false := by decide +kernel
  have hlisting : .listVectors ∉
      ((Service.unembedded .small).called "renewal" Service.unembeddedNote).store.refused := by
    decide +kernel
  have hevidence : ((Service.unembedded .small).called "renewal"
      Service.unembeddedNote).store.evidence = [] := by decide +kernel
  have haudits : ((Service.unembedded .small).called "renewal"
      Service.unembeddedNote).store.audits = [] := by decide +kernel
  have hserves : (Service.unembedded .small).Serves .sample
      ((Service.unembedded .small).called "renewal" Service.unembeddedNote).store
      (Service.unembeddedNote.drawn + 1)
      ((Service.unembedded .small).called "renewal" Service.unembeddedNote).outside := by
    refine {
      statements := by decide +kernel
      distinct := fun m n hmn => Id.mk.inj hmn
      evidence := ?_
      audits := ?_
      permits := ⟨_, rfl⟩
      redacts := fun _ items => ⟨_, rfl, Policy.exists_answer_of_mem⟩
      accepts := fun _ => rfl }
    · rintro n - row hrow
      rw [hevidence] at hrow
      cases hrow
    · rintro n - event hevent
      rw [haudits] at hevent
      cases hevent
  have h := search_degrades hq hw hquery hmute hlisting
  exact ⟨hq, hw, hquery, hmute, hlisting, by decide +kernel, h.1 "acme" 10 (by decide), hserves,
    h.2 .sample rfl (by decide +kernel) (by decide +kernel) (by decide +kernel) (by decide)
      (by decide) hserves⟩

end Dossier
