import Dossier.Proofs.Service.Pack
import Dossier.Proofs.Service.Projection

/-!
# Tenants see their own records only

Whatever was ingested, replaced, refreshed, retired and embedded before, and for whichever tenants,
a search names live records of the tenant that asks and their chunks, and the sources of a pack are
chunks of live records of the principal's tenant that its policy permits.
-/

namespace Dossier

variable {σ : Type}

/-- A hit names a live record of a tenant, and chunks of this record. -/
def FusedHit.OwnedBy (s : Store) (tenant : String) (hit : FusedHit) : Prop :=
  ∃ r ∈ s.records, r.id = hit.record ∧ r.live ∧ r.tenant = tenant ∧
    ∀ id ∈ hit.chunks, ∃ c ∈ s.chunks, c.id = id ∧ c.record = r.id

/-- A source is a chunk of a live record of a tenant, as both are stored. -/
structure Source.OwnedBy (s : Store) (tenant : String) (source : Source) : Prop where
  chunk : source.candidate.context.chunk ∈ s.chunks
  record : source.candidate.context.record ∈ s.records
  own : source.candidate.context.chunk.record = source.candidate.context.record.id
  live : source.candidate.context.record.live
  tenant : source.candidate.context.record.tenant = tenant

/-- What the standard policy lets a principal see of its tenant: records that nobody owns or that it
owns, and every record if it is an administrator. -/
def Principal.MaySee (p : Principal) (r : Record) : Prop :=
  r.content.owner = none ∨ r.content.owner = some p.user ∨ p.hasRole Policy.adminRole

/-- The filter of the standard policy lets a principal see what it may see of its tenant. -/
lemma Policy.allows_standardFilter_iff {p : Principal} {r : Record} :
    (standardFilter p).allows r.tenant r.content.owner ↔ r.tenant = p.tenant ∧ p.MaySee r := by
  unfold PermissionFilter.allows standardFilter Principal.MaySee
  rw [Bool.and_eq_true, beq_iff_eq]
  refine and_congr_right fun _ => ?_
  by_cases hadmin : p.hasRole adminRole = true
  · rw [if_pos hadmin]
    simp [hadmin]
  · rw [if_neg hadmin]
    rcases r.content.owner with _ | owner
    · simp
    · simp only [hadmin, or_false, reduceCtorEq, false_or, Option.some.injEq, beq_iff_eq]
      exact eq_comm

/-! ### Hits -/

/-- The chunks that the lexical index finds for a tenant are among its entries. -/
lemma LexicalIndex.of_mem_search {index : LexicalIndex} {tenant : String} {ts : List String}
    {hit : Hit} (h : hit ∈ index.search tenant ts) :
    ∃ e ∈ index.entries, e.tenant = tenant ∧ e.record = hit.record ∧ e.chunk = hit.chunk := by
  unfold search rank at h
  rw [List.mem_mergeSort] at h
  obtain ⟨e, he, hmap⟩ := List.mem_filterMap.mp h
  obtain ⟨score, -, rfl⟩ := Option.map_eq_some_iff.mp hmap
  obtain ⟨hmem, htenant⟩ := List.mem_filter.mp he
  exact ⟨e, hmem, beq_iff_eq.mp htenant, rfl, rfl⟩

/-- The lexical leg names live chunks of the tenant. -/
lemma Service.liveIn_of_mem_lexicalLeg {svc : Service σ} {w : World σ} {s : Store}
    (hw : w.memory.lexical.Shows s) {tenant query : String} {leg : LegHit}
    (hleg : leg ∈ svc.lexicalLeg w tenant query) : leg.LiveIn s tenant := by
  refine Grouping.liveIn_of_mem_byRecord ?_ hleg
  intro hit hhit
  obtain ⟨found, hfound, rfl⟩ := List.mem_map.mp hhit
  obtain ⟨e, he, htenant, hrecord, hchunk⟩ := LexicalIndex.of_mem_search hfound
  rw [← htenant, ← hrecord, ← hchunk]
  exact hw e he

/-- A hit of two legs that name live chunks of a tenant is owned by the tenant. -/
lemma Fusion.ownedBy_of_mem_fuse {s : Store} {tenant : String} {lexical vector : List LegHit}
    {k : Nat} (hlive : ∀ leg ∈ lexical ++ vector, leg.LiveIn s tenant) {hit : FusedHit}
    (hhit : hit ∈ fuse lexical vector k) : hit.OwnedBy s tenant := by
  obtain ⟨⟨leg, hleg, hrecord⟩, hchunks⟩ := of_mem_fuse hhit
  obtain ⟨chunk, ⟨r, hr, hid, hrlive, htenant⟩, -⟩ := (hlive leg hleg).record
  refine ⟨r, hr, hid.trans hrecord, hrlive, htenant, ?_⟩
  intro id hmem
  obtain ⟨leg', hleg', hrecord', hchunk⟩ := hchunks id hmem
  obtain ⟨-, c, hc, hcid, hown⟩ := (hlive leg' hleg').chunks id hchunk
  exact ⟨c, hc, hcid, hown.trans (hrecord'.trans (hid.trans hrecord).symm)⟩

variable {svc : Service σ} {w w' : World σ}

/-- A search keeps the tables. -/
lemma Service.Quiet.sameTables_of_search (hq : svc.Quiet) {tenant query : String} {limit : Nat}
    {found : SearchResponse}
    (h : perform (svc.hybridSearch tenant query limit) w = (.ok found, w')) :
    Store.SameTables w.store w'.store := by
  rcases hybridSearch_eq_ok h with ⟨-, -, rfl⟩ | ⟨-, vector, -, hstore, -⟩
  · exact .refl _
  · rw [hstore]
    exact hq [query] w.outside w.store

/-- The hits of a search are owned by the tenant. -/
lemma Service.Quiet.ownedBy_of_search (hq : svc.Quiet) (hm : w.memory.lexical.Shows w.store)
    {tenant query : String} {limit : Nat}
    {found : SearchResponse}
    (h : perform (svc.hybridSearch tenant query limit) w = (.ok found, w')) {hit : FusedHit}
    (hhit : hit ∈ found.hits) : hit.OwnedBy w.store tenant := by
  rcases hybridSearch_eq_ok h with ⟨-, rfl, -⟩ | ⟨-, vector, hcompared, -, rfl⟩
  · cases hhit
  · refine Fusion.ownedBy_of_mem_fuse ?_ (List.mem_of_mem_take hhit)
    intro leg hleg
    rcases List.mem_append.mp hleg with hlexical | hvector
    · exact liveIn_of_mem_lexicalLeg hm hlexical
    · have hlive := hcompared.liveIn hvector
      have hback := (hq [query] w.outside w.store).symm
      refine ⟨?_, fun chunk hchunk => (hlive.chunks chunk hchunk).of_sameTables hback⟩
      obtain ⟨chunk, hchunk⟩ := hlive.record
      exact ⟨chunk, hchunk.of_sameTables hback⟩

/-- The sources of a pack are owned by the principal's tenant and permitted by its filter. -/
lemma Service.Quiet.ownedBy_of_pack (hq : svc.Quiet) {req : PackRequest} {pack : EvidencePack}
    (h : perform (svc.pack req) w = (.ok pack, w')) :
    ∃ filter o, svc.permissions req.principal o = .ok filter ∧ ∀ source ∈ pack.sources,
      source.OwnedBy w.store req.principal.tenant ∧ source.candidate.permitted filter := by
  obtain ⟨a, ha, -⟩ := pack_eq_ok h
  refine ⟨a.filter, a.behind.outside, ha.filter, ?_⟩
  intro source hsource
  obtain ⟨c, hc, hbare⟩ :=
    ha.exists_permitted (Assembly.mem_marked_of_mem_left (ha.mem_left_of_mem_sources hsource))
  have hcontext : c.context = source.candidate.context := congrArg (fun c => c.context) hbare
  obtain ⟨hall, hpermitted⟩ := List.mem_filter.mp hc
  obtain ⟨hlive, htenant, -⟩ := Store.mem_contextsOf.mp (Candidate.of_mem_ofHits hall).1
  unfold Candidate.permitted at hpermitted ⊢
  rw [hcontext] at hlive htenant hpermitted
  obtain ⟨hchunk, hrecord, hrlive⟩ := Store.mem_liveChunks.mp hlive
  obtain ⟨hmem, hid⟩ := Store.of_record?_eq_some hrecord
  have hsame : Store.SameTables w.store a.behind.store :=
    hq.sameTables_of_search (w := { w with drawn := w.drawn + 1 }) ha.search
  rw [hsame.chunks] at hchunk
  rw [hsame.records] at hmem
  exact ⟨⟨hchunk, hmem, hid.symm, hrlive, htenant⟩, hpermitted⟩

/-- In every world that a service reaches from an empty store, whatever operations came before: each
hit of a search names a live record of the tenant that is asked for, and chunks of this record; and
each source of a pack is a chunk of a live record of the principal's tenant, which the filter of the
policy lets the principal see, and with the standard policy this is to say that nobody owns the
record, or that the principal does or is an administrator. -/
theorem reads_isolated (hq : svc.Quiet) (hw : Reachable svc w) :
    (∀ tenant query limit found w',
        perform (svc.hybridSearch tenant query limit) w = (.ok found, w') →
          ∀ hit ∈ found.hits, hit.OwnedBy w.store tenant) ∧
      (∀ req pack w', perform (svc.pack req) w = (.ok pack, w') →
        ∃ filter o, svc.permissions req.principal o = .ok filter ∧ ∀ source ∈ pack.sources,
          source.OwnedBy w.store req.principal.tenant ∧ source.candidate.permitted filter) ∧
      ((∀ p o, svc.permissions p o = .ok (Policy.standardFilter p)) →
        ∀ req pack w', perform (svc.pack req) w = (.ok pack, w') → ∀ source ∈ pack.sources,
          source.OwnedBy w.store req.principal.tenant ∧
            req.principal.MaySee source.candidate.context.record) := by
  refine ⟨?_, ?_, ?_⟩
  · intro tenant query limit found w' h hit hhit
    exact hq.ownedBy_of_search (hw.shows hq) h hhit
  · intro req pack w' h
    exact hq.ownedBy_of_pack h
  · intro hstandard req pack w' h source hsource
    obtain ⟨filter, o, hfilter, hsources⟩ := hq.ownedBy_of_pack h
    obtain ⟨howned, hpermitted⟩ := hsources source hsource
    rw [hstandard] at hfilter
    cases hfilter
    exact ⟨howned, (Policy.allows_standardFilter_iff.mp hpermitted).2⟩

/-- The store of a service on its own that keeps notes of two tenants about the same account. -/
def Service.twoTenants : World Unit :=
  standaloneAfter [.ingest (.sampleNote "acme" "Call" "Renewal is due."),
    .ingest (.sampleNote "rival" "Call" "Renewal is done."), .embedRecord "acme" ⟨0⟩]

/-- A request for evidence about a note of the first tenant. -/
def PackRequest.sample : PackRequest := ⟨⟨"acme", "u1", []⟩, "renewal", none⟩

/-- Two tenants with notes about the same words: one of them finds its own note and gets it as
evidence. -/
theorem reads_isolated_twoTenants :
    let svc := Service.standalone .small
    let w := Service.twoTenants
    svc.Quiet ∧ Reachable svc w ∧
      (perform (svc.hybridSearch "acme" "renewal" 10) w).1.toOption.map (·.hits.length) = some 1 ∧
      (perform (svc.pack .sample) w).1.toOption.map (·.sources.length) = some 1 ∧
      (∀ tenant query limit found w',
        perform (svc.hybridSearch tenant query limit) w = (.ok found, w') →
          ∀ hit ∈ found.hits, hit.OwnedBy w.store tenant) ∧
      (∀ req pack w', perform (svc.pack req) w = (.ok pack, w') →
        ∃ filter o, svc.permissions req.principal o = .ok filter ∧ ∀ source ∈ pack.sources,
          source.OwnedBy w.store req.principal.tenant ∧ source.candidate.permitted filter) ∧
      ∀ req pack w', perform (svc.pack req) w = (.ok pack, w') → ∀ source ∈ pack.sources,
        source.OwnedBy w.store req.principal.tenant ∧
          req.principal.MaySee source.candidate.context.record := by
  have hq := Service.quiet_standalone .small
  have hw : Reachable (Service.standalone .small) Service.twoTenants :=
    Service.reachable_standaloneAfter _
  obtain ⟨hsearch, hpack, hstandard⟩ := reads_isolated hq hw
  exact ⟨hq, hw, by decide +kernel, by decide +kernel, hsearch, hpack,
    hstandard fun _ _ => rfl⟩

end Dossier
