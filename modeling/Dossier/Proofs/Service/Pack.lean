import Dossier.Proofs.Evidence.Candidates
import Dossier.Proofs.Service.Search
import Dossier.Proofs.Store.Lookup

/-!
# What a pack comes to

The steps of a pack without the operations that they are made of.  An `Assembly` is what a service
finds, decides and loads on the way to a pack, and `Assembly.Makes` says that it does so and what
the pack is then.  The sources of a pack are candidates of its search that the policy permits,
whatever redaction and the choice among them do.
-/

namespace Dossier

variable {σ : Type}

namespace Store

variable {s t : Store}

/-- Rows of evidence that are added come behind those that are held. -/
lemma addEvidence_eq_ok {held rows all : List EvidenceEntry}
    (h : addEvidence held rows = .ok all) : all = held ++ rows := by
  induction rows generalizing held with
  | nil =>
    cases h
    exact (List.append_nil _).symm
  | cons row rest ih =>
    unfold addEvidence at h
    split at h
    · cases h
    · split at h
      · cases h
      · rw [ih h, List.append_assoc, List.singleton_append]

/-- Evidence that is put on record comes behind what is on record. -/
lemma insertEvidence_eq_ok {rows : List EvidenceEntry}
    (h : perform (insertEvidence rows) s = (.ok (), t)) : t.evidence = s.evidence ++ rows := by
  unfold insertEvidence at h
  split at h
  · rename_i hnone
    cases h
    rw [List.isEmpty_iff.mp hnone, List.append_nil]
  · obtain ⟨-, h⟩ := perform_statement_eq_ok.mp h
    rcases hall : addEvidence s.evidence rows with e | all
    · rw [hall] at h
      cases h
    · rw [hall] at h
      cases h
      exact addEvidence_eq_ok hall

/-- An audit event that is put on record leaves the evidence alone. -/
lemma insertAudit_eq_ok {event : AuditEvent} (h : perform (insertAudit event) s = (.ok (), t)) :
    t.evidence = s.evidence := by
  obtain ⟨-, h⟩ := perform_statement_eq_ok.mp h
  split at h
  · cases h
  · cases h
    rfl

end Store

namespace Service

variable {svc : Service σ} {w w' : World σ} {req : PackRequest}

/-! ### The steps of an assembly -/

/-- The candidates that a search yields are those of its hits, and finding them changes nothing. -/
lemma candidates_eq_ok {tenant : String} {found : SearchResponse} {cs : List Candidate}
    (h : perform (svc.candidates tenant found) w = (.ok cs, w')) :
    cs = Candidate.ofHits svc.config.evidence.snippetMaxChars found.hits
      (w.store.contextsOf tenant (found.hits.flatMap FusedHit.chunks)) ∧ w' = w := by
  unfold candidates at h
  obtain ⟨contexts, u, hload, hpure⟩ := perform_bind_eq_ok.mp h
  cases hpure
  obtain ⟨t, hread, rfl⟩ := perform_store_eq_ok.mp hload
  obtain ⟨-, rfl, rfl⟩ := Store.perform_reading_eq_ok.mp hread
  exact ⟨rfl, rfl⟩

/-- How a service shows some candidates: as the policy redacts them, or as they are. -/
def Shows (svc : Service σ) (o : σ) (cs shown : List Candidate) : Prop :=
  if svc.config.security.redactPii && !cs.isEmpty then
    ∃ items, svc.redact (cs.map Candidate.redactionItem) o = .ok items ∧
      Candidate.withRedactions items cs = some shown
  else shown = cs

/-- Candidates that are shown are the same candidates. -/
lemma Shows.map_bare {o : σ} {cs shown : List Candidate} (h : svc.Shows o cs shown) :
    shown.map Candidate.bare = cs.map Candidate.bare := by
  unfold Shows at h
  split at h
  · obtain ⟨items, -, hshown⟩ := h
    exact Candidate.map_bare_of_withRedactions hshown
  · rw [h]

/-- Redaction that succeeds shows the candidates, and changes nothing. -/
lemma redacted_eq_ok {cs shown : List Candidate}
    (h : perform (svc.redacted cs) w = (.ok shown, w')) :
    svc.Shows w.outside cs shown ∧ w' = w := by
  unfold redacted at h
  unfold Shows
  split at h
  · rename_i hredact
    rw [if_pos hredact]
    obtain ⟨items, u, hask, hrest⟩ := perform_bind_eq_ok.mp h
    rw [perform_ask] at hask
    obtain ⟨hitems, rfl⟩ := Prod.mk.inj hask
    split at hrest
    · rename_i out hout
      cases hrest
      exact ⟨⟨items, hitems, hout⟩, rfl⟩
    · cases hrest
  · rename_i hplain
    rw [if_neg hplain]
    cases h
    exact ⟨rfl, rfl⟩

/-- The age from which sources count as stale is the configured number of days, if it is a span of
time, and looking it up changes nothing. -/
lemma staleAfter_eq_ok {after : Int} (h : perform svc.staleAfter w = (.ok after, w')) :
    after = svc.config.evidence.staleAfterDays * EvidencePack.perDay ∧ w' = w := by
  unfold staleAfter EvidencePack.spanOfDays? at h
  split at h
  · rename_i span hspan
    cases h
    obtain ⟨-, hdays⟩ := Option.ite_none_right_eq_some.mp hspan
    exact ⟨(Option.some.inj hdays).symm, rfl⟩
  · cases h

/-- The sources of some candidates are these candidates, each with an identifier. -/
lemma sourcesOf_eq_ok {cs : List Candidate} {sources : List Source}
    (h : perform (svc.sourcesOf cs) w = (.ok sources, w')) :
    sources.map (·.candidate) = cs ∧ w'.store = w.store := by
  induction cs generalizing w sources with
  | nil =>
    cases h
    exact ⟨rfl, rfl⟩
  | cons c rest ih =>
    unfold sourcesOf at h
    obtain ⟨id, u, hdraw, hrest⟩ := perform_bind_eq_ok.mp h
    cases hdraw
    obtain ⟨others, v, hothers, hpure⟩ := perform_bind_eq_ok.mp hrest
    cases hpure
    obtain ⟨heq, hstore⟩ := ih hothers
    exact ⟨congrArg (c :: ·) heq, hstore⟩

/-! ### Assemblies -/

/-- How many sources a request asks for. -/
def sourceLimit (svc : Service σ) (req : PackRequest) : Nat :=
  req.limit.getD svc.config.evidence.topK

/-- What a service finds, decides and loads on the way to a pack. -/
structure Assembly (svc : Service σ) (req : PackRequest) (w : World σ) where
  /-- What the search finds. -/
  found : SearchResponse
  /-- The world behind the search. -/
  behind : World σ
  /-- What the policy lets the principal see. -/
  filter : PermissionFilter
  /-- The permitted candidates as they are shown. -/
  shown : List Candidate
  /-- The vectors of these candidates. -/
  vectors : List (Id × Vec)

namespace Assembly

/-- All candidates. -/
def all (a : Assembly svc req w) : List Candidate :=
  Candidate.ofHits svc.config.evidence.snippetMaxChars a.found.hits
    (a.behind.store.contextsOf req.principal.tenant (a.found.hits.flatMap FusedHit.chunks))

/-- The candidates that the principal may see. -/
def permitted (a : Assembly svc req w) : List Candidate :=
  a.all.filter (Candidate.permitted a.filter)

/-- These candidates, each marked when it is stale. -/
def marked (a : Assembly svc req w) : List Candidate :=
  a.shown.map
    (Candidate.marked w.now (svc.config.evidence.staleAfterDays * EvidencePack.perDay))

/-- These candidates without near duplicates. -/
def distinct (a : Assembly svc req w) : List Candidate :=
  Candidate.distinct a.vectors svc.config.evidence.dedupThreshold a.marked

/-- The candidates that are left for the pack before it is cut to its limit. -/
def left (a : Assembly svc req w) : List Candidate :=
  Candidate.limited svc.config.evidence.maxSourcesPerRecord a.distinct

/-- What the passes have dropped on the way to a pack is what each of them has left out. -/
lemma total_drops (a : Assembly svc req w) :
    (EvidencePack.select svc.config.evidence a.vectors
      (Candidate.permittedPass a.filter a.all).dropped a.marked).drops.total =
        a.all.length - a.permitted.length + (a.marked.length - a.distinct.length) +
          (a.distinct.length - a.left.length) := by
  unfold EvidencePack.select Drops.total
  dsimp only
  rw [Candidate.dropped_permittedPass, Candidate.dropped_distinctPass, Candidate.dropped_limitedPass]
  rfl

/-- The service goes this way to a pack. -/
structure Makes (a : Assembly svc req w) (pack : EvidencePack) : Prop where
  search : perform (svc.hybridSearch req.principal.tenant req.query
    (max svc.config.evidence.candidateK (svc.sourceLimit req)))
      { w with drawn := w.drawn + 1 } = (.ok a.found, a.behind)
  filter : svc.permissions req.principal a.behind.outside = .ok a.filter
  shown : svc.Shows a.behind.outside a.permitted a.shown
  vectors : perform (Store.loadVectors req.principal.tenant (a.marked.map Candidate.chunk))
    a.behind.store = (.ok a.vectors, a.behind.store)
  tenant : pack.tenant = req.principal.tenant
  sources : pack.sources.map (·.candidate) = a.left.take (svc.sourceLimit req)
  confidence : pack.confidence = Confidence.ofScore
    (pack.sources.head?.map (·.candidate.score)) svc.config.evidence.highConfidence
    svc.config.evidence.mediumConfidence
  total : pack.totalCandidates = a.all.length
  filtered : pack.filteredCount = a.all.length - a.permitted.length +
    (a.marked.length - a.distinct.length) + (a.distinct.length - a.left.length)

variable {a : Assembly svc req w} {pack : EvidencePack}

/-- The candidates that are chosen from are the permitted ones, apart from what is shown of them. -/
lemma Makes.map_bare_marked (h : a.Makes pack) :
    a.marked.map Candidate.bare = a.permitted.map Candidate.bare :=
  (Candidate.map_bare_marked _ _ _).trans h.shown.map_bare

/-- A candidate that is left is one of those that are chosen from. -/
lemma mem_marked_of_mem_left {c : Candidate} (hc : c ∈ a.left) : c ∈ a.marked :=
  Candidate.mem_of_mem_distinct (Candidate.mem_of_mem_limited hc)

/-- A candidate that is chosen from is a permitted one, apart from what is shown of it. -/
lemma Makes.exists_permitted (h : a.Makes pack) {c : Candidate} (hc : c ∈ a.marked) :
    ∃ c' ∈ a.permitted, c'.bare = c.bare := by
  have hmem : c.bare ∈ a.marked.map Candidate.bare := List.mem_map_of_mem hc
  rw [h.map_bare_marked] at hmem
  exact List.mem_map.mp hmem

/-- A candidate that is chosen from has the score and the method of a hit of the search. -/
lemma Makes.exists_hit (h : a.Makes pack) {c : Candidate} (hc : c ∈ a.marked) :
    ∃ hit ∈ a.found.hits, c.score = hit.normalized ∧ c.method = hit.method := by
  obtain ⟨c', hc', hbare⟩ := h.exists_permitted hc
  obtain ⟨-, hit, hhit, -, hscore, hmethod⟩ := Candidate.of_mem_ofHits (List.mem_filter.mp hc').1
  have hsame : c'.score = c.score := congrArg (fun c => c.score) hbare
  have hsame' : c'.method = c.method := congrArg (fun c => c.method) hbare
  exact ⟨hit, hhit, hsame.symm.trans hscore, hsame'.symm.trans hmethod⟩

/-- The sources of a pack are among the candidates that are left. -/
lemma Makes.mem_left_of_mem_sources (h : a.Makes pack) {source : Source}
    (hsource : source ∈ pack.sources) : source.candidate ∈ a.left := by
  have hmem : source.candidate ∈ pack.sources.map (·.candidate) := List.mem_map_of_mem hsource
  rw [h.sources] at hmem
  exact List.mem_of_mem_take hmem

end Assembly

/-- A pack that is put together is made in an assembly, the store is then the one behind its search,
and the pack is degraded if the search was. -/
lemma assemble_eq_ok {pack : EvidencePack}
    (h : perform (svc.assemble req) w = (.ok pack, w')) :
    ∃ a : Assembly svc req w, a.Makes pack ∧ w'.store = a.behind.store ∧
      pack.degraded = a.found.degraded := by
  unfold assemble at h
  rw [perform_bind_of_ok (perform_draw _ _), perform_bind_of_ok (perform_get _)] at h
  obtain ⟨found, u, hsearch, h⟩ := perform_bind_eq_ok.mp h
  obtain ⟨all, u', hall, h⟩ := perform_bind_eq_ok.mp h
  obtain ⟨rfl, rfl⟩ := candidates_eq_ok hall
  obtain ⟨filter, v, hask, h⟩ := perform_bind_eq_ok.mp h
  rw [perform_ask] at hask
  obtain ⟨hfilter, rfl⟩ := Prod.mk.inj hask
  obtain ⟨shown, v', hredacted, h⟩ := perform_bind_eq_ok.mp h
  rw [Candidate.kept_permittedPass] at hredacted
  obtain ⟨hshown, rfl⟩ := redacted_eq_ok hredacted
  obtain ⟨after, y, hafter, h⟩ := perform_bind_eq_ok.mp h
  obtain ⟨rfl, rfl⟩ := staleAfter_eq_ok hafter
  obtain ⟨vectors, x, hload, h⟩ := perform_bind_eq_ok.mp h
  obtain ⟨t, hvectors, rfl⟩ := perform_store_eq_ok.mp hload
  obtain ⟨sources, x', hsources, h⟩ := perform_bind_eq_ok.mp h
  cases h
  obtain ⟨heq, hstore⟩ := sourcesOf_eq_ok hsources
  obtain ⟨rfl, -⟩ := Store.loadVectors_eq_ok hvectors
  let a : Assembly svc req w := ⟨found, u', filter, shown, vectors⟩
  have hdrops := a.total_drops
  exact ⟨a, ⟨hsearch, hfilter, hshown, hvectors, rfl, heq, rfl, rfl, hdrops⟩, hstore, rfl⟩

/-- What is left to do with a pack that was put together: it goes on record, and is audited. -/
def handOver (svc : Service σ) (req : PackRequest) (pack : EvidencePack) :
    Action σ EvidencePack := do
  Action.store (Store.insertEvidence pack.evidence)
  let id ← Action.draw svc.fresh
  svc.record (pack.auditEvent id req (← get).now)
  return pack

/-- A pack for a tenant is put together and handed over. -/
lemma pack_eq (htenant : Text.isBlankText req.principal.tenant = false) :
    svc.pack req = svc.assemble req >>= svc.handOver req := by
  unfold pack
  rw [htenant, if_neg Bool.false_ne_true]
  rfl

/-- A pack that is built is the one that was put together, and its evidence is then on record. -/
lemma exists_assembled {pack : EvidencePack} (h : perform (svc.pack req) w = (.ok pack, w')) :
    ∃ u, perform (svc.assemble req) w = (.ok pack, u) ∧
      w'.store.evidence = u.store.evidence ++ pack.evidence := by
  unfold Service.pack at h
  split at h
  · cases h
  · obtain ⟨assembled, u, hassemble, h⟩ := perform_bind_eq_ok.mp h
    obtain ⟨⟨⟩, v, hevidence, h⟩ := perform_bind_eq_ok.mp h
    obtain ⟨id, v', hdraw, h⟩ := perform_bind_eq_ok.mp h
    cases hdraw
    obtain ⟨now, x, hget, h⟩ := perform_bind_eq_ok.mp h
    cases hget
    obtain ⟨⟨⟩, x', hrecord, hpure⟩ := perform_bind_eq_ok.mp h
    cases hpure
    unfold record at hrecord
    obtain ⟨⟨⟩, y, hask, hinsert⟩ := perform_bind_eq_ok.mp hrecord
    rw [perform_ask] at hask
    obtain ⟨-, rfl⟩ := Prod.mk.inj hask
    obtain ⟨t, haudit, rfl⟩ := perform_store_eq_ok.mp hinsert
    obtain ⟨t', hrows, rfl⟩ := perform_store_eq_ok.mp hevidence
    exact ⟨u, hassemble, (Store.insertAudit_eq_ok haudit).trans (Store.insertEvidence_eq_ok hrows)⟩

/-- A pack that is built is made in an assembly, and its evidence is then on record. -/
lemma pack_eq_ok {pack : EvidencePack} (h : perform (svc.pack req) w = (.ok pack, w')) :
    ∃ a : Assembly svc req w, a.Makes pack ∧
      w'.store.evidence = a.behind.store.evidence ++ pack.evidence := by
  obtain ⟨u, hassemble, hevidence⟩ := exists_assembled h
  obtain ⟨a, hmakes, hstore, -⟩ := assemble_eq_ok hassemble
  rw [hstore] at hevidence
  exact ⟨a, hmakes, hevidence⟩

end Service

end Dossier
