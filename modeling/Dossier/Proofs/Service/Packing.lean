import Dossier.Proofs.Service.Evidence
import Dossier.Proofs.Service.Watermark

/-!
# Packs that succeed

A pack that rests on a search which succeeded is built when nobody whom the service then works
together with fails it: the store takes its statements and the new identifiers, the policy answers,
and the audit event is accepted.  `Service.Serves` collects these conditions, and the lemmas of this
file say of each step of a pack what it comes to.
-/

namespace Dossier

variable {σ : Type}

namespace Store

variable {s : Store}

/-- Loading vectors of a keyed store succeeds, unless the statement is refused. -/
lemma Keyed.exists_loadVectors_eq_ok (hs : s.Keyed) (tenant : String)
    (hread : .readVectors ∉ s.refused)
    (ids : List Id) : ∃ rows, perform (loadVectors tenant ids) s = (.ok rows, s) := by
  obtain ⟨rows, hrows⟩ : ∃ rows, ((batches batchLimit ids).flatMap (vectorBatch s tenant)).mapM
      (fun v => (StoredVector.value v).map fun value => (v.chunk, value)) = .ok rows := by
    refine exists_mapM_eq_ok fun v hv => ?_
    obtain ⟨x, hx, -⟩ := hs.exists_value (mem_flatMap_vectorBatch.mp hv).1
    refine ⟨(v.chunk, x), ?_⟩
    rw [hx]
    rfl
  refine ⟨rows, perform_statement_eq_ok.mpr ⟨hread, ?_⟩⟩
  rw [hrows]
  rfl

/-- Rows of evidence with identifiers of their own and with scores that are numbers can be added. -/
lemma addEvidence_eq_append {held rows : List EvidenceEntry}
    (hscores : ∀ row ∈ rows, row.score.isNaN = false)
    (hnodup : (rows.map EvidenceEntry.id).Nodup)
    (hnew : ∀ row ∈ rows, ∀ other ∈ held, other.id ≠ row.id) :
    addEvidence held rows = .ok (held ++ rows) := by
  induction rows generalizing held with
  | nil =>
    rw [List.append_nil]
    rfl
  | cons row rest ih =>
    obtain ⟨hfirst, hrest⟩ := List.nodup_cons.mp hnodup
    have hfree : held.any (·.id == row.id) = false := by
      refine List.any_eq_false.mpr fun other hother heq => ?_
      exact hnew row List.mem_cons_self other hother (beq_iff_eq.mp heq)
    unfold addEvidence
    rw [hscores row List.mem_cons_self, hfree, if_neg Bool.false_ne_true, if_neg Bool.false_ne_true,
      ih (fun row hrow => hscores row (List.mem_cons_of_mem _ hrow)) hrest, List.append_assoc,
      List.singleton_append]
    intro later hlater other hother
    rcases List.mem_append.mp hother with hold | hlast
    · exact hnew later (List.mem_cons_of_mem _ hlater) other hold
    · rw [List.mem_singleton.mp hlast]
      exact fun heq => hfirst (heq ▸ List.mem_map_of_mem hlater)

/-- Rows of evidence that can be added are put on record, unless the statement is refused. -/
lemma perform_insertEvidence {rows : List EvidenceEntry} (hwrite : .insertEvidence ∉ s.refused)
    (hadd : addEvidence s.evidence rows = .ok (s.evidence ++ rows)) :
    perform (insertEvidence rows) s = (.ok (), { s with evidence := s.evidence ++ rows }) := by
  unfold insertEvidence
  split
  · rename_i hnone
    rw [List.isEmpty_iff.mp hnone, List.append_nil]
    rfl
  · refine perform_statement_eq_ok.mpr ⟨hwrite, ?_⟩
    rw [hadd]
    rfl

/-- An audit event with an identifier of its own is put on record, unless the statement is
refused. -/
lemma exists_insertAudit_eq_ok (event : AuditEvent) (hwrite : .insertAudit ∉ s.refused)
    (hnew : ∀ other ∈ s.audits, other.id ≠ event.id) :
    ∃ t, perform (insertAudit event) s = (.ok (), t) := by
  have hfree : s.audits.any (·.id == event.id) = false :=
    List.any_eq_false.mpr fun other hother heq => hnew other hother (beq_iff_eq.mp heq)
  unfold insertAudit
  rw [perform_statement, if_neg hwrite, hfree]
  exact ⟨_, rfl⟩

end Store

namespace Candidate

/-- Candidates each of which is answered can be shown. -/
lemma exists_withRedactions_eq {items : List RedactedItem} {cs : List Candidate}
    (h : ∀ c ∈ cs, ∃ item ∈ items, item.key = c.chunk) :
    ∃ shown, withRedactions items cs = some shown := by
  unfold withRedactions
  induction cs with
  | nil => exact ⟨[], rfl⟩
  | cons c rest ih =>
    obtain ⟨shown, hshown⟩ := ih fun c hc => h c (List.mem_cons_of_mem _ hc)
    obtain ⟨item, hitem, hkey⟩ := h c List.mem_cons_self
    have hfind : (items.reverse.find? (·.key == c.chunk)).isSome :=
      List.find?_isSome.mpr ⟨item, List.mem_reverse.mpr hitem, beq_iff_eq.mpr hkey⟩
    obtain ⟨answer, hanswer⟩ := Option.isSome_iff_exists.mp hfind
    refine ⟨{ c with snippet := answer.text, redacted := answer.redacted } :: shown, ?_⟩
    rw [List.mapM_cons, hshown]
    unfold withRedaction
    rw [hanswer]
    rfl

end Candidate

namespace Service

variable {svc : Service σ} {w : World σ} {req : PackRequest}

/-! ### The steps of a pack -/

/-- Nobody whom a service works together with fails a pack, in a state of the store, with so many
identifiers drawn, and in a state outside: the statements of the pack are not refused, the
identifiers to come are new, the policy lets the principal see something or nothing and redacts
every text that it is asked for, and the audit event is accepted. -/
structure Serves (svc : Service σ) (req : PackRequest) (s : Store) (drawn : Nat) (o : σ) :
    Prop where
  statements : ∀ st ∈ [Statement.readContexts, .readVectors, .insertEvidence, .insertAudit],
    st ∉ s.refused
  distinct : Function.Injective svc.fresh
  evidence : ∀ n, drawn ≤ n → ∀ row ∈ s.evidence, row.id ≠ svc.fresh n
  audits : ∀ n, drawn ≤ n → ∀ event ∈ s.audits, event.id ≠ svc.fresh n
  permits : ∃ filter, svc.permissions req.principal o = .ok filter
  redacts : svc.config.security.redactPii → ∀ items, ∃ answers, svc.redact items o = .ok answers ∧
    ∀ item ∈ items, ∃ answer ∈ answers, answer.key = item.key
  accepts : ∀ event, (svc.audit event o).1 = .ok ()

/-- The candidates of a search are found, unless the statement is refused. -/
lemma exists_candidates_eq_ok (svc : Service σ) (hread : .readContexts ∉ w.store.refused)
    (tenant : String) (found : SearchResponse) :
    ∃ cs, perform (svc.candidates tenant found) w = (.ok cs, w) := by
  have hload : perform (Store.loadContexts tenant (found.hits.flatMap FusedHit.chunks)) w.store =
      (.ok (w.store.contextsOf tenant (found.hits.flatMap FusedHit.chunks)), w.store) :=
    Store.perform_reading_eq_ok.mpr ⟨hread, rfl, rfl⟩
  unfold candidates
  rw [perform_bind_of_ok (perform_store_of_ok_same hload)]
  exact ⟨_, rfl⟩

/-- Candidates are redacted if every text is answered. -/
lemma exists_redacted_eq_ok {cs : List Candidate}
    (h : svc.config.security.redactPii → ∃ answers,
      svc.redact (cs.map Candidate.redactionItem) w.outside = .ok answers ∧
        ∀ c ∈ cs, ∃ answer ∈ answers, answer.key = c.chunk) :
    ∃ shown, perform (svc.redacted cs) w = (.ok shown, w) := by
  unfold redacted
  split
  · rename_i hredact
    obtain ⟨answers, hanswers, hall⟩ := h (Bool.and_eq_true_iff.mp hredact).1
    obtain ⟨shown, hshown⟩ := Candidate.exists_withRedactions_eq hall
    refine ⟨shown, ?_⟩
    rw [perform_bind, perform_ask, hanswers]
    dsimp only
    rw [hshown]
    rfl
  · exact ⟨cs, rfl⟩

/-- As many days as a signed number of 64 bits has seconds are a span of time, and no more. -/
lemma isSome_spanOfDays?_iff (days : Int) : (EvidencePack.spanOfDays? days).isSome ↔
    -106751991167300 ≤ days ∧ days ≤ 106751991167300 := by
  have hbound : twoTo 63 = 9223372036854775808 := rfl
  unfold EvidencePack.spanOfDays?
  rw [Option.isSome_ite, hbound]
  omega

/-- The age from which sources count as stale is there if it is a span of time. -/
lemma perform_staleAfter (hspan : (EvidencePack.spanOfDays? svc.config.evidence.staleAfterDays).isSome)
    (w : World σ) :
    perform svc.staleAfter w =
      (.ok (svc.config.evidence.staleAfterDays * EvidencePack.perDay), w) := by
  obtain ⟨after, hafter⟩ := Option.isSome_iff_exists.mp hspan
  have hdone : perform svc.staleAfter w = (.ok after, w) := by
    unfold staleAfter
    rw [hafter]
    rfl
  rw [hdone, (staleAfter_eq_ok hdone).1]

/-- The candidates of a search are shown when nobody fails the pack. -/
lemma Serves.exists_shown_eq_ok (h : svc.Serves req w.store w.drawn w.outside)
    (found : SearchResponse) : ∃ cs filter shown,
      perform (svc.candidates req.principal.tenant found) w = (.ok cs, w) ∧
      perform (Action.ask fun o => (svc.permissions req.principal o, o)) w = (.ok filter, w) ∧
      perform (svc.redacted (Candidate.permittedPass filter cs).kept) w = (.ok shown, w) := by
  obtain ⟨filter, hfilter⟩ := h.permits
  obtain ⟨cs, hcs⟩ := svc.exists_candidates_eq_ok (h.statements .readContexts (by simp))
    req.principal.tenant found
  have hask : perform (Action.ask fun o => (svc.permissions req.principal o, o)) w =
      (.ok filter, w) := by
    rw [perform_ask, hfilter]
  obtain ⟨shown, hshown⟩ : ∃ shown,
      perform (svc.redacted (Candidate.permittedPass filter cs).kept) w = (.ok shown, w) := by
    refine exists_redacted_eq_ok fun hredact => ?_
    obtain ⟨answers, hanswers, hall⟩ := h.redacts hredact
      ((Candidate.permittedPass filter cs).kept.map Candidate.redactionItem)
    exact ⟨answers, hanswers, fun c hc => hall _ (List.mem_map_of_mem hc)⟩
  exact ⟨cs, filter, shown, hcs, hask, hshown⟩

/-- The sources of some candidates are named by the identifiers that come next. -/
lemma perform_sourcesOf (cs : List Candidate) (w : World σ) :
    perform (svc.sourcesOf cs) w =
      (.ok (cs.mapIdx fun i c => ⟨svc.fresh (w.drawn + i), c⟩),
        { w with drawn := w.drawn + cs.length }) := by
  induction cs generalizing w with
  | nil => rfl
  | cons c rest ih =>
    unfold sourcesOf
    rw [perform_bind_of_ok (perform_draw svc.fresh w), perform_bind_of_ok (ih _), List.mapIdx_cons,
      List.length_cons]
    show (Except.ok _, _) = _
    simp only [Nat.add_zero, Nat.add_assoc, Nat.add_comm 1]

/-- The identifiers of sources that are named one after the other. -/
lemma map_id_mapIdx (name : Nat → Id) (cs : List Candidate) :
    (cs.mapIdx fun i c => (⟨name i, c⟩ : Source)).map Source.id = (List.range cs.length).map name := by
  refine List.ext_getElem (by simp) fun i hi _ => ?_
  rw [List.getElem_map, List.getElem_mapIdx, List.getElem_map, List.getElem_range]

/-- A pack is put together when the search that it rests on succeeds and nobody fails it, provided
that sources count as stale from an age on that is a span of time. -/
lemma exists_assemble_eq_ok {found : SearchResponse} {u : World σ}
    (hfound : perform (svc.hybridSearch req.principal.tenant req.query
      (max svc.config.evidence.candidateK (svc.sourceLimit req))) { w with drawn := w.drawn + 1 } =
        (.ok found, u))
    (hserves : svc.Serves req u.store u.drawn u.outside) (hs : u.store.Keyed)
    (hspan : (EvidencePack.spanOfDays? svc.config.evidence.staleAfterDays).isSome) :
    ∃ pack n, perform (svc.assemble req) w = (.ok pack, { u with drawn := u.drawn + n }) ∧
      pack.degraded = found.degraded ∧
      pack.sources.map Source.id = (List.range n).map fun i => svc.fresh (u.drawn + i) := by
  obtain ⟨cs, filter, shown, hcs, hask, hshown⟩ := hserves.exists_shown_eq_ok found
  obtain ⟨vectors, hvectors⟩ := hs.exists_loadVectors_eq_ok req.principal.tenant
    (hserves.statements .readVectors (by simp)) ((shown.map (Candidate.marked w.now
      (svc.config.evidence.staleAfterDays * EvidencePack.perDay))).map Candidate.chunk)
  have hsearch : perform (svc.hybridSearch req.principal.tenant req.query
      (max svc.config.evidence.candidateK (req.limit.getD svc.config.evidence.topK)))
        { w with drawn := w.drawn + 1 } = (.ok found, u) := hfound
  unfold assemble
  rw [perform_bind_of_ok (perform_draw _ _), perform_bind_of_ok (perform_get _),
    perform_bind_of_ok hsearch, perform_bind_of_ok hcs, perform_bind_of_ok hask,
    perform_bind_of_ok hshown, perform_bind_of_ok (perform_staleAfter hspan u),
    perform_bind_of_ok (perform_store_of_ok_same hvectors),
    perform_bind_of_ok (perform_sourcesOf _ _)]
  exact ⟨_, _, rfl, rfl, map_id_mapIdx _ _⟩

/-- The scores of the sources of a pack that is put together are numbers. -/
lemma isNaN_of_mem_evidence {pack : EvidencePack} {a : Assembly svc req w}
    (ha : a.Makes pack) (hfusion : svc.config.search.rrfK < twoTo 32) {row : EvidenceEntry}
    (hrow : row ∈ pack.evidence) : row.score.isNaN = false := by
  obtain ⟨source, hsource, rfl⟩ := List.mem_map.mp hrow
  have hmarked := Assembly.mem_marked_of_mem_left (ha.mem_left_of_mem_sources hsource)
  have hscore : source.candidate.score.Unsigned := ha.unsigned_of_mem_marked hfusion hmarked
  show source.candidate.score.isNaN = false
  generalize source.candidate.score = score at hscore
  cases hscore <;> rfl

/-- The conditions of a pack still hold once more identifiers are drawn. -/
lemma Serves.later {s : Store} {drawn : Nat} {o : σ} (h : svc.Serves req s drawn o) (n : Nat) :
    svc.Serves req s (drawn + n) o :=
  { h with
    evidence := fun m hm => h.evidence m ((Nat.le_add_right _ _).trans hm)
    audits := fun m hm => h.audits m ((Nat.le_add_right _ _).trans hm) }

/-- The evidence of sources that are named by the next identifiers can be put on record. -/
lemma Serves.addEvidence_eq_append {s : Store} {drawn n : Nat} {o : σ} {pack : EvidencePack}
    (h : svc.Serves req s drawn o)
    (hids : pack.sources.map Source.id = (List.range n).map fun i => svc.fresh (drawn + i))
    (hscores : ∀ row ∈ pack.evidence, row.score.isNaN = false) :
    Store.addEvidence s.evidence pack.evidence = .ok (s.evidence ++ pack.evidence) := by
  have hrows : pack.evidence.map EvidenceEntry.id =
      (List.range n).map fun i => svc.fresh (drawn + i) := by
    rw [← hids]
    unfold EvidencePack.evidence
    rw [List.map_map]
    rfl
  refine Store.addEvidence_eq_append hscores ?_ fun row hrow other hother => ?_
  · rw [hrows]
    exact List.nodup_range.map fun i j hij => Nat.add_left_cancel (h.distinct hij)
  · have hid : row.id ∈ pack.evidence.map EvidenceEntry.id := List.mem_map_of_mem hrow
    rw [hrows] at hid
    obtain ⟨i, -, hi⟩ := List.mem_map.mp hid
    rw [← hi]
    exact h.evidence _ (Nat.le_add_right _ _) other hother

/-- A pack whose evidence can be put on record is handed over. -/
lemma exists_handOver_eq_ok {pack : EvidencePack}
    (hserves : svc.Serves req w.store w.drawn w.outside)
    (hadd : Store.addEvidence w.store.evidence pack.evidence =
      .ok (w.store.evidence ++ pack.evidence)) :
    ∃ w', perform (svc.handOver req pack) w = (.ok pack, w') := by
  have hevidence := Store.perform_insertEvidence (s := w.store)
    (hserves.statements .insertEvidence (by simp)) hadd
  obtain ⟨t, haudit⟩ := Store.exists_insertAudit_eq_ok
    (s := { w.store with evidence := w.store.evidence ++ pack.evidence })
    (pack.auditEvent (svc.fresh w.drawn) req w.now) (hserves.statements .insertAudit (by simp))
    (hserves.audits _ (Nat.le_refl _))
  obtain ⟨w', hrecord⟩ : ∃ w', perform (svc.record (pack.auditEvent (svc.fresh w.drawn) req w.now))
      { w with
        store := { w.store with evidence := w.store.evidence ++ pack.evidence }
        drawn := w.drawn + 1 } = (.ok (), w') := by
    unfold record
    rw [perform_bind, perform_ask, hserves.accepts]
    exact ⟨_, perform_store_of_ok haudit⟩
  refine ⟨w', ?_⟩
  unfold handOver
  rw [perform_bind_of_ok (perform_store_of_ok hevidence), perform_bind_of_ok (perform_draw _ _),
    perform_bind_of_ok (perform_get _), perform_bind_of_ok hrecord]
  rfl

/-- A pack for a tenant is built when the search that it rests on succeeds and nobody fails it,
provided that sources count as stale from an age on that is a span of time. -/
theorem exists_pack_eq_ok {found : SearchResponse} {u : World σ}
    (htenant : Text.isBlankText req.principal.tenant = false)
    (hfusion : svc.config.search.rrfK < twoTo 32)
    (hfound : perform (svc.hybridSearch req.principal.tenant req.query
      (max svc.config.evidence.candidateK (svc.sourceLimit req))) { w with drawn := w.drawn + 1 } =
        (.ok found, u))
    (hserves : svc.Serves req u.store u.drawn u.outside) (hs : u.store.Keyed)
    (hspan : (EvidencePack.spanOfDays? svc.config.evidence.staleAfterDays).isSome) :
    ∃ pack w', perform (svc.pack req) w = (.ok pack, w') ∧ pack.degraded = found.degraded ∧
      ∀ source ∈ pack.sources, ∃ hit ∈ found.hits, source.candidate.method = hit.method := by
  obtain ⟨pack, n, hassemble, hdegraded, hids⟩ := exists_assemble_eq_ok hfound hserves hs hspan
  obtain ⟨a, ha, -⟩ := assemble_eq_ok hassemble
  have hadd := hserves.addEvidence_eq_append hids fun row => isNaN_of_mem_evidence ha hfusion
  obtain ⟨w', hhanded⟩ := exists_handOver_eq_ok (w := { u with drawn := u.drawn + n })
    (hserves.later n) hadd
  refine ⟨pack, w', ?_, hdegraded, fun source hsource => ?_⟩
  · rw [pack_eq htenant, perform_bind_of_ok hassemble, hhanded]
  · -- the pack rests on the search that is given
    obtain ⟨hhits, -⟩ := Prod.mk.inj (ha.search.symm.trans hfound)
    have hhits : a.found = found := Except.ok.inj hhits
    have hmarked := Assembly.mem_marked_of_mem_left (ha.mem_left_of_mem_sources hsource)
    obtain ⟨hit, hhit, -, hmethod⟩ := ha.exists_hit hmarked
    rw [hhits] at hhit
    exact ⟨hit, hhit, hmethod⟩

/-- Otherwise the pack is broken off, and nothing of it is put on record. -/
theorem exists_pack_eq_overflow {found : SearchResponse} {u : World σ}
    (htenant : Text.isBlankText req.principal.tenant = false)
    (hfound : perform (svc.hybridSearch req.principal.tenant req.query
      (max svc.config.evidence.candidateK (svc.sourceLimit req))) { w with drawn := w.drawn + 1 } =
        (.ok found, u))
    (hserves : svc.Serves req u.store u.drawn u.outside)
    (hspan : EvidencePack.spanOfDays? svc.config.evidence.staleAfterDays = none) :
    perform (svc.pack req) w = (.error .overflow, u) := by
  obtain ⟨cs, filter, shown, hcs, hask, hshown⟩ := hserves.exists_shown_eq_ok found
  have hbroken : perform svc.staleAfter u = (.error .overflow, u) := by
    unfold staleAfter
    rw [hspan]
    rfl
  have hassemble : perform (svc.assemble req) w = (.error .overflow, u) := by
    unfold assemble
    rw [perform_bind_of_ok (perform_draw _ _), perform_bind_of_ok (perform_get _)]
    unfold sourceLimit at hfound
    dsimp only
    rw [perform_bind_of_ok hfound, perform_bind_of_ok hcs, perform_bind_of_ok hask,
      perform_bind_of_ok hshown, perform_bind_of_error hbroken]
  rw [pack_eq htenant, perform_bind_of_error hassemble]

end Service

end Dossier
