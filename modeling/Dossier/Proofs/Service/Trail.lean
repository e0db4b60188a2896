import Dossier.Proofs.Service.Isolation

/-!
# What failed packs leave on record

A pack puts its evidence on record before it is audited, with one statement for each.  Whatever
fails up to the first statement leaves the evidence as it was.  When the audit fails, however, the
evidence of the pack stays on record although the pack is never handed out
(`evidence_of_failed_pack`).
-/

namespace Dossier

variable {σ α : Type}

/-! ### Work that leaves the store as it is -/

namespace Store

/-- Reading leaves the store as it is. -/
lemma unchanged_reading (st : Statement) (read : Store → α) : Within Eq (reading st read) :=
  fun _ => (stateAfter_reading _ _ _).symm

/-- Loading vectors leaves the store as it is. -/
lemma unchanged_loadVectors (tenant : String) (ids : List Id) :
    Within Eq (loadVectors tenant ids) := by
  intro s
  rcases h : perform (loadVectors tenant ids) s with ⟨e | rows, t⟩
  · rw [stateAfter_eq h, perform_statement_error h]
  · rw [stateAfter_eq h, (loadVectors_eq_ok h).1]

/-- Looking ranked chunks up leaves the store as it is. -/
lemma unchanged_resolvePages (tenant : String) (enough : Nat) (found : List ChunkHit)
    (pages : List (List VectorIndex.Hit)) :
    Within Eq (Service.resolvePages tenant enough found pages) := by
  induction pages generalizing found with
  | nil => exact Within.pure _
  | cons page rest ih =>
    unfold Service.resolvePages
    refine Within.bind (unchanged_reading _ _) fun contexts => ?_
    dsimp only
    split
    · exact Within.pure _
    · exact ih _

/-- Evidence that is not put on record leaves the store as it is. -/
lemma insertEvidence_error {rows : List EvidenceEntry} {s t : Store} {e : StoreError}
    (h : perform (insertEvidence rows) s = (.error e, t)) : t = s := by
  unfold insertEvidence at h
  split at h
  · cases h
  · exact perform_statement_error h

end Store

/-! ### Operations that keep the evidence -/

/-- The same evidence is on record in two worlds. -/
def World.SameEvidence (w w' : World σ) : Prop := w'.store.evidence = w.store.evidence

namespace World.SameEvidence

instance : Std.Refl (@SameEvidence σ) := ⟨fun _ => rfl⟩

instance : IsTrans (World σ) SameEvidence := ⟨fun _ _ _ h h' => Eq.trans h' h⟩

/-- Work that leaves the store as it is keeps the evidence. -/
lemma of_unchanged {work : StoreAction α} (h : Within Eq work) :
    Within SameEvidence (Action.store work : Action σ α) := by
  intro w
  have hsame : w.store = stateAfter work w.store := h w.store
  exact congrArg Store.evidence hsame.symm

/-- Asking someone outside keeps the evidence. -/
lemma ask (question : σ → Except ServiceError α × σ) :
    Within SameEvidence (Action.ask question) := fun _ => rfl

/-- Drawing an identifier keeps the evidence. -/
lemma draw (fresh : Nat → Id) : Within SameEvidence (Action.draw fresh : Action σ Id) := fun _ => rfl

/-- A change to the memory of the process keeps the evidence. -/
lemma onMemory (change : Memory → Memory) :
    Within SameEvidence (Action.onMemory change : Action σ Unit) := fun _ => rfl

end World.SameEvidence

namespace Service

open World.SameEvidence

variable {svc : Service σ} {w w' : World σ} {req : PackRequest}

/-- Nobody else puts evidence on record while the embedding provider is called. -/
def Discreet (svc : Service σ) : Prop :=
  ∀ texts o s, ((svc.embed texts o).meanwhile s).evidence = s.evidence

/-- A search keeps the evidence. -/
lemma Discreet.sameEvidence_hybridSearch (hd : svc.Discreet) (tenant query : String) (limit : Nat) :
    Within World.SameEvidence (svc.hybridSearch tenant query limit) := by
  unfold hybridSearch
  split
  · exact Within.pure _
  · refine Within.bind Within.get fun w => ?_
    refine Within.bind ?_ fun _ => Within.pure _
    unfold vectorLeg
    refine Within.bind (fun w => hd [query] w.outside w.store) fun reply => ?_
    split
    · exact Within.pure _
    · exact Within.pure _
    · refine Within.bind ?_ fun _ => ?_
      · intro w
        rcases sync_cases w with ⟨e, h⟩ | ⟨rows, -, h⟩
        · rw [stateAfter_eq h]
          exact refl_of _ w
        · rw [stateAfter_eq h]
          exact onMemory (fun m => m.follow rows) w
      · refine Within.bind Within.get fun w => ?_
        split
        · exact Within.pure _
        · refine Within.bind (of_unchanged (Store.unchanged_resolvePages _ _ _ _)) fun _ => ?_
          exact Within.pure _

/-- Redacting candidates keeps the evidence. -/
lemma sameEvidence_redacted (cs : List Candidate) :
    Within World.SameEvidence (svc.redacted cs) := by
  unfold redacted
  split
  · refine Within.bind (ask _) fun items => ?_
    split
    · exact Within.pure _
    · exact Within.throw _
  · exact Within.pure _

/-- Drawing identifiers for sources keeps the evidence. -/
lemma sameEvidence_sourcesOf (cs : List Candidate) :
    Within World.SameEvidence (svc.sourcesOf cs) := by
  induction cs with
  | nil => exact Within.pure _
  | cons c rest ih =>
    unfold sourcesOf
    refine Within.bind (draw _) fun id => ?_
    exact Within.bind ih fun _ => Within.pure _

/-- Looking up the age from which sources count as stale keeps the evidence. -/
lemma sameEvidence_staleAfter : Within World.SameEvidence svc.staleAfter := by
  unfold staleAfter
  split
  · exact Within.pure _
  · exact Within.throw _

/-- Putting together a pack keeps the evidence, whether it succeeds or fails. -/
lemma Discreet.sameEvidence_assemble (hd : svc.Discreet) (req : PackRequest) :
    Within World.SameEvidence (svc.assemble req) := by
  unfold assemble
  refine Within.bind (draw _) fun id => ?_
  refine Within.bind Within.get fun w => ?_
  refine Within.bind (hd.sameEvidence_hybridSearch _ _ _) fun found => ?_
  refine Within.bind ?_ fun all => ?_
  · unfold candidates
    refine Within.bind (of_unchanged (Store.unchanged_reading _ _)) fun _ => Within.pure _
  · refine Within.bind (ask _) fun filter => ?_
    refine Within.bind (sameEvidence_redacted _) fun shown => ?_
    refine Within.bind sameEvidence_staleAfter fun after => ?_
    refine Within.bind (of_unchanged (Store.unchanged_loadVectors _ _)) fun vectors => ?_
    exact Within.bind (sameEvidence_sourcesOf _) fun _ => Within.pure _

/-- An audit keeps the evidence, whether it succeeds or fails. -/
lemma sameEvidence_record (event : AuditEvent) :
    Within World.SameEvidence (svc.record event) := by
  unfold record
  refine Within.bind (ask _) fun _ => ?_
  intro w
  show (stateAfter (Store.insertAudit event) w.store).evidence = w.store.evidence
  rcases h : perform (Store.insertAudit event) w.store with ⟨e | ⟨⟩, t⟩
  · rw [stateAfter_eq h, Store.perform_statement_error h]
  · rw [stateAfter_eq h, Store.insertAudit_eq_ok h]

/-! ### Failed packs -/

/-- A pack is put together for a request, and its evidence, of one source at least, goes on
record. -/
def Recorded (svc : Service σ) (req : PackRequest) (w : World σ) : Prop :=
  Text.isBlankText req.principal.tenant = false ∧ ∃ pack u s,
    perform (svc.assemble req) w = (.ok pack, u) ∧ pack.sources ≠ [] ∧
    perform (Store.insertEvidence pack.evidence) u.store = (.ok (), s)

/-- The evidence of a pack that was put together goes on record when it has a source and the
statement succeeds. -/
lemma recorded_iff (htenant : Text.isBlankText req.principal.tenant = false) {pack : EvidencePack}
    {u : World σ} (h : perform (svc.assemble req) w = (.ok pack, u)) :
    svc.Recorded req w ↔ pack.sources ≠ [] ∧
      ∃ s, perform (Store.insertEvidence pack.evidence) u.store = (.ok (), s) := by
  constructor
  · rintro ⟨-, pack', u', s, hpack, hsome, hrows⟩
    rw [h] at hpack
    cases hpack
    exact ⟨hsome, s, hrows⟩
  · rintro ⟨hsome, s, hrows⟩
    exact ⟨htenant, pack, u, s, h, hsome, hrows⟩

/-- A pack that cannot be handed over does not go on record, or goes on record and is not
audited. -/
lemma handOver_error {pack : EvidencePack} {e : ServiceError}
    (h : perform (svc.handOver req pack) w = (.error e, w')) :
    (∃ cause, (perform (Store.insertEvidence pack.evidence) w.store).1 = .error cause) ∧
        w'.store.evidence = w.store.evidence ∨
      ∃ s event v, perform (Store.insertEvidence pack.evidence) w.store = (.ok (), s) ∧
        perform (svc.record event) v = (.error e, w') ∧
        w'.store.evidence = w.store.evidence ++ pack.evidence := by
  unfold handOver at h
  rcases hrows : perform (Store.insertEvidence pack.evidence) w.store with ⟨cause | ⟨⟩, s⟩
  · rw [perform_bind_of_error (perform_store_of_error hrows)] at h
    cases h
    exact .inl ⟨⟨cause, rfl⟩, congrArg Store.evidence (Store.insertEvidence_error hrows)⟩
  · rw [perform_bind_of_ok (perform_store_of_ok hrows), perform_bind_of_ok (perform_draw _ _),
      perform_bind_of_ok (perform_get _)] at h
    rcases haudit : perform (svc.record (pack.auditEvent (svc.fresh w.drawn) req w.now))
        { w with store := s, drawn := w.drawn + 1 } with ⟨cause | ⟨⟩, v⟩
    · rw [perform_bind_of_error haudit] at h
      cases h
      have hkept := svc.sameEvidence_record (pack.auditEvent (svc.fresh w.drawn) req w.now)
        { w with store := s, drawn := w.drawn + 1 }
      rw [stateAfter_eq haudit] at hkept
      exact .inr ⟨s, _, _, rfl, haudit, Eq.trans hkept (Store.insertEvidence_eq_ok hrows)⟩
    · rw [perform_bind_of_ok haudit] at h
      cases h

/-- A pack that fails before it is handed over leaves the evidence as it was. -/
lemma Discreet.evidence_of_assemble_error (hd : svc.Discreet) {e : ServiceError}
    (h : perform (svc.assemble req) w = (.error e, w')) :
    ¬ svc.Recorded req w ∧ w'.store.evidence = w.store.evidence := by
  constructor
  · rintro ⟨-, pack, u, s, hpack, -⟩
    rw [h] at hpack
    cases hpack
  · have hkept := hd.sameEvidence_assemble req w
    rwa [stateAfter_eq h] at hkept

end Service

/-- When a pack fails, the evidence on record is what it was before, unless the pack was put
together with a source and its evidence went on record; in that case the audit is what failed, and
the evidence of the pack is on record behind what was there. -/
theorem evidence_of_failed_pack {svc : Service σ} (hd : svc.Discreet) {req : PackRequest}
    {w w' : World σ} {e : ServiceError} (h : perform (svc.pack req) w = (.error e, w')) :
    (w'.store.evidence = w.store.evidence ↔ ¬ svc.Recorded req w) ∧
      (svc.Recorded req w → ∃ pack u event v, perform (svc.assemble req) w = (.ok pack, u) ∧
        pack.sources ≠ [] ∧ perform (svc.record event) v = (.error e, w') ∧
        w'.store.evidence = w.store.evidence ++ pack.evidence) := by
  have hlost : ¬ svc.Recorded req w ∧ w'.store.evidence = w.store.evidence →
      (w'.store.evidence = w.store.evidence ↔ ¬ svc.Recorded req w) ∧
        (svc.Recorded req w → ∃ pack u event v, perform (svc.assemble req) w = (.ok pack, u) ∧
          pack.sources ≠ [] ∧ perform (svc.record event) v = (.error e, w') ∧
          w'.store.evidence = w.store.evidence ++ pack.evidence) :=
    fun ⟨hnot, hsame⟩ => ⟨⟨fun _ => hnot, fun _ => hsame⟩, fun hrecorded => absurd hrecorded hnot⟩
  rcases htenant : Text.isBlankText req.principal.tenant
  · rw [Service.pack_eq htenant] at h
    obtain ⟨r, u, hassemble⟩ : ∃ r u, perform (svc.assemble req) w = (r, u) := ⟨_, _, rfl⟩
    rcases r with cause | pack
    · rw [perform_bind_of_error hassemble] at h
      cases h
      exact hlost (hd.evidence_of_assemble_error hassemble)
    · rw [perform_bind_of_ok hassemble] at h
      have hkept : u.store.evidence = w.store.evidence := by
        have hkept := hd.sameEvidence_assemble req w
        rwa [stateAfter_eq hassemble] at hkept
      have hiff := Service.recorded_iff htenant hassemble
      rcases Service.handOver_error h with
        ⟨⟨cause, hrefused⟩, hsame⟩ | ⟨s, event, v, hrows, haudit, hevidence⟩
      · refine hlost ⟨fun hrecorded => ?_, hsame.trans hkept⟩
        obtain ⟨-, s, hrows⟩ := hiff.mp hrecorded
        rw [hrows] at hrefused
        cases hrefused
      · rw [hkept] at hevidence
        by_cases hnone : pack.sources = []
        · refine hlost ⟨fun hrecorded => (hiff.mp hrecorded).1 hnone, ?_⟩
          have hempty : pack.evidence = [] := by
            unfold EvidencePack.evidence
            rw [hnone, List.map_nil]
          rwa [hempty, List.append_nil] at hevidence
        · have hrecorded : svc.Recorded req w := hiff.mpr ⟨hnone, s, hrows⟩
          refine ⟨⟨fun hsame => ?_, fun hnot => absurd hrecorded hnot⟩,
            fun _ => ⟨pack, u, event, v, hassemble, hnone, haudit, hevidence⟩⟩
          rw [hsame, List.self_eq_append_right] at hevidence
          exact absurd (List.map_eq_nil_iff.mp hevidence) hnone
  · refine hlost ⟨fun hrecorded => Bool.noConfusion (hrecorded.1.symm.trans htenant), ?_⟩
    unfold Service.pack at h
    rw [htenant, if_pos rfl] at h
    cases h
    rfl

/-- The first world of a service that keeps a note. -/
def Service.oneMention (svc : Service Unit) : World Unit :=
  Operation.run svc (.start svc ⟨0⟩ ()) (.ingest (.sampleNote "acme" "Call" "Renewal is due."))

/-- A service on its own whose policy is down. -/
def Service.unruled : Service Unit :=
  { standalone .small with permissions := fun _ _ => .error (.policy (.reported "policy is down")) }

/-- A pack for which nobody says what may be shown: it is not on record. -/
theorem evidence_of_failed_pack_unruled :
    let svc := Service.unruled
    let w := svc.oneMention
    svc.Discreet ∧ Reachable svc w ∧ ∃ e w', perform (svc.pack .sample) w = (.error e, w') ∧
      (w'.store.evidence = w.store.evidence ↔ ¬ svc.Recorded .sample w) ∧
      (svc.Recorded .sample w → ∃ pack u event v, perform (svc.assemble .sample) w = (.ok pack, u) ∧
        pack.sources ≠ [] ∧ perform (svc.record event) v = (.error e, w') ∧
        w'.store.evidence = w.store.evidence ++ pack.evidence) ∧
      w'.store.evidence = w.store.evidence := by
  have hd : Service.unruled.Discreet := fun _ _ _ => rfl
  have hw : Reachable Service.unruled Service.unruled.oneMention :=
    ⟨⟨0⟩, (), .single (.operation _)⟩
  have hbefore : Service.unruled.oneMention.store.evidence = [] := by decide +kernel
  have hafter : (stateAfter (Service.unruled.pack .sample)
      Service.unruled.oneMention).store.evidence = [] := by
    decide +kernel
  have hfails : (perform (Service.unruled.pack .sample)
      Service.unruled.oneMention).1.toOption.isNone = true := by
    decide +kernel
  rcases h : perform (Service.unruled.pack .sample) Service.unruled.oneMention with ⟨e | pack, w'⟩
  · rw [stateAfter_eq h] at hafter
    obtain ⟨hiff, hrecorded⟩ := evidence_of_failed_pack hd h
    exact ⟨hd, hw, e, w', h, hiff, hrecorded, hafter.trans hbefore.symm⟩
  · rw [h] at hfails
    cases hfails

/-- A service on its own whose audit is down. -/
def Service.unaudited : Service Unit :=
  { standalone .small with audit := fun _ o => (.error (.policy (.reported "audit is down")), o) }

/-- A pack that cannot be audited fails, and its evidence stays on record. -/
theorem unaudited_pack_on_record :
    let svc := Service.unaudited
    let w := svc.oneMention
    Reachable svc w ∧ (perform (svc.pack .sample) w).1.toOption.isNone ∧
      w.store.evidence = [] ∧
      (stateAfter (svc.pack .sample) w).store.evidence.map (·.snippet) = [some "Renewal is due."] :=
  ⟨⟨⟨0⟩, (), .single (.operation _)⟩, by decide +kernel, by decide +kernel, by decide +kernel⟩

end Dossier
