import Dossier.Proofs.Service.Refreshing

/-!
# Changes that are handled again

A change that was handled may be handled again.  A record that was refreshed is refreshed again with
the same text, in its place and under its name, and a record that was deleted is not found again
(`change_repeats`).  What is not kept are metadata with numbers that are read back as others.
-/

namespace Dossier

variable {σ : Type} {svc : Service σ} {w w' : World σ} {e : RecordChanged} {r : Record}
  {text : String × String}

/-! ### Records of entities -/

namespace Store

variable {chunking : Text.Chunking} {dimension : Nat} {s : Store} {tenant : String}
  {link : EntityLink}

/-- The live record of an entity is found. -/
lemma Sound.find?_linked (hs : s.Sound chunking dimension) (hr : r ∈ s.records)
    (hfor : r.isLiveFor tenant link) : s.records.find? (·.isLiveFor tenant link) = some r :=
  find?_eq_some_of_unique hr hfor fun other hother hotherFor => hs.keyed.record_eq hother hr
    (hs.records.linked other hother r hr tenant link hotherFor hfor)

/-- No live record of its entity is found behind the retirement of a record. -/
lemma Sound.find?_retired (hs : s.Sound chunking dimension) (hr : r ∈ s.records)
    (hfor : r.isLiveFor tenant link) (now : Instant) :
    (s.retired r now).records.find? (·.isLiveFor tenant link) = none := by
  refine List.find?_eq_none.mpr fun held hheld hheldFor => ?_
  obtain ⟨before, hbefore, rfl⟩ := List.mem_map.mp hheld
  change (burialOf r.tenant r.id now before).isLiveFor tenant link at hheldFor
  obtain ⟨hlive, htenant, hlink⟩ := Record.isLiveFor_iff.mp hheldFor
  have hbeforeFor : before.isLiveFor tenant link := by
    rw [burialOf_eq] at htenant hlink
    exact Record.isLiveFor_iff.mpr ⟨live_of_live_burialOf hlive, htenant, hlink⟩
  have hid := hs.records.linked before hbefore r hr tenant link hbeforeFor hfor
  rw [hs.keyed.record_eq hbefore hr hid] at hlive
  exact not_live_burialOf hlive

end Store

namespace World

/-- A later world over the same tables, in which no statement is refused. -/
structure Reopened (w later : World σ) : Prop where
  tables : Store.SameTables w.store later.store
  drawn : w.drawn ≤ later.drawn
  refused : later.store.refused = []

/-- A world that is left untouched behind a refresh is behind the refresh. -/
lemma Refreshed.of_untouched {u : World σ} (h : w.Refreshed svc r text w') (hsame : w'.Untouched u) :
    w.Refreshed svc r text u := by
  have hchunks : u.store.chunksOf r.id = w'.store.chunksOf r.id := by
    unfold Store.chunksOf
    rw [hsame.tables.chunks]
  refine ⟨?records, ?beside, ?extents, ?pending, ?new, ?vectors, ?indexes⟩
  case records => exact hsame.tables.records.trans h.records
  case beside =>
    rw [hsame.tables.chunks]
    exact h.beside
  case extents =>
    rw [hchunks]
    exact h.extents
  case pending =>
    rw [hchunks, hsame.tables.vectors]
    exact h.pending
  case new =>
    rw [hchunks]
    exact h.new
  case vectors => exact hsame.tables.vectors.trans h.vectors
  case indexes =>
    rw [hsame.memory]
    exact h.indexes

/-- The record that was refreshed is in the store behind the refresh. -/
lemma Refreshed.mem (h : w.Refreshed svc r text w') (hr : r ∈ w.store.records) :
    r.refreshed text w.now ∈ w'.store.records := by
  rw [h.records]
  exact List.mem_map.mpr ⟨r, hr, if_pos rfl⟩

end World

namespace Service

variable {outcome : ChangeOutcome}

/-! ### Changes of linked records -/

/-- What is done about a change of the entity that a record is about. -/
def follow (svc : Service σ) (e : RecordChanged) (r : Record) : Action σ ChangeOutcome :=
  match e.op with
  | .created | .updated => svc.refresh e r
  | .deleted => retire r

/-- A change whose record can be looked up comes to what is done about the record, if there is
one. -/
lemma perform_applyChange (hopen : .findLinked ∉ w.store.refused) :
    perform (svc.applyChange e) w =
      match w.store.records.find? (·.isLiveFor e.tenant e.link) with
      | none => (.ok .noop, w)
      | some r => perform (svc.follow e r) w := by
  have hfind : perform (Store.findLinked e.tenant e.link) w.store =
      (.ok (w.store.records.find? (·.isLiveFor e.tenant e.link)), w.store) :=
    Store.perform_reading_eq_ok.mpr ⟨hopen, rfl, rfl⟩
  unfold applyChange
  rw [perform_bind_of_ok (perform_store_of_ok_same hfind)]
  cases w.store.records.find? (·.isLiveFor e.tenant e.link) with
  | none => rfl
  | some r =>
    unfold follow
    cases e.op <;> rfl

/-- A change that succeeds could look its record up. -/
lemma not_refused_of_applyChange (h : perform (svc.applyChange e) w = (.ok outcome, w')) :
    .findLinked ∉ w.store.refused := by
  unfold applyChange at h
  obtain ⟨found, u, hfind, -⟩ := perform_bind_eq_ok.mp h
  obtain ⟨t, hwork, -⟩ := perform_store_eq_ok.mp hfind
  exact (Store.perform_reading_eq_ok.mp hwork).1

/-- A retirement that succeeds has deleted the record. -/
lemma retire_eq_ok (h : perform (retire r) w = (.ok outcome, w')) :
    outcome = .deleted r.id ∧ w'.store = w.store.retired r w.now := by
  unfold retire at h
  rw [perform_bind_of_ok (perform_get w)] at h
  obtain ⟨gone, u, hgone, hrest⟩ := perform_bind_eq_ok.mp h
  obtain ⟨t, hwork, rfl⟩ := perform_store_eq_ok.mp hgone
  obtain ⟨-, rfl⟩ := Store.retireWork_eq_ok hwork
  cases hrest
  exact ⟨rfl, rfl⟩

/-- A change whose audit is accepted comes to its attempt, and nothing is touched any more. -/
lemma AcceptsAudit.exists_handled (haccepts : svc.AcceptsAudit e w)
    (h : perform (svc.applyChange e) w = (.ok outcome, w')) :
    ∃ u, perform (svc.handleChange e) w = (.ok outcome, u) ∧ w'.Untouched u := by
  have houtcome := haccepts.handled
  have huntouched := svc.untouched_audit e w
  rw [stateAfter_eq h] at huntouched
  rw [h] at houtcome
  exact ⟨stateAfter (svc.handleChange e) w, Prod.ext houtcome rfl, huntouched⟩

/-- A change that succeeds comes to an attempt that succeeded, and nothing is touched any more. -/
lemma exists_attempt_of_handled (h : perform (svc.handleChange e) w = (.ok outcome, w')) :
    ∃ u, perform (svc.applyChange e) w = (.ok outcome, u) ∧ u.Untouched w' := by
  have hattempt : (perform (svc.applyChange e) w).1 = .ok outcome :=
    attempt_of_handled (congrArg Prod.fst h)
  have huntouched := svc.untouched_audit e w
  rw [stateAfter_eq h] at huntouched
  exact ⟨stateAfter (svc.applyChange e) w, Prod.ext hattempt rfl, huntouched⟩

/-- A change that leaves the entity in being is followed by a refresh. -/
lemma follow_eq_refresh (hop : e.op ≠ .deleted) (r : Record) : svc.follow e r = svc.refresh e r := by
  unfold follow
  cases hkind : e.op with
  | created => rfl
  | updated => rfl
  | deleted => exact absurd hkind hop

/-- A change of the entity of a live record that succeeds has followed it, and nothing is touched
any more. -/
lemma exists_follow_of_handled
    (hlive : w.store.records.find? (·.isLiveFor e.tenant e.link) = some r)
    (h : perform (svc.handleChange e) w = (.ok outcome, w')) :
    ∃ u, perform (svc.follow e r) w = (.ok outcome, u) ∧ u.Untouched w' := by
  obtain ⟨u, hattempt, hbehind⟩ := exists_attempt_of_handled h
  rw [perform_applyChange (not_refused_of_applyChange hattempt), hlive] at hattempt
  exact ⟨u, hattempt, hbehind⟩

/-- A change that can be followed is handled, if its audit is accepted and no statement is
refused. -/
lemma AcceptsAudit.exists_handled_of_follow (haccepts : svc.AcceptsAudit e w)
    (hopen : w.store.refused = [])
    (hlive : w.store.records.find? (·.isLiveFor e.tenant e.link) = some r)
    (h : perform (svc.follow e r) w = (.ok outcome, w')) :
    ∃ u, perform (svc.handleChange e) w = (.ok outcome, u) ∧ w'.Untouched u := by
  refine haccepts.exists_handled ?_
  rw [perform_applyChange (hopen ▸ List.not_mem_nil), hlive]
  exact h

/-- A change of an entity without a live record touches nothing. -/
lemma AcceptsAudit.exists_noop (haccepts : svc.AcceptsAudit e w) (hopen : w.store.refused = [])
    (hgone : w.store.records.find? (·.isLiveFor e.tenant e.link) = none) :
    ∃ u, perform (svc.handleChange e) w = (.ok .noop, u) ∧ w.Untouched u := by
  refine haccepts.exists_handled ?_
  rw [perform_applyChange (hopen ▸ List.not_mem_nil), hgone]

/-- A refresh succeeds again with the same text, if the entity has the same state. -/
lemma exists_refresh_again (hfresh : Function.Injective svc.fresh) (hs : w.Settled svc)
    {now : Instant} {o : σ}
    (hr : w.store.records.find? (·.isLiveFor e.tenant e.link) = some (r.refreshed text now))
    (hopen : w.store.refused = []) (hstate : svc.stateFor e w.outside = svc.stateFor e o)
    (htext : (svc.stateFor e o).bind (svc.textOf e.link r) = .ok text)
    (hdraft : ∃ d, (refreshRequest e.link r text).draft svc.config.chunking = .ok d) :
    ∃ u, perform (svc.refresh e (r.refreshed text now)) w =
        (.ok (.refreshed r.id (Text.chunks svc.cutting text.2.toList).length), u) ∧
      w.Refreshed svc (r.refreshed text now) text u := by
  have hagain : (svc.stateFor e w.outside).bind (svc.textOf e.link (r.refreshed text now)) =
      .ok text := by
    rw [hstate]
    rcases hsource : svc.stateFor e o with cause | state
    · rw [hsource] at htext
      cases htext
    · rw [hsource] at htext
      exact textOf_refreshed now htext
  obtain ⟨d, hd⟩ := hdraft
  obtain ⟨outcome, u, h⟩ :=
    exists_refresh_eq_ok hfresh hs hr hopen hagain (exists_draft_refreshed now hd)
  obtain ⟨text', htext', -, houtcome, hrefreshed⟩ := refreshed_of_refresh hfresh hs hr h
  obtain rfl : text' = text := Except.ok.inj (htext'.symm.trans hagain)
  rw [houtcome] at h
  exact ⟨u, h, hrefreshed⟩

end Service

/-! ### Changes -/

/-- In every world that a service reaches from an empty store, a change of the entity of a live
record that succeeds succeeds again, over the same tables, while no statement and no audit is
refused.  If the entity was deleted, so is the record, and the second change finds none and touches
nothing.  Otherwise the record is refreshed, and refreshed again when the entity has the same state:
both times it is the same record with the same text and the same chunks but for their identifiers,
and both times nothing else of the record changes except for its metadata, which are the same
exactly when they are read back as they are. -/
theorem change_repeats (hq : svc.Quiet) (hfresh : Function.Injective svc.fresh)
    (hw : Reachable svc w) (hr : r ∈ w.store.records) (hfor : r.isLiveFor e.tenant e.link)
    {outcome : ChangeOutcome} (h : perform (svc.handleChange e) w = (.ok outcome, w')) :
    (e.op = .deleted → outcome = .deleted r.id ∧
      ∀ later, w'.Reopened later → svc.AcceptsAudit e later →
        ∃ u, perform (svc.handleChange e) later = (.ok .noop, u) ∧ later.Untouched u) ∧
    (e.op ≠ .deleted → ∃ text,
      let n := (Text.chunks svc.cutting text.2.toList).length
      outcome = .refreshed r.id n ∧ w.Refreshed svc r text w' ∧
        (∀ r' ∈ w'.store.records, r'.id = r.id →
          (r'.content.metadata = r.content.metadata ↔
            r.content.metadata.reread = r.content.metadata)) ∧
        ∀ later, w'.Reopened later → svc.stateFor e later.outside = svc.stateFor e w.outside →
          svc.AcceptsAudit e later →
            ∃ u, perform (svc.handleChange e) later = (.ok (.refreshed r.id n), u) ∧
              later.Refreshed svc (r.refreshed text w.now) text u) := by
  have hsettled := hw.settled hq
  have hfind := hsettled.sound.find?_linked hr hfor
  have hw' : Reachable svc w' := by
    rw [← stateAfter_eq h]
    exact hw.run (.single (.operation (.handleChange e)))
  have hsettled' := hw'.settled hq
  obtain ⟨v, hfollow, hbehind⟩ := Service.exists_follow_of_handled hfind h
  constructor
  · intro hop
    unfold Service.follow at hfollow
    rw [hop] at hfollow
    obtain ⟨houtcome, hstore⟩ := Service.retire_eq_ok hfollow
    refine ⟨houtcome, fun later hlater haccepts => haccepts.exists_noop hlater.refused ?_⟩
    rw [hlater.tables.records, hbehind.tables.records, hstore]
    exact hsettled.sound.find?_retired hr hfor w.now
  · intro hop
    rw [Service.follow_eq_refresh hop] at hfollow
    obtain ⟨text, htext, hdraft, houtcome, hrefreshed⟩ :=
      Service.refreshed_of_refresh hfresh hsettled hfind hfollow
    have hrefreshed' := hrefreshed.of_untouched hbehind
    refine ⟨text, houtcome, hrefreshed', ?metadata, ?again⟩
    case metadata =>
      intro r' hr' hid
      rw [hsettled'.sound.keyed.record_eq hr' (hrefreshed'.mem hr) hid]
      rfl
    case again =>
      intro later hlater hstate haccepts
      have hlive : later.store.records.find? (·.isLiveFor e.tenant e.link) =
          some (r.refreshed text w.now) := by
        rw [hlater.tables.records]
        exact hsettled'.sound.find?_linked (hrefreshed'.mem hr) hfor
      obtain ⟨u, hagain, hsame⟩ := Service.exists_refresh_again hfresh
        (hsettled'.of_sameTables hlater.tables hlater.drawn) hlive hlater.refused hstate htext hdraft
      rw [← Service.follow_eq_refresh hop] at hagain
      obtain ⟨u', hhandled, huntouched⟩ :=
        haccepts.exists_handled_of_follow hlater.refused hlive hagain
      exact ⟨u', hhandled, hsame.of_untouched huntouched⟩

/-- The world of a service on its own that has embedded a note about an account. -/
def Service.embeddedNote : World Unit :=
  standaloneAfter [.ingest (.sampleNote "acme" "Call" "Renewal is due."), .embedRecord "acme" ⟨0⟩]

/-- An embedded note that is refreshed when its account has changed, and refreshed again a moment
later. -/
theorem change_repeats_embeddedNote :
    let svc := Service.standalone .small
    let w := Service.embeddedNote
    let w' := stateAfter (svc.handleChange .sample) w
    let later := { w' with now := ⟨1⟩ }
    svc.Quiet ∧ Function.Injective svc.fresh ∧ Reachable svc w ∧ w.store.vectors.length = 1 ∧
      w'.Reopened later ∧ svc.AcceptsAudit .sample later ∧
      ∃ r ∈ w.store.records, r.isLiveFor "acme" ⟨"account", "a1"⟩ ∧ ∃ text u,
        let n := (Text.chunks svc.cutting text.2.toList).length
        perform (svc.handleChange .sample) w = (.ok (.refreshed r.id n), w') ∧
          w.Refreshed svc r text w' ∧
          perform (svc.handleChange .sample) later = (.ok (.refreshed r.id n), u) ∧
          later.Refreshed svc (r.refreshed text w.now) text u := by
  intro svc w w' later
  have hq : svc.Quiet := Service.quiet_standalone .small
  have hfresh : Function.Injective svc.fresh := fun m n hmn => Id.mk.inj hmn
  have hw : Reachable svc w := Service.reachable_standaloneAfter _
  have hlater : w'.Reopened later := by
    refine ⟨.refl _, Nat.le_refl _, ?_⟩
    decide +kernel
  have haccepts : svc.AcceptsAudit .sample later := by
    have hok : (perform (svc.record (svc.toldOf .sample later))
        (svc.beforeAudit .sample later)).1.isOk := by
      decide +kernel
    unfold Service.AcceptsAudit
    revert hok
    rcases (perform (svc.record (svc.toldOf .sample later)) (svc.beforeAudit .sample later)).1 with
      cause | ⟨⟩
    · exact fun h => nomatch h
    · exact fun _ => rfl
  obtain ⟨r, hrecords⟩ := List.length_eq_one_iff.mp
    (show w.store.records.length = 1 by decide +kernel)
  have hr : r ∈ w.store.records := hrecords ▸ List.mem_singleton_self r
  have hfor : r.isLiveFor "acme" ⟨"account", "a1"⟩ = true := by
    have hall : w.store.records.all (·.isLiveFor "acme" ⟨"account", "a1"⟩) = true := by
      decide +kernel
    exact List.all_eq_true.mp hall r hr
  have hok : (perform (svc.handleChange .sample) w).1.isOk := by decide +kernel
  rcases h : perform (svc.handleChange .sample) w with ⟨cause | outcome, u⟩
  · rw [h] at hok
    cases hok
  · obtain rfl : w' = u := stateAfter_eq h
    obtain ⟨-, hrefreshes⟩ := change_repeats hq hfresh hw hr hfor h
    obtain ⟨text, rfl, hrefreshed, -, hagain⟩ := hrefreshes (by decide)
    obtain ⟨u, hhandled, hsame⟩ := hagain later hlater rfl haccepts
    exact ⟨hq, hfresh, hw, by decide +kernel, hlater, haccepts, r, hr, hfor, text, u, rfl,
      hrefreshed, hhandled, hsame⟩

/-- A note about an account, with a rate. -/
def IngestRequest.rated : IngestRequest :=
  { sampleNote "acme" "Call" "Renewal is due." with
    metadata := Json.parse "\x7b\"rate\":1e-24\x7d" }

/-- The metadata of the records in a world as texts. -/
def World.metadata (w : World σ) : List String :=
  w.store.records.map fun r => r.content.metadata.print

/-- A refresh that changes the metadata of its record. -/
theorem refresh_changes_metadata :
    let svc := Service.standalone .small
    let w := Service.standaloneAfter [.ingest .rated]
    Reachable svc w ∧
      (perform (svc.handleChange .sample) w).1.toOption = some (.refreshed ⟨0⟩ 1) ∧
      w.metadata = ["\x7b\"rate\":1e-24\x7d"] ∧
      (stateAfter (svc.handleChange .sample) w).metadata =
        ["\x7b\"rate\":1.0000000000000001e-24\x7d"] :=
  ⟨Service.reachable_standaloneAfter _, by decide +kernel, by decide +kernel, by decide +kernel⟩

end Dossier
