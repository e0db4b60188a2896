import Dossier.Proofs.Service.Batches
import Dossier.Proofs.Service.Degraded
import Dossier.Proofs.Store.Backlog

/-!
# A pass over the backlog

A pass embeds one record after the other.  `Service.Pass` has one constructor for each way in which
it can go on: a record is embedded or fails, and the others follow, or the pass is stopped, before a
record or while its batch is under way.  What one record does to the world is `Service.Settles`,
which composes along a pass, so that the final store and the report can be read off the verdicts on
the records (`backlog_settles`).
-/

namespace Dossier

variable {σ : Type}

namespace Service

variable (svc : Service σ)

/-- A world in which batches can be embedded: the store is sound and refuses nothing, and the index
has the dimension of the service. -/
structure Fit (w : World σ) : Prop where
  keeps : svc.Keeps w.store
  accepts : w.store.refused = []
  dimension : w.memory.vectors.dimension = svc.dimension

/-- The operation was given up, or the last call to the provider said so. -/
def Stopped (w : World σ) : Prop :=
  w.cancelled = true ∨ ∃ texts o, w.outside = (svc.embed texts o).outside ∧
    (svc.embed texts o).outcome = .error .cancelled

/-- What it does to a world that batches end with some verdicts: their chunks are settled, no vector
is lost or changed, and no record comes or goes. -/
structure Settles (verdicts : List Verdict) (w w' : World σ) : Prop where
  fit : svc.Fit w'
  chunks : w'.store.chunks = w.store.chunks.map (Verdict.settle verdicts)
  records : w'.store.records.map (fun r => (r.id, r.tenant)) =
    w.store.records.map fun r => (r.id, r.tenant)
  vectors : w.store.vectors <+: w'.store.vectors

/-- How a pass over some records goes on from a world and a report: the verdicts, the outcome and
the world behind it. -/
inductive Pass : World σ → List Record → BacklogReport → List Verdict →
    Except ServiceError BacklogReport → World σ → Prop
  | done {w : World σ} {report : BacklogReport} : Pass w [] report [] (.ok report) w
  | stopped {w : World σ} {r : Record} {rest : List Record} {report : BacklogReport}
      (hcancelled : w.cancelled = true) : Pass w (r :: rest) report [] (.error .cancelled) w
  | cut {w w' : World σ} {r : Record} {rest : List Record} {report : BacklogReport}
      (hend : svc.Settles [⟨r, some .cancelled⟩] w w') (hstopped : svc.Stopped w') :
      Pass w (r :: rest) report [⟨r, some .cancelled⟩] (.error .cancelled) w'
  | embedded {w u w' : World σ} {r : Record} {rest : List Record} {report : BacklogReport} {n : Nat}
      {verdicts : List Verdict} {result : Except ServiceError BacklogReport}
      (hend : svc.Settles [⟨r, none⟩] w u)
      (hvectors : u.store.vectors.length = w.store.vectors.length + n)
      (hrest : Pass u rest { report with
        records := report.records + 1
        embeddedChunks := report.embeddedChunks + n } verdicts result w') :
      Pass w (r :: rest) report (⟨r, none⟩ :: verdicts) result w'
  | failed {w u w' : World σ} {r : Record} {rest : List Record} {report : BacklogReport}
      {e : ServiceError} {verdicts : List Verdict} {result : Except ServiceError BacklogReport}
      (he : e ≠ .cancelled) (hend : svc.Settles [⟨r, some e⟩] w u)
      (hvectors : u.store.vectors = w.store.vectors)
      (hrest : Pass u rest { report with
        records := report.records + 1
        failedRecords := report.failedRecords + 1 } verdicts result w') :
      Pass w (r :: rest) report (⟨r, some e⟩ :: verdicts) result w'

variable {svc} {w u w' : World σ} {r : Record} {v : Verdict} {verdicts : List Verdict}
  {targets : List Record} {report : BacklogReport} {result : Except ServiceError BacklogReport}

/-! ### One record -/

/-- Only a provider that says so itself replies that the operation was given up. -/
lemma eq_cancelled_of_checked {expected : Nat} {reply : Except ServiceError (List Vec)}
    (h : svc.checked expected reply = .error .cancelled) : reply = .error .cancelled := by
  rcases reply with e | vs
  · exact h
  · change (checkBatch svc.config.embedding.dimensions expected vs).mapError
      ServiceError.provider = .error .cancelled at h
    rcases hcheck : checkBatch svc.config.embedding.dimensions expected vs with fault | vs'
    · rw [hcheck] at h
      cases h
    · rw [hcheck] at h
      cases h

/-- A trial that comes to nothing because the operation was given up is stopped. -/
lemma Trial.stopped {texts : List String} {allowed n : Nat}
    (h : svc.Trial texts allowed w n (.error .cancelled)) :
    svc.Stopped (svc.afterCalls texts n w) := by
  cases h with
  | dropped hcancelled =>
    left
    change (w.cancelled || _) = true
    rw [hcancelled, Bool.true_or]
  | givenUp hn hgoing hnone hcancelled => exact .inl hcancelled
  | @exhausted n _ hn hgoing hnone he =>
    refine .inr ⟨texts, (svc.afterCalls texts n w).outside, ?_, ?_⟩
    · change ((svc.afterCall texts)^[n + 1] w).outside = _
      rw [Function.iterate_succ_apply']
      rfl
    · exact eq_cancelled_of_checked he

/-- Verdicts compose. -/
lemma Settles.cons (h : svc.Settles [v] w u) (h' : svc.Settles verdicts u w') :
    svc.Settles (v :: verdicts) w w' where
  fit := h'.fit
  chunks := by
    rw [h'.chunks, h.chunks, List.map_map]
    exact List.map_congr_left fun c _ => Verdict.settle_cons.symm
  records := h'.records.trans h.records
  vectors := h.vectors.trans h'.vectors

/-- Without verdicts a world stays as it is. -/
lemma Fit.settles_nil (h : svc.Fit w) : svc.Settles [] w w where
  fit := h
  chunks := by
    have hsame : Verdict.settle [] = id := funext fun c => Verdict.settle_nil
    rw [hsame, List.map_id]
  records := rfl
  vectors := List.prefix_rfl

/-- What batches do to a world depends on its store. -/
lemma Settles.of_store (h : svc.Settles verdicts u w') (hstore : u.store = w.store) :
    svc.Settles verdicts w w' := by
  obtain ⟨hfit, hchunks, hrecords, hvectors⟩ := h
  rw [hstore] at hchunks hrecords hvectors
  exact ⟨hfit, hchunks, hrecords, hvectors⟩

/-- A record waits on while the batch of another one ends. -/
lemma Settles.waits (h : svc.Settles [v] w u) (hwaits : w.store.Waits r)
    (hne : v.record.id ≠ r.id) : u.store.Waits r := by
  obtain ⟨⟨held, hheld, hid, htenant⟩, c, hc, hrecord, hstatus⟩ := hwaits
  refine ⟨?_, c, ?_, hrecord, hstatus⟩
  · have hmem : (held.id, held.tenant) ∈ u.store.records.map fun r => (r.id, r.tenant) := by
      rw [h.records]
      exact List.mem_map.mpr ⟨held, hheld, rfl⟩
    obtain ⟨held', hheld', heq⟩ := List.mem_map.mp hmem
    obtain ⟨hid', htenant'⟩ := Prod.mk.inj heq
    exact ⟨held', hheld', hid'.trans hid, htenant'.trans htenant⟩
  · have hsame : Verdict.settle [v] c = c := by
      simp [Verdict.settle, Verdict.on?, hrecord, hne]
    rw [h.chunks, ← hsame]
    exact List.mem_map_of_mem hc

/-- A batch that was given up is settled. -/
lemma settles_withBatchFailed (hs : w.store.Keyed) (hwaits : w.store.Waits r) {e : ServiceError}
    (hfit : svc.Fit (withBatchFailed w (w.store.pendingOf r.tenant r.id) e)) :
    svc.Settles [⟨r, some e⟩] w (withBatchFailed w (w.store.pendingOf r.tenant r.id) e) where
  fit := hfit
  chunks := hwaits.changeBatch_eq hs (some e)
  records := rfl
  vectors := List.prefix_rfl

/-- A batch that was embedded is settled. -/
lemma settles_withBatchEmbedded (hs : w.store.Keyed) (hwaits : w.store.Waits r) {vs : List Vec}
    (hfit : svc.Fit (svc.withBatchEmbedded w r.tenant r.id (w.store.pendingOf r.tenant r.id) vs)) :
    svc.Settles [⟨r, none⟩] w
      (svc.withBatchEmbedded w r.tenant r.id (w.store.pendingOf r.tenant r.id) vs) where
  fit := hfit
  chunks := hwaits.changeBatch_eq hs none
  records := by
    change (w.store.records.map (Store.noteOn r.id w.now)).map _ = _
    rw [List.map_map]
    refine List.map_congr_left fun held _ => ?_
    rw [Function.comp_apply, Store.noteOn_eq]
  vectors := List.prefix_append _ _

/-- Embedding a record that waits ends its batch with a verdict, whatever the provider does. -/
lemma Alone.settles_embedRecord (halone : svc.Alone) (hw : svc.Fit w) (hwaits : w.store.Waits r) :
    ∃ error u, svc.Settles [⟨r, error⟩] w u ∧ (error = some .cancelled → svc.Stopped u) ∧
      ((∃ n, error = none ∧ u.store.vectors.length = w.store.vectors.length + n ∧
          perform (svc.embedRecord r.tenant r.id) w = (.ok (.embedded n 0), u)) ∨
        ∃ e, error = some e ∧ u.store.vectors = w.store.vectors ∧
          perform (svc.embedRecord r.tenant r.id) w = (.error e, u)) := by
  have hs := hw.keeps.keyed
  obtain ⟨n, result, htrial, hperform⟩ :=
    halone.perform_embedRecord hs hw.accepts hw.dimension (hwaits.pendingOf_ne_nil hs)
  have hkeeps : svc.Keeps (stateAfter (svc.embedRecord r.tenant r.id) w).store :=
    (halone.quiet.movesOf_embedRecord r.tenant r.id w).moves.sound hw.keeps
  rw [stateAfter_eq hperform] at hkeeps
  -- The calls change neither the store nor the index, so the batch ends in a world like the first.
  obtain ⟨called, hcalled, hstore, hmemory⟩ : ∃ called, svc.afterCalls
      ((w.store.pendingOf r.tenant r.id).map (·.text)) n w = called ∧ called.store = w.store ∧
        called.memory = w.memory := by
    refine ⟨_, rfl, ?_, ?_⟩ <;> rw [afterCalls_eq]
  rw [hcalled] at hperform hkeeps
  rw [← hstore] at hwaits hs hperform hkeeps ⊢
  have haccepts : called.store.refused = [] := by rw [hstore, hw.accepts]
  rcases result with e | vs
  · have hfit : svc.Fit (withBatchFailed called (called.store.pendingOf r.tenant r.id) e) := by
      refine ⟨hkeeps, haccepts, ?_⟩
      change called.memory.vectors.dimension = _
      rw [hmemory, hw.dimension]
    refine ⟨some e, _, (settles_withBatchFailed hs hwaits hfit).of_store hstore, ?_,
      .inr ⟨e, rfl, rfl, hperform⟩⟩
    intro he
    cases he
    have hstopped := htrial.stopped
    rwa [hcalled] at hstopped
  · have hfit : svc.Fit (svc.withBatchEmbedded called r.tenant r.id
        (called.store.pendingOf r.tenant r.id) vs) := by
      refine ⟨hkeeps, haccepts, ?_⟩
      change (called.memory.vectors.putAll _).dimension = _
      rw [VectorIndex.dimension_putAll, hmemory, hw.dimension]
    have hlength : vs.length = (called.store.pendingOf r.tenant r.id).length := by
      rw [htrial.fits.1, List.length_map, hstore]
    refine ⟨none, _, (settles_withBatchEmbedded hs hwaits hfit).of_store hstore, nofun,
      .inl ⟨_, rfl, ?_, hperform⟩⟩
    change (called.store.vectors ++ called.store.rowsOf _ _ _).length = _
    rw [List.length_append, Store.rowsOf, List.length_mapIdx, List.length_zip, hlength, Nat.min_self]

/-! ### All records -/

/-- A pass settles its batches. -/
lemma Pass.settles (h : svc.Pass w targets report verdicts result w') (hw : svc.Fit w) :
    svc.Settles verdicts w w' := by
  induction h with
  | done => exact hw.settles_nil
  | stopped hcancelled => exact hw.settles_nil
  | cut hend hstopped => exact hend
  | embedded hend hvectors hrest ih => exact hend.cons (ih hend.fit)
  | failed he hend hvectors hrest ih => exact hend.cons (ih hend.fit)

/-- There are verdicts on the first of the records that a pass goes over. -/
lemma Pass.targets_eq (h : svc.Pass w targets report verdicts result w') :
    ∃ rest, targets = verdicts.map (·.record) ++ rest := by
  induction h with
  | done => exact ⟨[], rfl⟩
  | stopped hcancelled => exact ⟨_, rfl⟩
  | cut hend hstopped => exact ⟨_, rfl⟩
  | @embedded _ _ _ r _ _ _ _ _ hend hvectors hrest ih =>
    obtain ⟨rest, heq⟩ := ih
    exact ⟨rest, congrArg (r :: ·) heq⟩
  | @failed _ _ _ r _ _ _ _ _ he hend hvectors hrest ih =>
    obtain ⟨rest, heq⟩ := ih
    exact ⟨rest, congrArg (r :: ·) heq⟩

/-- A pass that comes to its end has a verdict on every record, counts these and those with an
error, and counts as many chunks as vectors were written. -/
lemma Pass.of_ok {report' : BacklogReport} (h : svc.Pass w targets report verdicts (.ok report') w') :
    targets = verdicts.map (·.record) ∧
      report'.requeuedFailed = report.requeuedFailed ∧
      report'.records = report.records + verdicts.length ∧
      report'.failedRecords = report.failedRecords + verdicts.countP (·.error.isSome) ∧
      w'.store.vectors.length + report.embeddedChunks =
        w.store.vectors.length + report'.embeddedChunks := by
  generalize hresult : Except.ok report' = result at h
  induction h with
  | done =>
    cases hresult
    exact ⟨rfl, rfl, rfl, rfl, rfl⟩
  | stopped hcancelled => cases hresult
  | cut hend hstopped => cases hresult
  | embedded hend hvectors hrest ih =>
    obtain ⟨htargets, hrequeued, hrecords, hfailed, hembedded⟩ := ih hresult
    refine ⟨congrArg (_ :: ·) htargets, hrequeued, ?_, ?_, ?_⟩
    · rw [hrecords, List.length_cons]
      dsimp only
      omega
    · rw [hfailed, List.countP_cons_of_neg (by simp)]
    · dsimp only at hembedded
      omega
  | failed he hend hvectors hrest ih =>
    obtain ⟨htargets, hrequeued, hrecords, hfailed, hembedded⟩ := ih hresult
    refine ⟨congrArg (_ :: ·) htargets, hrequeued, ?_, ?_, ?_⟩
    · rw [hrecords, List.length_cons]
      dsimp only
      omega
    · rw [hfailed, List.countP_cons_of_pos (by rfl)]
      dsimp only
      omega
    · rw [← hvectors]
      exact hembedded

/-- A pass that does not come to its end was stopped: only the last verdict can be that the
operation was given up. -/
lemma Pass.of_error {e : ServiceError} (h : svc.Pass w targets report verdicts (.error e) w') :
    e = .cancelled ∧ svc.Stopped w' ∧ ∃ ended cut, verdicts = ended ++ cut ∧ cut.length ≤ 1 ∧
      (∀ v ∈ ended, v.error ≠ some .cancelled) ∧ ∀ v ∈ cut, v.error = some .cancelled := by
  generalize hresult : Except.error e = result at h
  induction h with
  | done => cases hresult
  | stopped hcancelled =>
    cases hresult
    exact ⟨rfl, .inl hcancelled, [], [], rfl, Nat.zero_le _, List.forall_mem_nil _,
      List.forall_mem_nil _⟩
  | cut hend hstopped =>
    cases hresult
    refine ⟨rfl, hstopped, [], _, rfl, Nat.le_refl _, List.forall_mem_nil _, ?_⟩
    intro v hv
    rw [List.mem_singleton.mp hv]
  | embedded hend hvectors hrest ih =>
    obtain ⟨he, hstopped, ended, cut, heq, hfew, hended, hcut⟩ := ih hresult
    refine ⟨he, hstopped, _ :: ended, cut, congrArg (_ :: ·) heq, hfew, ?_, hcut⟩
    exact List.forall_mem_cons.mpr ⟨nofun, hended⟩
  | failed hne hend hvectors hrest ih =>
    obtain ⟨he, hstopped, ended, cut, heq, hfew, hended, hcut⟩ := ih hresult
    refine ⟨he, hstopped, _ :: ended, cut, congrArg (_ :: ·) heq, hfew, ?_, hcut⟩
    exact List.forall_mem_cons.mpr ⟨fun h => hne (Option.some.inj h), hended⟩

/-- What follows in a pass once a record was tried. -/
def embedNext (svc : Service σ) (report : BacklogReport) (rest : List Record) :
    Except ServiceError EmbedOutcome → Action σ BacklogReport
  | .ok .nothingPending => svc.embedEach report rest
  | .ok (.embedded n _) =>
    svc.embedEach { report with embeddedChunks := report.embeddedChunks + n } rest
  | .error .cancelled => throw .cancelled
  | .error _ => svc.embedEach { report with failedRecords := report.failedRecords + 1 } rest

/-- A pass that goes on tries the next record and then goes on with the others. -/
lemma perform_embedEach_cons (hgoing : w.cancelled = false)
    {outcome : Except ServiceError EmbedOutcome}
    (h : perform (svc.embedRecord r.tenant r.id) w = (outcome, u)) (report : BacklogReport)
    (rest : List Record) :
    perform (svc.embedEach report (r :: rest)) w =
      perform (svc.embedNext { report with records := report.records + 1 } rest outcome) u := by
  unfold embedEach
  rw [perform_bind_of_ok (perform_get w), hgoing]
  dsimp only
  rw [if_neg Bool.false_ne_true, perform_bind_of_ok (perform_outcome _ w), h]
  rcases outcome with e | _ | _
  · cases e <;> rfl
  · rfl
  · rfl

/-- Embedding records that wait, one after the other, is a pass over them. -/
lemma Alone.perform_embedEach (halone : svc.Alone) (hnodup : (targets.map (·.id)).Nodup)
    (hw : svc.Fit w) (hwaits : ∀ r ∈ targets, w.store.Waits r) (report : BacklogReport) :
    ∃ verdicts result w', svc.Pass w targets report verdicts result w' ∧
      perform (svc.embedEach report targets) w = (result, w') := by
  induction targets generalizing w report with
  | nil => exact ⟨[], .ok report, w, .done, rfl⟩
  | cons r rest ih =>
    obtain ⟨hfirst, hothers⟩ := List.nodup_cons.mp hnodup
    rcases hgoing : w.cancelled with _ | _
    · obtain ⟨error, u, hend, hstopped, hcases⟩ :=
        halone.settles_embedRecord hw (hwaits r List.mem_cons_self)
      have hwaits' : ∀ r' ∈ rest, u.store.Waits r' := by
        intro r' hr'
        refine hend.waits (hwaits r' (List.mem_cons_of_mem _ hr')) fun hid => hfirst ?_
        exact List.mem_map.mpr ⟨r', hr', hid.symm⟩
      rcases hcases with ⟨n, rfl, hvectors, hperform⟩ | ⟨e, rfl, hvectors, hperform⟩
      · obtain ⟨verdicts, result, w', hpass, hrest⟩ := ih hothers hend.fit hwaits' { report with
          records := report.records + 1
          embeddedChunks := report.embeddedChunks + n }
        refine ⟨_, result, w', .embedded hend hvectors hpass, ?_⟩
        rw [perform_embedEach_cons hgoing hperform, ← hrest]
        rfl
      · by_cases he : e = .cancelled
        · subst he
          refine ⟨_, .error .cancelled, u, .cut hend (hstopped rfl), ?_⟩
          rw [perform_embedEach_cons hgoing hperform]
          rfl
        · obtain ⟨verdicts, result, w', hpass, hrest⟩ := ih hothers hend.fit hwaits' { report with
            records := report.records + 1
            failedRecords := report.failedRecords + 1 }
          refine ⟨_, result, w', .failed he hend hvectors hpass, ?_⟩
          rw [perform_embedEach_cons hgoing hperform, ← hrest]
          cases e with
          | cancelled => exact absurd rfl he
          | _ => rfl
    · refine ⟨[], .error .cancelled, w, .stopped hgoing, ?_⟩
      unfold embedEach
      rw [perform_bind_of_ok (perform_get w), hgoing]
      rfl

/-- A pass over the backlog of a world makes failed chunks pending again and goes over the
backlog. -/
lemma Alone.perform_embedBacklog (halone : svc.Alone) (hw : svc.Fit w) :
    ∃ verdicts result w', svc.Pass { w with store := w.store.requeued } w.store.backlog
      { requeuedFailed := w.store.liveChunks.countP (·.chunk.status == .failed) } verdicts result w' ∧
        perform svc.embedBacklog w = (result, w') := by
  have hs := hw.keeps.keyed
  have hfit : svc.Fit { w with store := w.store.requeued } :=
    ⟨hw.keeps.changeChunks (Store.besideEmbedded_requeued _), hw.accepts, hw.dimension⟩
  obtain ⟨verdicts, result, w', hpass, hperform⟩ := halone.perform_embedEach hs.nodup_backlog hfit
    (fun r hr => hs.waits_requeued hr)
    { requeuedFailed := w.store.liveChunks.countP (·.chunk.status == .failed) }
  refine ⟨verdicts, result, w', hpass, ?_⟩
  have hrequeue : perform (Action.store Store.requeueFailed) w =
      (.ok (w.store.liveChunks.countP (·.chunk.status == .failed)),
        { w with store := w.store.requeued }) := by
    rw [← Store.countP_requeued]
    exact perform_store_of_ok (Store.perform_writing_of_accepted hw.accepts _)
  have hlist : perform (Action.store Store.listUnembedded) { w with store := w.store.requeued } =
      (.ok w.store.backlog, { w with store := w.store.requeued }) := by
    refine perform_store_of_ok_same (Store.perform_reading_eq_ok.mpr ⟨?_, hs.listed_requeued, rfl⟩)
    change .listUnembedded ∉ w.store.refused
    rw [hw.accepts]
    exact List.not_mem_nil
  unfold embedBacklog
  rw [perform_bind_of_ok hrequeue, perform_bind_of_ok hlist, hperform]

/-- In a fit world exactly the embedded chunks have vectors. -/
lemma Fit.embedded_iff (hw : svc.Fit w) {c : StoredChunk} (hc : c ∈ w.store.chunks) :
    c.status = .embedded ↔ ∃ v ∈ w.store.vectors, v.chunk = c.id := by
  constructor
  · intro hstatus
    obtain ⟨-, -, -, v, hv, hchunk, -⟩ := hw.keeps.vectors.covers c hc hstatus
    exact ⟨v, hv, hchunk⟩
  · rintro ⟨v, hv, hchunk⟩
    by_contra hstatus
    exact hw.keeps.keyed.not_vector_of_not_embedded hc hstatus v hv hchunk

end Service

/-- A report that tells what happened between two stores: how many chunks of live records had
failed, how many live records had a chunk that was not embedded, how many of these have a failed
chunk now, and how many chunks were embedded. -/
structure BacklogReport.Truthful (report : BacklogReport) (s t : Store) : Prop where
  requeuedFailed : report.requeuedFailed = s.liveChunks.countP (·.chunk.status == .failed)
  records : report.records = s.records.countP s.isUnfinished
  failedRecords : report.failedRecords = s.records.countP fun r =>
    s.isUnfinished r && (t.chunksOf r.id).any (·.status == .failed)
  embeddedChunks : t.chunks.countP (·.status == .embedded) =
    s.chunks.countP (·.status == .embedded) + report.embeddedChunks

/-- In every reachable world, whatever the provider answers for which record, as long as nobody else
writes to the store and no statement is refused: a pass over the backlog comes to its end, unless it
is stopped by the operation being given up.  At its end no live chunk is pending, the chunks of a
live record that were not embedded are all embedded or have all failed, and the report tells how
many of each there are.  A pass that is stopped fails with this: the batches before were ended by
the provider, the one under way, if there is one, has failed, and the chunks of the other records
are pending.  In any case an embedded chunk stays as it is with its vector, and exactly the embedded
chunks have vectors. -/
theorem backlog_settles {svc : Service σ} {w : World σ} (halone : svc.Alone) (hw : Reachable svc w)
    (haccepts : w.store.refused = []) :
    let s := w.store
    ∃ verdicts rest w', s.backlog = verdicts.map (·.record) ++ rest ∧
      s.PassedOver w'.store verdicts ∧
      (∀ c ∈ s.chunks, c.status = .embedded → c ∈ w'.store.chunks) ∧
      (∀ c ∈ w'.store.chunks, c.status = .embedded ↔ ∃ v ∈ w'.store.vectors, v.chunk = c.id) ∧
      ((rest = [] ∧ ∃ report, perform svc.embedBacklog w = (.ok report, w') ∧
          s.Settled w'.store ∧ report.Truthful s w'.store) ∨
        (perform svc.embedBacklog w = (.error .cancelled, w') ∧ svc.Stopped w' ∧
          (∃ ended cut, verdicts = ended ++ cut ∧ cut.length ≤ 1 ∧
            (∀ v ∈ ended, v.error ≠ some .cancelled) ∧ ∀ v ∈ cut, v.error = some .cancelled) ∧
          ∀ r ∈ rest, ∀ c ∈ s.chunks, c.record = r.id → c.status ≠ .embedded →
            { c with status := .pending } ∈ w'.store.chunks)) := by
  intro s
  have hfit : svc.Fit w := ⟨hw.sound halone.quiet, haccepts, (hw.follows halone.quiet).dimension⟩
  have hs : s.Keyed := hfit.keeps.keyed
  obtain ⟨verdicts, result, w', hpass, hperform⟩ := halone.perform_embedBacklog hfit
  have hend := hpass.settles
    ⟨hfit.keeps.changeChunks (Store.besideEmbedded_requeued _), haccepts, hfit.dimension⟩
  have hpassed : s.PassedOver w'.store verdicts := by
    refine ⟨?_, hend.vectors⟩
    rw [hend.chunks]
    change s.requeued.chunks.map _ = _
    rw [hs.chunks_requeued, List.map_map]
    exact List.map_congr_left fun c _ => Verdict.settle_requeued
  obtain ⟨rest, hrest⟩ := hpass.targets_eq
  refine ⟨verdicts, rest, w', hrest, hpassed, fun c hc => hpassed.mem_of_embedded hc,
    fun c hc => hend.fit.embedded_iff hc, ?_⟩
  rcases result with e | report
  · obtain ⟨rfl, hstopped, hcut⟩ := hpass.of_error
    refine .inr ⟨hperform, hstopped, hcut, ?_⟩
    intro r hr c hc hrecord hstatus
    have hnone : c.record ∉ verdicts.map (·.record.id) := by
      have hnodup := hs.nodup_backlog
      rw [hrest, List.map_append, List.map_map] at hnodup
      intro hmem
      rw [hrecord] at hmem
      exact (List.nodup_append.mp hnodup).2.2 _ hmem _ (List.mem_map_of_mem hr) rfl
    rw [← Verdict.fate_of_none hstatus (Verdict.on?_eq_none hnone)]
    exact hpassed.mem hc
  · obtain ⟨hall, hrequeued, hrecords, hfailed, hembedded⟩ := hpass.of_ok
    have hdone : rest = [] := by
      rw [hall] at hrest
      exact List.self_eq_append_right.mp hrest
    refine .inl ⟨hdone, report, hperform, hpassed.settled hs hall, ⟨hrequeued, ?_, ?_, ?_⟩⟩
    · rw [hrecords, ← s.length_backlog, hall, List.length_map, Nat.zero_add]
    · rw [hfailed, hpassed.countP_failed hs hall, Nat.zero_add]
    · rw [hend.fit.keeps.countP_embedded, hfit.keeps.countP_embedded]
      exact hembedded

/-- A service on its own whose provider fails has kept a note and tried to embed it. -/
def Service.failedNote : World Unit :=
  Operation.run (unembedded .small) unembeddedNote .embedBacklog

/-- The chunk of a note that could not be embedded fails again in the next pass. -/
theorem backlog_settles_failedNote :
    let svc := Service.unembedded .small
    let w := Service.failedNote
    svc.Alone ∧ Reachable svc w ∧ w.store.refused = [] ∧
      ∃ report w', perform svc.embedBacklog w = (.ok report, w') ∧ w.store.Settled w'.store ∧
        report.Truthful w.store w'.store ∧ report.requeuedFailed = 1 := by
  intro svc w
  have halone : svc.Alone := fun _ _ _ => rfl
  have hw : Reachable svc w :=
    ⟨⟨0⟩, (), .tail (.single (.operation (.ingest _))) (.operation .embedBacklog)⟩
  have haccepts : w.store.refused = [] := by decide +kernel
  refine ⟨halone, hw, haccepts, ?_⟩
  obtain ⟨verdicts, rest, w', -, -, -, -, hends⟩ := backlog_settles halone hw haccepts
  rcases hends with ⟨-, report, hperform, hsettled, htruthful⟩ | ⟨hperform, hstopped, -⟩
  · refine ⟨report, w', hperform, hsettled, htruthful, ?_⟩
    rw [htruthful.requeuedFailed]
    decide +kernel
  · have hgoing : (stateAfter svc.embedBacklog w).cancelled = false := by decide +kernel
    rw [stateAfter_eq hperform] at hgoing
    rcases hstopped with hcancelled | ⟨texts, o, -, houtcome⟩
    · rw [hgoing] at hcancelled
      cases hcancelled
    · cases houtcome

end Dossier
