import Dossier.Proofs.Service.EmbeddingRace
import Dossier.Proofs.Store.Batches

/-!
# Embedding a batch to its end

A batch is tried until the provider answers with one vector for each text, the operation is given
up, or no try is left; `Service.Trial` says which of these happened after how many calls.  Whichever
it was, the whole batch is settled: all of its chunks are embedded, or all of them have failed, and
nothing else in the store has changed (`embedding_settles_batch`).  That nobody else writes to the
store in the meantime is what `Service.Alone` says; a provider may give up the operation in the
course of any call.
-/

namespace Dossier

variable {σ : Type}

namespace Service

variable (svc : Service σ)

/-- While the provider is called nobody else writes to the store. -/
def Alone : Prop := ∀ texts o s, (svc.embed texts o).meanwhile s = s

/-- A service that is alone has a quiet provider. -/
lemma Alone.quiet {svc : Service σ} (h : svc.Alone) : svc.Quiet := by
  intro texts o s
  rw [h]
  exact .refl s

/-! ### Calls -/

/-- The world behind one more call to the provider, in which the operation may have been given
up. -/
def afterCall (texts : List String) (w : World σ) : World σ :=
  { w with
    cancelled := w.cancelled || (svc.embed texts w.outside).cancels
    outside := (svc.embed texts w.outside).outside }

/-- The world behind some calls to the provider with the same texts. -/
def afterCalls (texts : List String) (n : Nat) (w : World σ) : World σ := (svc.afterCall texts)^[n] w

/-- In a world the provider answers with one vector for each text, of the dimension of the
service. -/
def Answers (texts : List String) (w : World σ) (vs : List Vec) : Prop :=
  (svc.embed texts w.outside).outcome = .ok vs ∧ vs.length = texts.length ∧
    ∀ v ∈ vs, v.length = svc.dimension

/-- How it ends when texts are tried with a number of calls allowed: the calls made, and what comes
of them.  An operation that was given up before drops its first call. -/
inductive Trial (texts : List String) (allowed : Nat) (w : World σ) :
    Nat → Except ServiceError (List Vec) → Prop
  | dropped (hcancelled : w.cancelled) : Trial texts allowed w 1 (.error .cancelled)
  | answered {n : Nat} {vs : List Vec} (hn : n < allowed)
      (hgoing : (svc.afterCalls texts n w).cancelled = false)
      (hnone : ∀ i < n, ∀ vs, ¬ svc.Answers texts (svc.afterCalls texts i w) vs)
      (hvs : svc.Answers texts (svc.afterCalls texts n w) vs) :
      Trial texts allowed w (n + 1) (.ok vs)
  | givenUp {n : Nat} (hn : n + 1 < allowed)
      (hgoing : (svc.afterCalls texts n w).cancelled = false)
      (hnone : ∀ i < n + 1, ∀ vs, ¬ svc.Answers texts (svc.afterCalls texts i w) vs)
      (hcancelled : (svc.afterCalls texts (n + 1) w).cancelled) :
      Trial texts allowed w (n + 1) (.error .cancelled)
  | exhausted {n : Nat} {e : ServiceError} (hn : n + 1 = allowed)
      (hgoing : (svc.afterCalls texts n w).cancelled = false)
      (hnone : ∀ i < n + 1, ∀ vs, ¬ svc.Answers texts (svc.afterCalls texts i w) vs)
      (he : svc.checked texts.length (svc.embed texts (svc.afterCalls texts n w).outside).outcome =
        .error e) :
      Trial texts allowed w (n + 1) (.error e)

variable {svc} {texts : List String} {allowed n : Nat} {w : World σ}
  {result : Except ServiceError (List Vec)}

/-- Calls change nothing but whether the operation is given up and the state outside. -/
lemma afterCalls_eq (texts : List String) (n : Nat) (w : World σ) :
    svc.afterCalls texts n w = { w with
      cancelled := (svc.afterCalls texts n w).cancelled
      outside := (svc.afterCalls texts n w).outside } := by
  induction n generalizing w with
  | zero => rfl
  | succ n ih => exact ih (svc.afterCall texts w)

/-- Whoever counts the calls to the provider has counted them. -/
lemma made_afterCalls {made : σ → Nat}
    (hmade : ∀ texts o, made (svc.embed texts o).outside = made o + 1) (texts : List String) (n : Nat)
    (w : World σ) : made (svc.afterCalls texts n w).outside = made w.outside + n := by
  induction n generalizing w with
  | zero => rfl
  | succ n ih =>
    have hfirst : made (svc.afterCall texts w).outside = made w.outside + 1 := hmade texts w.outside
    change made (svc.afterCalls texts n (svc.afterCall texts w)).outside = _
    rw [ih, hfirst, Nat.add_right_comm, Nat.add_assoc]

/-- A reply is accepted exactly when the provider answers with its vectors. -/
lemma checked_eq_ok_iff {vs : List Vec} :
    svc.checked texts.length (svc.embed texts w.outside).outcome = .ok vs ↔
      svc.Answers texts w vs := by
  constructor
  · exact checked_eq_ok
  · rintro ⟨houtcome, hlength, hdim⟩
    rw [houtcome]
    exact checked_of_fits hlength hdim

/-- A call of an operation that was given up comes to nothing. -/
lemma perform_callUnlessCancelled_of_cancelled (hw : w.cancelled = true) (texts : List String) :
    perform (svc.callUnlessCancelled texts) w = (.ok (.error .cancelled), svc.afterCall texts w) := by
  unfold callUnlessCancelled afterCall
  rw [perform_bind_of_ok (perform_get w), if_pos hw, hw, Bool.true_or]
  rw [perform_bind_of_ok (perform_set _ w)]
  cases w
  cases hw
  rfl

/-- A call of an operation that is under way gives the reply of the provider. -/
lemma Alone.perform_callUnlessCancelled (halone : svc.Alone) (hw : w.cancelled = false)
    (texts : List String) :
    perform (svc.callUnlessCancelled texts) w =
      (.ok (svc.embed texts w.outside).outcome, svc.afterCall texts w) := by
  have hstore : (svc.embed texts w.outside).meanwhile w.store = w.store := halone _ _ _
  unfold callUnlessCancelled
  rw [perform_bind_of_ok (perform_get w), hw]
  change (Except.ok (svc.embed texts w.outside).outcome, { w with
    store := (svc.embed texts w.outside).meanwhile w.store
    cancelled := w.cancelled || (svc.embed texts w.outside).cancels
    outside := (svc.embed texts w.outside).outside }) = _
  rw [hstore]
  rfl

/-! ### Trials -/

/-- A call that is not answered, after which the operation goes on, comes before the calls of what
remains to be tried. -/
lemma Trial.next (h : svc.Trial texts allowed (svc.afterCall texts w) n result)
    (hgoing : (svc.afterCall texts w).cancelled = false) (hnot : ∀ vs, ¬ svc.Answers texts w vs) :
    svc.Trial texts (allowed + 1) w (n + 1) result := by
  have hall : ∀ m, (∀ i < m, ∀ vs, ¬ svc.Answers texts (svc.afterCalls texts i
      (svc.afterCall texts w)) vs) → ∀ i < m + 1, ∀ vs,
        ¬ svc.Answers texts (svc.afterCalls texts i w) vs := by
    intro m hnone i hi
    cases i with
    | zero => exact hnot
    | succ i => exact hnone i (Nat.lt_of_succ_lt_succ hi)
  cases h with
  | dropped hcancelled =>
    rw [hgoing] at hcancelled
    cases hcancelled
  | answered hn hgoing hnone hvs => exact .answered (Nat.succ_lt_succ hn) hgoing (hall _ hnone) hvs
  | givenUp hn hgoing hnone hcancelled =>
    exact .givenUp (Nat.succ_lt_succ hn) hgoing (hall _ hnone) hcancelled
  | exhausted hn hgoing hnone he => exact .exhausted (congrArg (· + 1) hn) hgoing (hall _ hnone) he

/-- At least one call is made, and no more than are allowed. -/
lemma Trial.bounds (h : svc.Trial texts allowed w n result) (hallowed : 0 < allowed) :
    0 < n ∧ n ≤ allowed := by
  cases h with
  | dropped hcancelled => exact ⟨Nat.one_pos, hallowed⟩
  | answered hn => exact ⟨Nat.succ_pos _, hn⟩
  | givenUp hn => exact ⟨Nat.succ_pos _, Nat.le_of_lt hn⟩
  | exhausted hn => exact ⟨Nat.succ_pos _, Nat.le_of_eq hn⟩

/-- The vectors that come of a trial fit the texts. -/
lemma Trial.fits {vs : List Vec} (h : svc.Trial texts allowed w n (.ok vs)) :
    vs.length = texts.length ∧ ∀ v ∈ vs, v.length = svc.dimension := by
  cases h with
  | answered hn hgoing hnone hvs => exact hvs.2

/-- A reply that is not accepted is no answer. -/
lemma not_answers_of_checked {e : ServiceError}
    (h : svc.checked texts.length (svc.embed texts w.outside).outcome = .error e) (vs : List Vec) :
    ¬ svc.Answers texts w vs := by
  intro hvs
  rw [checked_eq_ok_iff.mpr hvs] at h
  cases h

/-- No answer to the first call is none to any call before the second. -/
lemma not_answers_first (h : ∀ vs, ¬ svc.Answers texts w vs) :
    ∀ i < 0 + 1, ∀ vs, ¬ svc.Answers texts (svc.afterCalls texts i w) vs := by
  intro i hi
  obtain rfl : i = 0 := Nat.lt_one_iff.mp hi
  exact h

/-- A first call that is answered settles a trial. -/
lemma Trial.first {vs : List Vec} (hgoing : w.cancelled = false)
    (hvs : svc.checked texts.length (svc.embed texts w.outside).outcome = .ok vs) :
    svc.Trial texts (allowed + 1) w 1 (.ok vs) :=
  .answered (Nat.succ_pos _) hgoing (fun _ hi => nomatch hi) (checked_eq_ok_iff.mp hvs)

/-- Trying to embed texts is a trial with one call more than there are repetitions. -/
lemma Alone.perform_tryEmbed (halone : svc.Alone) (texts : List String) (more : Nat) (w : World σ) :
    ∃ n result, svc.Trial texts (more + 1) w n result ∧
      perform (svc.tryEmbed texts more) w = (result, svc.afterCalls texts n w) := by
  induction more generalizing w with
  | zero =>
    unfold tryEmbed
    rcases hw : w.cancelled with _ | _
    · rw [perform_bind_of_ok (halone.perform_callUnlessCancelled hw texts)]
      rcases hreply : svc.checked texts.length (svc.embed texts w.outside).outcome with e | vs
      · have hnone := not_answers_first (not_answers_of_checked hreply)
        exact ⟨1, .error e, .exhausted rfl hw hnone hreply, rfl⟩
      · exact ⟨1, .ok vs, .first hw hreply, rfl⟩
    · rw [perform_bind_of_ok (perform_callUnlessCancelled_of_cancelled hw texts)]
      exact ⟨1, .error .cancelled, .dropped hw, rfl⟩
  | succ more ih =>
    unfold tryEmbed
    rcases hw : w.cancelled with _ | _
    · rw [perform_bind_of_ok (halone.perform_callUnlessCancelled hw texts)]
      rcases hreply : svc.checked texts.length (svc.embed texts w.outside).outcome with e | vs
      · have hnot := not_answers_of_checked hreply
        dsimp only
        rw [perform_bind_of_ok (perform_get _)]
        rcases hgoing : (svc.afterCall texts w).cancelled with _ | _
        · obtain ⟨n, result, htrial, htry⟩ := ih (svc.afterCall texts w)
          exact ⟨n + 1, result, htrial.next hgoing hnot, htry⟩
        · have hfew : 0 + 1 < more + 1 + 1 := Nat.succ_lt_succ (Nat.succ_pos more)
          exact ⟨1, .error .cancelled, .givenUp hfew hw (not_answers_first hnot) hgoing, rfl⟩
      · exact ⟨1, .ok vs, .first hw hreply, rfl⟩
    · rw [perform_bind_of_ok (perform_callUnlessCancelled_of_cancelled hw texts)]
      have hcancelled : (svc.afterCall texts w).cancelled = true := by
        change (w.cancelled || _) = true
        rw [hw, Bool.true_or]
      have hdropped : svc.checked texts.length (.error .cancelled) = .error .cancelled := rfl
      rw [hdropped]
      dsimp only
      rw [perform_bind_of_ok (perform_get _), if_pos hcancelled]
      exact ⟨1, .error .cancelled, .dropped hw, rfl⟩

/-! ### Endings -/

variable {tenant : String} {record : Id} {batch : List StoredChunk} {vs : List Vec}

/-- The world with a batch embedded, by its store and by its index of vectors. -/
def withBatchEmbedded (svc : Service σ) (w : World σ) (tenant : String) (record : Id)
    (batch : List StoredChunk) (vs : List Vec) : World σ :=
  { w with
    store := w.store.withEmbedded tenant record svc.version w.now batch vs
    memory := { w.memory with vectors := w.memory.vectors.putAll ((batch.map (·.id)).zip vs) } }

/-- The world with a batch failed. -/
def withBatchFailed (w : World σ) (batch : List StoredChunk) (e : ServiceError) : World σ :=
  { w with store := w.store.withFailed batch (Text.maskCredentials e.message) }

/-- What embedding a record comes to, given what comes of trying to embed its batch. -/
def settle (svc : Service σ) (w : World σ) (tenant : String) (record : Id)
    (batch : List StoredChunk) : Except ServiceError (List Vec) →
      Except ServiceError EmbedOutcome × World σ
  | .ok vs => (.ok (.embedded batch.length 0), svc.withBatchEmbedded w tenant record batch vs)
  | .error e => (.error e, withBatchFailed w batch e)

/-- Committing a batch that is as it was listed embeds all of it. -/
lemma perform_commit (hs : w.store.Keyed) (haccepts : w.store.refused = [])
    (hready : w.store.Ready tenant record batch) (hsome : batch ≠ [])
    (hlength : vs.length = batch.length)
    (hdim : ∀ v ∈ vs, v.length = w.memory.vectors.dimension) :
    perform (svc.commit tenant record batch vs) w =
      (.ok (.embedded batch.length 0), svc.withBatchEmbedded w tenant record batch vs) := by
  obtain ⟨written, t, hcommit⟩ : ∃ written t, perform (Store.commitBatch tenant record svc.version
      w.now (batch.zip vs)) w.store = (.ok written, t) := by
    rcases Store.commitBatch_ok_or_refused tenant record svc.version w.now (batch.zip vs) w.store
      with hok | ⟨st, hst, -⟩
    · exact hok
    · rw [haccepts] at hst
      cases hst
  obtain ⟨hwritten, ht⟩ := Store.commitBatch_eq_ok hcommit
  have hfirst : (batch.zip vs).map (·.1) = batch := List.map_fst_zip (Nat.le_of_eq hlength.symm)
  have hpairs : w.store.Ready tenant record ((batch.zip vs).map (·.1)) := by
    rwa [hfirst]
  have hcounted : written = (batch.map (·.id)).zip vs := by
    rw [hwritten, hpairs.counted_eq, List.zip_map_left]
    rfl
  have hall : written.length = batch.length := by
    rw [hcounted, List.length_zip, List.length_map, hlength, Nat.min_self]
  have hfits : ∀ entry ∈ written, entry.2.length = w.memory.vectors.dimension := by
    intro entry hentry
    rw [hcounted] at hentry
    exact hdim entry.2 (List.of_mem_zip hentry).2
  unfold commit
  rw [perform_bind_of_ok (perform_get w), perform_bind_of_ok (perform_store_of_ok hcommit),
    perform_bind_of_ok (perform_get _)]
  simp only [VectorIndex.upsertAll_of_fits hfits]
  rw [perform_bind_of_ok (perform_onMemory _ _), hall, Nat.sub_self, ht,
    hready.committed_eq hs hsome hlength, hcounted]
  rfl

/-- Giving up a batch that is as it was listed marks all of it as failed. -/
lemma perform_fail (hs : w.store.Keyed) (haccepts : w.store.refused = [])
    (hready : w.store.Ready tenant record batch) (e : ServiceError) :
    perform (fail batch e) w = (.ok (), withBatchFailed w batch e) := by
  have hmark : perform (Store.markFailed (batch.map (·.id)) (Text.maskCredentials e.message)) w.store =
      (.ok _, w.store.failed (batch.map (·.id)) (Text.maskCredentials e.message)) :=
    Store.perform_writing_of_accepted haccepts _
  unfold fail
  rw [perform_bind_of_ok (perform_store_of_ok hmark), hready.failed_eq hs]
  rfl

/-- Listing the pending chunks of a record. -/
lemma perform_listPending (haccepts : w.store.refused = []) (tenant : String) (record : Id) :
    perform (Action.store (Store.listPending tenant record)) w =
      (.ok (w.store.pendingOf tenant record), w) := by
  refine perform_store_of_ok_same (Store.perform_reading_eq_ok.mpr ⟨?_, rfl, rfl⟩)
  rw [haccepts]
  exact List.not_mem_nil

/-- Embedding a record: its pending chunks are tried, and their batch is embedded or given up. -/
lemma Alone.perform_embedRecord (halone : svc.Alone) (hs : w.store.Keyed)
    (haccepts : w.store.refused = []) (hdim : w.memory.vectors.dimension = svc.dimension)
    (hsome : w.store.pendingOf tenant record ≠ []) :
    let batch := w.store.pendingOf tenant record
    let texts := batch.map (·.text)
    ∃ n result, svc.Trial texts (max 1 svc.config.embedder.maxAttempts) w n result ∧
      perform (svc.embedRecord tenant record) w =
        svc.settle (svc.afterCalls texts n w) tenant record batch result := by
  intro batch texts
  obtain ⟨n, result, htrial, htry⟩ := halone.perform_tryEmbed texts svc.retries w
  have hallowed : svc.retries + 1 = max 1 svc.config.embedder.maxAttempts := by
    unfold retries
    omega
  rw [hallowed] at htrial
  refine ⟨n, result, htrial, ?_⟩
  have hready : w.store.Ready tenant record batch := hs.ready_pendingOf hsome
  have hempty : ¬ batch.isEmpty = true := fun h => hsome (List.isEmpty_iff.mp h)
  have hstore : (svc.afterCalls texts n w).store = w.store := by rw [afterCalls_eq]
  have hmemory : (svc.afterCalls texts n w).memory = w.memory := by rw [afterCalls_eq]
  have hs' : (svc.afterCalls texts n w).store.Keyed := by rwa [hstore]
  have haccepts' : (svc.afterCalls texts n w).store.refused = [] := by rwa [hstore]
  have hready' : (svc.afterCalls texts n w).store.Ready tenant record batch := by rwa [hstore]
  unfold embedRecord
  rw [perform_bind_of_ok (perform_listPending haccepts tenant record), if_neg hempty,
    perform_bind_of_ok (perform_outcome _ w), htry]
  rcases result with e | vs
  · dsimp only
    rw [perform_bind_of_ok (perform_fail hs' haccepts' hready' e)]
    rfl
  · obtain ⟨hlength, hfits⟩ := htrial.fits
    rw [List.length_map] at hlength
    dsimp only
    refine perform_commit hs' haccepts' hready' hsome hlength ?_
    rw [hmemory, hdim]
    exact hfits

end Service

/-- For every record with pending chunks, whatever the provider answers and whenever the operation
is given up, as long as nobody else writes to the store and no statement is refused: at least one
call and at most as many as there may be attempts are made, and trying ends with the first answer of
one vector of the right dimension for each chunk, or without any.  Either every chunk of the batch
is embedded then with the vector at its own position, in the store as in the index, its error is
cleared, and its record was indexed now; or every chunk of the batch has failed with the masked text
of the error that is returned, and the index has not changed.  Nothing else in the store has changed
either way. -/
theorem embedding_settles_batch {svc : Service σ} {w : World σ} {tenant : String} {record : Id}
    (halone : svc.Alone) (hs : w.store.Keyed) (haccepts : w.store.refused = [])
    (hdim : w.memory.vectors.dimension = svc.dimension)
    (hsome : w.store.pendingOf tenant record ≠ []) :
    let batch := w.store.pendingOf tenant record
    let texts := batch.map (·.text)
    let allowed := max 1 svc.config.embedder.maxAttempts
    let w' := stateAfter (svc.embedRecord tenant record) w
    (∀ c, c ∈ batch ↔ c ∈ w.store.chunks ∧ c.record = record ∧ c.status = .pending) ∧
      ∃ n result, svc.Trial texts allowed w n result ∧ 0 < n ∧ n ≤ allowed ∧
        w'.outside = (svc.afterCalls texts n w).outside ∧
        (∀ made : σ → Nat, (∀ texts o, made (svc.embed texts o).outside = made o + 1) →
          made w'.outside = made w.outside + n) ∧
        (∀ vs, result = .ok vs →
          vs.length = batch.length ∧ (∀ v ∈ vs, v.length = svc.dimension) ∧
          perform (svc.embedRecord tenant record) w = (.ok (.embedded batch.length 0), w') ∧
          w'.store = w.store.withEmbedded tenant record svc.version w.now batch vs ∧
          w'.memory = { w.memory with
            vectors := w.memory.vectors.putAll ((batch.map (·.id)).zip vs) }) ∧
        ∀ e, result = .error e →
          perform (svc.embedRecord tenant record) w = (.error e, w') ∧
          w'.store = w.store.withFailed batch (Text.maskCredentials e.message) ∧
          w'.memory = w.memory := by
  intro batch texts allowed w'
  obtain ⟨c, hc⟩ := List.exists_mem_of_ne_nil _ hsome
  obtain ⟨-, -, -, r, hr, hid, htenant, -⟩ := Store.mem_pendingOf hc
  subst hid htenant
  refine ⟨fun c => hs.mem_pendingOf_iff hr, ?_⟩
  obtain ⟨n, result, htrial, hperform⟩ := halone.perform_embedRecord hs haccepts hdim hsome
  obtain ⟨hpos, hle⟩ := htrial.bounds (Nat.lt_of_lt_of_le Nat.one_pos (Nat.le_max_left _ _))
  have hcalls : svc.afterCalls texts n w = { w with
      cancelled := (svc.afterCalls texts n w).cancelled
      outside := (svc.afterCalls texts n w).outside } := Service.afterCalls_eq texts n w
  have houtside : w'.outside = (svc.afterCalls texts n w).outside := by
    have hw' : w' = (svc.settle (svc.afterCalls texts n w) r.tenant r.id batch result).2 :=
      congrArg Prod.snd hperform
    rw [hw']
    cases result <;> rfl
  refine ⟨n, result, htrial, hpos, hle, houtside, ?_, ?_, ?_⟩
  · intro made hmade
    rw [houtside, Service.made_afterCalls hmade]
  · rintro vs rfl
    obtain ⟨hlength, hfits⟩ := htrial.fits
    rw [List.length_map] at hlength
    have hw' : w' = svc.withBatchEmbedded (svc.afterCalls texts n w) r.tenant r.id batch vs :=
      stateAfter_eq hperform
    refine ⟨hlength, hfits, ?_, ?_, ?_⟩
    · rw [hperform, hw']
      rfl
    · rw [hw', hcalls]
      rfl
    · rw [hw', hcalls]
      rfl
  · rintro e rfl
    have hw' : w' = Service.withBatchFailed (svc.afterCalls texts n w) batch e :=
      stateAfter_eq hperform
    refine ⟨?_, ?_, ?_⟩
    · rw [hperform, hw']
      rfl
    · rw [hw', hcalls]
      rfl
    · rw [hw', hcalls]
      rfl

/-- The note of a tenant is embedded by a service on its own. -/
theorem embedding_settles_batch_oneNote :
    let svc := Service.standalone .small
    let w := Service.standaloneAfter [.ingest (.sampleNote "acme" "Call" "Renewal is due.")]
    let batch := w.store.pendingOf "acme" ⟨0⟩
    let w' := stateAfter (svc.embedRecord "acme" ⟨0⟩) w
    svc.Alone ∧ w.store.Keyed ∧ w.store.refused = [] ∧
      w.memory.vectors.dimension = svc.dimension ∧ batch.length = 1 ∧
      ∃ vs, perform (svc.embedRecord "acme" ⟨0⟩) w = (.ok (.embedded 1 0), w') ∧
        w'.store = w.store.withEmbedded "acme" ⟨0⟩ svc.version w.now batch vs ∧
        w'.memory = { w.memory with
          vectors := w.memory.vectors.putAll ((batch.map (·.id)).zip vs) } := by
  intro svc w batch w'
  have halone : svc.Alone := fun _ _ _ => rfl
  have hs : w.store.Keyed :=
    (Reachable.sound halone.quiet (Service.reachable_standaloneAfter _)).keyed
  have haccepts : w.store.refused = [] := by decide +kernel
  have hdim : w.memory.vectors.dimension = svc.dimension := by decide +kernel
  have hone : batch.length = 1 := by decide +kernel
  have hsome : batch ≠ [] := List.ne_nil_of_length_pos (by omega)
  have hgoing : w.cancelled = false := by decide +kernel
  have hanswers : svc.Answers (batch.map (·.text)) w
      ((batch.map (·.text)).map (Embedding.hashed 2)) := by
    refine ⟨rfl, List.length_map _, ?_⟩
    intro v hv
    obtain ⟨text, -, rfl⟩ := List.mem_map.mp hv
    exact Embedding.length_hashed 2 text
  obtain ⟨-, n, result, htrial, -, -, -, -, hembedded, -⟩ :=
    embedding_settles_batch halone hs haccepts hdim hsome
  refine ⟨halone, hs, haccepts, hdim, hone, ?_⟩
  cases htrial with
  | dropped hcancelled =>
    rw [hgoing] at hcancelled
    cases hcancelled
  | answered hn hgoing hnone hvs =>
    obtain ⟨-, -, hperform, hstore, hmemory⟩ := hembedded _ rfl
    rw [hone] at hperform
    exact ⟨_, hperform, hstore, hmemory⟩
  | givenUp hn hgoing hnone => exact absurd hanswers (hnone 0 (Nat.succ_pos _) _)
  | exhausted hn hgoing hnone => exact absurd hanswers (hnone 0 (Nat.succ_pos _) _)

end Dossier
