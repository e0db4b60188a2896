import Dossier.Proofs.Service.Race

/-!
# Embedding in every order of steps

What the invariant of a site comes to for stored vectors: where each of them comes from, that chunks
which are gone have none, that an embedded chunk keeps the one that it has, and that a commitment
tells how many chunks of its batch counted and how many did not.
-/

namespace Dossier

variable {σ π : Type}

/-! ### Work that fails only when it is refused -/

namespace Store

variable {α β : Type} {s : Store}

/-- Begun in a store, some work succeeds or one of its statements is refused. -/
def RefusedAtMost (work : StoreAction α) (s : Store) : Prop :=
  (∃ a t, perform work s = (.ok a, t) ∧ t.refused = s.refused) ∨
    ∃ st ∈ s.refused, ∃ t, perform work s = (.error (.refused st), t)

/-- Giving a value is not refused. -/
lemma refusedAtMost_pure (a : α) : RefusedAtMost (pure a) s := .inl ⟨a, s, rfl, rfl⟩

/-- A statement whose function succeeds is refused at most. -/
lemma refusedAtMost_statement {st : Statement} {run : Store → Except StoreError (α × Store)} {a : α}
    {t : Store} (hrun : run s = .ok (a, t)) (hrefused : t.refused = s.refused) :
    RefusedAtMost (statement st run) s := by
  by_cases hst : st ∈ s.refused
  · refine .inr ⟨st, hst, s, ?_⟩
    rw [perform_statement, if_pos hst]
  · exact .inl ⟨a, t, perform_statement_eq_ok.mpr ⟨hst, hrun⟩, hrefused⟩

/-- A statement that writes and refuses the same statements afterwards is refused at most. -/
lemma refusedAtMost_writing {st : Statement} {write : Store → α × Store}
    (hrefused : (write s).2.refused = s.refused) : RefusedAtMost (writing st write) s :=
  refusedAtMost_statement rfl hrefused

/-- Work in sequence is refused at most if both parts are. -/
lemma RefusedAtMost.bind {x : StoreAction α} {f : α → StoreAction β} (hx : RefusedAtMost x s)
    (hf : ∀ a t, perform x s = (.ok a, t) → RefusedAtMost (f a) t) :
    RefusedAtMost (x >>= f) s := by
  rcases hx with ⟨a, t, h, hrefused⟩ | ⟨st, hst, t, h⟩
  · have hrest := hf a t h
    unfold RefusedAtMost at hrest ⊢
    rw [perform_bind_of_ok h, ← hrefused]
    exact hrest
  · exact .inr ⟨st, hst, t, perform_bind_of_error h f⟩

/-- A transaction whose work is refused at most succeeds, or something is refused and nothing has
changed. -/
lemma RefusedAtMost.transaction {work : StoreAction α} (h : RefusedAtMost work s) :
    (∃ a t, perform (Store.transaction work) s = (.ok a, t)) ∨
      ∃ st ∈ s.refused, perform (Store.transaction work) s = (.error (.refused st), s) := by
  rw [perform_transaction]
  rcases h with ⟨a, t, h, hrefused⟩ | ⟨st, hst, t, h⟩
  · rw [h]
    dsimp only
    split
    · rename_i hcommit
      rw [hrefused] at hcommit
      exact .inr ⟨.commit, hcommit, rfl⟩
    · exact .inl ⟨a, t, rfl⟩
  · rw [h]
    exact .inr ⟨st, hst, rfl⟩

/-! ### Commitments -/

/-- Writing the vector of a chunk that is in the store is refused at most. -/
lemma refusedAtMost_writeVector {chunk : Id} (hthere : (s.chunk? chunk).isSome)
    (tenant version : String) (v : Vec) :
    RefusedAtMost (writeVector chunk tenant version v) s := by
  have hsome : ¬ (s.chunk? chunk).isNone := by
    rw [Option.isNone_iff_eq_none]
    exact Option.isSome_iff_ne_none.mp hthere
  unfold writeVector
  refine refusedAtMost_statement ?_ ?_ (t := s.withVector chunk tenant version v) (a := ())
  · rw [if_neg hsome]
    rfl
  · rfl

/-- Writing the pairs of a batch is refused at most: a chunk that was just marked is in the
store. -/
lemma refusedAtMost_writeEach (tenant version : String) (batch : List (StoredChunk × Vec))
    (s : Store) : RefusedAtMost (writeEach tenant version batch) s := by
  induction batch generalizing s with
  | nil => exact refusedAtMost_pure _
  | cons pair rest ih =>
    obtain ⟨chunk, v⟩ := pair
    unfold writeEach
    refine RefusedAtMost.bind (refusedAtMost_writing (by rfl)) ?_
    intro marked t hmark
    obtain ⟨rfl, rfl⟩ := markEmbedded_eq_ok hmark
    split
    · rename_i hpending
      have hthere : ((s.marked chunk.id).chunk? chunk.id).isSome := by
        rw [chunk?_marked_isSome]
        exact chunk?_isSome_of_isPending hpending
      refine (refusedAtMost_writeVector hthere tenant version v).bind ?_
      intro _ u _
      exact (ih u).bind fun written u' _ => refusedAtMost_pure _
    · exact ih _

/-- Committing a batch succeeds, or a statement is refused and nothing has changed. -/
lemma commitBatch_ok_or_refused (tenant : String) (record : Id) (version : String) (now : Instant)
    (batch : List (StoredChunk × Vec)) (s : Store) :
    (∃ written t, perform (commitBatch tenant record version now batch) s = (.ok written, t)) ∨
      ∃ st ∈ s.refused, perform (commitBatch tenant record version now batch) s =
        (.error (.refused st), s) := by
  refine RefusedAtMost.transaction ((refusedAtMost_writeEach tenant version batch s).bind ?_)
  intro written t _
  dsimp only
  split
  · exact RefusedAtMost.bind (refusedAtMost_writing (by rfl)) fun _ u _ => refusedAtMost_pure _
  · exact refusedAtMost_pure _

end Store

/-- What a commitment comes to when the batch and its vectors fit: it tells how many chunks counted
and how many did not, or a statement is refused and nothing has changed. -/
lemma Service.commit_ok_or_refused {svc : Service σ} {w : World σ} (tenant : String) (record : Id)
    {batch : List StoredChunk} {vs : List Vec}
    (hdim : ∀ v ∈ vs, v.length = w.memory.vectors.dimension) :
    (∃ embedded skipped w', perform (svc.commit tenant record batch vs) w =
        (.ok (.embedded embedded skipped), w') ∧ embedded + skipped = batch.length) ∨
      ∃ st ∈ w.store.refused, perform (svc.commit tenant record batch vs) w =
        (.error (.storage (.refused st)), w) := by
  unfold commit
  rw [perform_bind_of_ok (perform_get w)]
  rcases Store.commitBatch_ok_or_refused tenant record svc.version w.now (batch.zip vs) w.store with
    ⟨written, t, h⟩ | ⟨st, hst, h⟩
  · left
    obtain ⟨hwritten, -⟩ := Store.commitBatch_eq_ok h
    have hfits : ∀ entry ∈ written, entry.2.length = w.memory.vectors.dimension := by
      intro entry hentry
      rw [hwritten] at hentry
      obtain ⟨pair, hpair, rfl⟩ := Store.of_mem_counted hentry
      exact hdim pair.2 (List.of_mem_zip hpair).2
    have hcount : written.length ≤ batch.length := by
      rw [hwritten]
      refine Nat.le_trans (Store.length_counted_le _ _ _ _) ?_
      rw [List.length_zip]
      exact Nat.min_le_left _ _
    refine ⟨written.length, batch.length - written.length, { w with
      store := t
      memory := { w.memory with vectors := w.memory.vectors.putAll written } }, ?_, by omega⟩
    rw [perform_bind_of_ok (perform_store_of_ok h), perform_bind_of_ok (perform_get _)]
    simp only [VectorIndex.upsertAll_of_fits hfits]
    rfl
  · right
    refine ⟨st, hst, ?_⟩
    rw [perform_bind_of_error (perform_store_of_error h)]
    rfl

namespace Site

variable {svc : Service σ} {s s' s'' : Site σ π}

/-! ### Runs -/

/-- No stored chunk has an identifier. -/
def Lacks (s : Site σ π) (id : Id) : Prop := ∀ c ∈ s.store.chunks, c.id ≠ id

/-- A chunk is stored as it is, with a vector. -/
def Holds (s : Site σ π) (c : StoredChunk) (v : StoredVector) : Prop :=
  c ∈ s.store.chunks ∧ v ∈ s.store.vectors

/-- A chunk that is not stored has no vector in a safe site. -/
lemma Safe.not_vector_of_lacks (hs : Safe svc s) {id : Id} (h : s.Lacks id) :
    ∀ v ∈ s.store.vectors, v.chunk ≠ id := by
  intro v hv hchunk
  obtain ⟨c, hc, hid, -⟩ := hs.sound.vectors.backed v hv
  exact h c hc (hid.trans hchunk)

/-- An identifier that was drawn and names no stored chunk does not name one later. -/
lemma Advances.lacks (h : Advances svc s s') (hfresh : Function.Injective svc.fresh) {id : Id}
    (hid : svc.Drawn s.drawn id) (hlacks : s.Lacks id) : s'.Lacks id := by
  intro c hc heq
  rcases h.succeeds.chunk c hc with ⟨held, hheld, hplace⟩ | hnew
  · exact hlacks held hheld ((congrArg Place.id hplace).trans heq)
  · rw [heq] at hnew
    exact hid.not_drawnBetween hfresh hnew

/-- An embedded chunk is stored as it is with its vector, or it is gone. -/
lemma Advances.holds_or_lacks (h : Advances svc s s') (hfresh : Function.Injective svc.fresh)
    (hs : Safe svc s) {c : StoredChunk} {v : StoredVector} (hholds : s.Holds c v)
    (hstatus : c.status = .embedded) (hchunk : v.chunk = c.id) : s'.Holds c v ∨ s'.Lacks c.id := by
  by_cases hthere : ∃ c' ∈ s'.store.chunks, c'.id = c.id
  · left
    have hold := (hs.chunkDrawn c hholds.1).not_drawnBetween (m := s'.drawn) hfresh
    obtain ⟨hc, hv⟩ := h.succeeds.embedded c hholds.1 hstatus hold hthere
    exact ⟨hc, hv v hholds.2 hchunk⟩
  · right
    intro c' hc' hid
    exact hthere ⟨c', hc', hid⟩

variable [DecidableEq π]

/-- A run keeps a site safe. -/
lemma Run.safe (h : Run svc s s') (hfresh : Function.Injective svc.fresh) (hs : Safe svc s) :
    Safe svc s' := by
  induction h with
  | refl => exact hs
  | tail _ hstep ih => exact (hstep.advances hfresh ih).safe

/-- No identifiers are undrawn in a run. -/
lemma Run.drawn_le (h : Run svc s s') (hfresh : Function.Injective svc.fresh) (hs : Safe svc s) :
    s.drawn ≤ s'.drawn := by
  induction h with
  | refl => exact Nat.le_refl _
  | tail hrun hstep ih =>
    exact Nat.le_trans ih (hstep.advances hfresh (Run.safe hrun hfresh hs)).drawn

/-- Every reachable site is safe. -/
lemma Reachable.safe (hs : Reachable svc s) (hfresh : Function.Injective svc.fresh) :
    Safe svc s := by
  obtain ⟨outside, hrun⟩ := hs
  exact Run.safe hrun hfresh (safe_start svc outside)

/-- An identifier that was drawn and names no stored chunk does not name one for the rest of a
run. -/
lemma Run.lacks (h : Run svc s s') (hfresh : Function.Injective svc.fresh) (hs : Safe svc s)
    {id : Id} (hid : svc.Drawn s.drawn id) (hlacks : s.Lacks id) : s'.Lacks id := by
  induction h with
  | refl => exact hlacks
  | tail hrun hstep ih =>
    have hmid := Run.safe hrun hfresh hs
    have hle := Run.drawn_le hrun hfresh hs
    exact (hstep.advances hfresh hmid).lacks hfresh (hid.mono hle) ih

/-- Along a run an embedded chunk is stored as it is with its vector until it is gone. -/
lemma Run.holds_or_lacks (h : Run svc s s') (hfresh : Function.Injective svc.fresh)
    (hs : Safe svc s) {c : StoredChunk} {v : StoredVector} (hholds : s.Holds c v)
    (hstatus : c.status = .embedded) (hchunk : v.chunk = c.id) : s'.Holds c v ∨ s'.Lacks c.id := by
  induction h with
  | refl => exact .inl hholds
  | tail hrun hstep ih =>
    have hmid := Run.safe hrun hfresh hs
    have hadvances := hstep.advances hfresh hmid
    rcases ih with hthere | hgone
    · exact hadvances.holds_or_lacks hfresh hmid hthere hstatus hchunk
    · have hle := Run.drawn_le hrun hfresh hs
      exact .inr (hadvances.lacks hfresh ((hs.chunkDrawn c hholds.1).mono hle) hgone)

/-! ### Embedding a record as a run -/

/-- A process that has done nothing leaves the site as it is. -/
lemma after_view (s : Site σ π) (p : π) (now : Instant) (cancelled : Bool) :
    s.after p (s.view p now cancelled) = s := by
  unfold after view
  rw [Function.update_eq_self]

/-- What a process does last is what it leaves behind. -/
lemma after_after (s : Site σ π) (p : π) (w w' : World σ) :
    (s.after p w).after p w' = s.after p w' := by
  unfold after
  dsimp only
  rw [Function.update_idem]

/-- A process sees what it has left behind. -/
lemma view_after (s : Site σ π) (p : π) (w : World σ) :
    (s.after p w).view p w.now w.cancelled = w := by
  unfold after view
  dsimp only
  rw [Function.update_self]

/-- What leaves the tables and the indexes alone is a step aside. -/
lemma step_aside (hdim : ∀ q, (s.memory q).vectors.dimension = svc.dimension) {p : π}
    {now : Instant} {cancelled : Bool} {w : World σ} (hw : (s.view p now cancelled).Still w)
    (outside : σ) : Step svc s (s.after p { w with outside }) := by
  refine .aside outside hw.tables ?_ hw.drawn
  intro q
  change (Function.update s.memory p w.memory q).vectors.dimension = svc.dimension
  by_cases hq : q = p
  · subst hq
    rw [Function.update_self, hw.vectors]
    exact hdim q
  · rw [Function.update_of_ne hq]
    exact hdim q

/-- A run of embedding whose provider does not answer: the chunks that were listed are marked as
failed. -/
lemma run_fail (hdim : ∀ q, (s.memory q).vectors.dimension = svc.dimension) {p : π} {now : Instant}
    {cancelled : Bool} {tenant : String} {record : Id} {batch : List StoredChunk}
    (hlist : perform (Store.listPending tenant record) s.store = (.ok batch, s.store))
    (hsome : batch ≠ []) {u : World σ} (hu : (s.view p now cancelled).Still u) (e : ServiceError) :
    Run svc s (s.after p (stateAfter (Service.fail batch e) u)) := by
  let f : Flight π := ⟨p, tenant, record, batch, .asked⟩
  let listed : Site σ π := { s with flights := f :: s.flights }
  let tried : Site σ π := listed.after p u
  let given : Site σ π := { tried with flights := { f with phase := .failing e } :: s.flights }
  have hlisted : Step svc s listed := .list p hlist hsome
  have htried : Step svc listed tried := step_aside (s := listed) hdim hu u.outside
  have hasked : tried.flights = [] ++ f :: s.flights := rfl
  have hgiven : Step svc tried given := .giveUp e hasked rfl
  have hfailing : given.flights = [] ++ { f with phase := .failing e } :: s.flights := rfl
  have hfail : Step svc given _ := .fail u.now u.cancelled hfailing rfl
  have hview : given.view p u.now u.cancelled = u := view_after listed p u
  have hend : { given with flights := s.flights }.after p (stateAfter (Service.fail batch e) u) =
      s.after p (stateAfter (Service.fail batch e) u) := after_after s p u _
  change Step svc given ({ given with flights := s.flights }.after p
    (stateAfter (Service.fail batch e) (given.view p u.now u.cancelled))) at hfail
  rw [hview, hend] at hfail
  exact (((Relation.ReflTransGen.single hlisted).tail htried).tail hgiven).tail hfail

/-- A run of embedding whose provider answers: the vectors of the chunks that were listed are
committed. -/
lemma run_commit (hdim : ∀ q, (s.memory q).vectors.dimension = svc.dimension) {p : π}
    {now : Instant} {cancelled : Bool} {tenant : String} {record : Id} {batch : List StoredChunk}
    (hlist : perform (Store.listPending tenant record) s.store = (.ok batch, s.store))
    (hsome : batch ≠ []) {u : World σ} (hu : (s.view p now cancelled).Still u) {o : σ}
    {vs : List Vec} (hvs : svc.checked (batch.map (·.text)).length
      (svc.embed (batch.map (·.text)) o).outcome = .ok vs)
    (houtside : u.outside = (svc.embed (batch.map (·.text)) o).outside) :
    Run svc s { s.after p (stateAfter (svc.commit tenant record batch vs) u) with
      replies := ⟨batch, vs⟩ :: s.replies } := by
  let f : Flight π := ⟨p, tenant, record, batch, .asked⟩
  let listed : Site σ π := { s with flights := f :: s.flights }
  let tried : Site σ π := listed.after p { u with outside := o }
  let answered : Site σ π := { listed.after p u with
    flights := { f with phase := .answered vs } :: s.flights
    replies := ⟨batch, vs⟩ :: s.replies }
  have hlisted : Step svc s listed := .list p hlist hsome
  have htried : Step svc listed tried := step_aside (s := listed) hdim hu o
  have hanswered : Step svc tried answered := by
    have hasked : tried.flights = [] ++ f :: s.flights := rfl
    have h := Step.answer hasked rfl hvs
    have hsame : (svc.embed f.texts o).outside = u.outside := houtside.symm
    change Step svc tried { tried with
      outside := (svc.embed f.texts o).outside
      flights := { f with phase := .answered vs } :: s.flights
      replies := ⟨batch, vs⟩ :: s.replies } at h
    rw [hsame] at h
    exact h
  have hbatch : answered.flights = [] ++ { f with phase := .answered vs } :: s.flights := rfl
  have hcommit : Step svc answered _ := .commit u.now u.cancelled hbatch rfl
  have hview : answered.view p u.now u.cancelled = u := view_after listed p u
  change Step svc answered ({ answered with flights := s.flights }.after p
    (stateAfter (svc.commit tenant record batch vs) (answered.view p u.now u.cancelled))) at hcommit
  have hend : { answered with flights := s.flights }.after p
      (stateAfter (svc.commit tenant record batch vs) u) =
      { s.after p (stateAfter (svc.commit tenant record batch vs) u) with
        replies := ⟨batch, vs⟩ :: s.replies } :=
    congrArg (fun site => { site with replies := ⟨batch, vs⟩ :: s.replies }) (after_after s p u _)
  rw [hview, hend] at hcommit
  exact (((Relation.ReflTransGen.single hlisted).tail htried).tail hanswered).tail hcommit

/-- Embedding a record without interruption is a run of the site. -/
lemma Safe.run_embedRecord (hs : Safe svc s) (hq : svc.Quiet) (p : π) (now : Instant)
    (cancelled : Bool) (tenant : String) (record : Id) :
    ∃ replies, Run svc s { s.after p (stateAfter (svc.embedRecord tenant record)
      (s.view p now cancelled)) with replies } := by
  have hnone : ∃ replies, Run svc s { s.after p (s.view p now cancelled) with replies } := by
    refine ⟨s.replies, ?_⟩
    rw [after_view]
  unfold Service.embedRecord
  rw [stateAfter_bind]
  rcases hlist : perform (Store.listPending tenant record) s.store with ⟨err | batch, t⟩
  · rw [perform_store_of_error (w := s.view p now cancelled) hlist,
      Store.perform_reading_error hlist]
    exact hnone
  · obtain ⟨-, -, rfl⟩ := Store.perform_reading_eq_ok.mp hlist
    rw [perform_store_of_ok_same (w := s.view p now cancelled) hlist]
    dsimp only
    by_cases hempty : batch.isEmpty
    · rw [if_pos hempty]
      exact hnone
    · rw [if_neg hempty, stateAfter_bind, perform_outcome]
      have hsome : batch ≠ [] := by
        rwa [List.isEmpty_iff] at hempty
      have hstill := hq.still_tryEmbed (batch.map (·.text)) svc.retries (s.view p now cancelled)
      rcases hembed : perform (svc.tryEmbed (batch.map (·.text)) svc.retries)
        (s.view p now cancelled) with ⟨e | vs, u⟩
      · rw [stateAfter_eq hembed] at hstill
        rw [hembed]
        dsimp only
        rw [stateAfter_bind_throw]
        exact ⟨s.replies, run_fail hs.dimension hlist hsome hstill e⟩
      · rw [stateAfter_eq hembed] at hstill
        rw [hembed]
        obtain ⟨o, hchecked, houtside⟩ := Service.tryEmbed_eq_ok hembed
        exact ⟨_, run_commit hs.dimension hlist hsome hstill hchecked houtside⟩

/-! ### Two answers for the same chunks -/

/-- The site with one more run of embedding, which has its answer. -/
def withAnswer (svc : Service σ) (s : Site σ π) (f : Flight π) (vs : List Vec) : Site σ π :=
  { s with
    outside := (svc.embed f.texts s.outside).outside
    flights := { f with phase := .answered vs } :: s.flights
    replies := ⟨f.batch, vs⟩ :: s.replies }

/-- The site in which the last run of embedding has committed its answer. -/
def withCommitment (svc : Service σ) (s : Site σ π) (f : Flight π) (vs : List Vec) : Site σ π :=
  { s with flights := s.flights.tail }.after f.process
    (stateAfter (svc.commit f.tenant f.record f.batch vs) (s.view f.process ⟨0⟩ false))

/-- A process lists the pending chunks of a record and has its answer. -/
lemma run_withAnswer {f : Flight π}
    (hlist : perform (Store.listPending f.tenant f.record) s.store = (.ok f.batch, s.store))
    (hsome : f.batch ≠ []) (hasked : f.phase = .asked) {vs : List Vec}
    (hvs : svc.checked f.texts.length (svc.embed f.texts s.outside).outcome = .ok vs) :
    Run svc s (s.withAnswer svc f vs) := by
  have hlisted : Step svc s { s with flights := f :: s.flights } := by
    have h : Step svc s _ := .list f.process hlist hsome
    rw [← hasked] at h
    exact h
  have hfirst : { s with flights := f :: s.flights }.flights = [] ++ f :: s.flights := rfl
  exact .tail (.single hlisted) (.answer hfirst hasked hvs)

/-- A process commits the answer that it got last. -/
lemma step_withCommitment {f : Flight π} {vs : List Vec} {rest : List (Flight π)}
    (hf : s.flights = { f with phase := .answered vs } :: rest) :
    Step svc s (s.withCommitment svc f vs) := by
  have hfirst : s.flights = [] ++ { f with phase := .answered vs } :: rest := hf
  have h : Step svc s _ := .commit ⟨0⟩ false hfirst rfl
  have htail : [] ++ rest = s.flights.tail := by
    rw [hf]
    rfl
  rw [htail] at h
  exact h

/-- The processes of a service on its own have ingested a note. -/
def noted : Site Unit Bool :=
  let svc := Service.standalone .small
  let s := start svc ()
  s.after true (stateAfter (svc.ingest (.sampleNote "acme" "Call" "Renewal is due."))
    (s.view true ⟨0⟩ false))

/-- A run of embedding of the chunks of the note. -/
def noteFlight (p : Bool) : Flight Bool :=
  ⟨p, "acme", ⟨0⟩, noted.store.pendingOf "acme" ⟨0⟩, .asked⟩

/-- The answer that a process gets for the chunks of the note. -/
def noteAnswer (p : Bool) : List Vec := (noteFlight p).texts.map (Embedding.hashed 2)

/-- Both processes have an answer for the chunks of the note. -/
def contested : Site Unit Bool :=
  let svc := Service.standalone .small
  let s := noted.withAnswer svc (noteFlight true) (noteAnswer true)
  s.withAnswer svc (noteFlight false) (noteAnswer false)

/-- One of two processes with an answer for the same chunks has committed it. -/
def decided : Site Unit Bool :=
  contested.withCommitment (Service.standalone .small) (noteFlight false) (noteAnswer false)

/-- A process can get an answer for the chunks of the note wherever it is stored with its chunks
pending. -/
lemma run_noteFlight (s : Site Unit Bool) (hs : s.store = noted.store) (p : Bool) :
    Run (Service.standalone .small) s
      (s.withAnswer (Service.standalone .small) (noteFlight p) (noteAnswer p)) := by
  refine run_withAnswer ?_ ?_ rfl ?_
  · rw [hs]
    exact Store.perform_reading_eq_ok.mpr ⟨by decide +kernel, rfl, rfl⟩
  · change noted.store.pendingOf "acme" ⟨0⟩ ≠ []
    decide +kernel
  · refine Service.checked_of_fits (List.length_map _) ?_
    intro v hv
    obtain ⟨text, -, rfl⟩ := List.mem_map.mp hv
    exact Embedding.length_hashed 2 text

/-- The site in which one of two processes has committed its answer is reachable. -/
lemma reachable_decided : Reachable (Service.standalone .small) decided := by
  have hnoted : Step (Service.standalone .small) (start (Service.standalone .small) ()) noted :=
    .ingest true ⟨0⟩ false _
  have hone := run_noteFlight noted rfl true
  have htwo := run_noteFlight _ (rfl : (noted.withAnswer (Service.standalone .small)
    (noteFlight true) (noteAnswer true)).store = noted.store) false
  exact ⟨(), ((hone.head hnoted).trans htwo).tail (step_withCommitment rfl)⟩

end Site

/-- In every site that processes reach from an empty store, in whatever order their steps follow
each other: the vector of a chunk is the one that the provider gave for its text, in an accepted
reply to a batch that held the chunk; a step adds vectors for pending chunks only; a chunk that is
gone has no vector ever after; an embedded chunk stays as it is with its vector until it is gone;
and a commitment tells of each chunk of its batch whether it counted, unless a statement is refused,
and then nothing has changed. -/
theorem embedding_race_safe {svc : Service σ} [DecidableEq π] {s : Site σ π}
    (hfresh : Function.Injective svc.fresh) (hs : Site.Reachable svc s) :
    (∀ v ∈ s.store.vectors, ∃ c ∈ s.store.chunks, c.id = v.chunk ∧ c.status = .embedded ∧
        ∃ reply ∈ s.replies, reply.Proper svc ∧ reply.Gave c v) ∧
      (∀ s', Site.Step svc s s' → ∀ v ∈ s'.store.vectors,
        v ∈ s.store.vectors ∨ s.store.isPending v.chunk) ∧
      (∀ c ∈ s.store.chunks, ∀ s', Site.Run svc s s' → s'.Lacks c.id → ∀ s'', Site.Run svc s' s'' →
        s''.Lacks c.id ∧ ∀ v ∈ s''.store.vectors, v.chunk ≠ c.id) ∧
      (∀ c v, s.Holds c v → c.status = .embedded → v.chunk = c.id → ∀ s', Site.Run svc s s' →
        s'.Holds c v ∨ s'.Lacks c.id) ∧
      ∀ f ∈ s.flights, ∀ vs, f.phase = .answered vs → ∀ now cancelled,
        (∃ embedded skipped w', perform (svc.commit f.tenant f.record f.batch vs)
            (s.view f.process now cancelled) = (.ok (.embedded embedded skipped), w') ∧
              embedded + skipped = f.batch.length) ∨
          ∃ st ∈ s.store.refused, perform (svc.commit f.tenant f.record f.batch vs)
            (s.view f.process now cancelled) =
              (.error (.storage (.refused st)), s.view f.process now cancelled) := by
  have hsafe := hs.safe hfresh
  refine ⟨?_, ?_, ?_, ?_, ?_⟩
  · intro v hv
    obtain ⟨c, hc, hid, reply, hreply, hgave⟩ := hsafe.provenance v hv
    obtain ⟨c', hc', hid', hstatus⟩ := hsafe.sound.vectors.backed v hv
    rw [hsafe.sound.chunks.eq_of_id hc' hc (hid'.trans hid.symm)] at hstatus
    exact ⟨c, hc, hid, hstatus, reply, hreply, hsafe.reply reply hreply, hgave⟩
  · intro s' hstep
    exact (hstep.advances hfresh hsafe).succeeds.vector
  · intro c hc s' hrun hlacks s'' hrun'
    have hsafe' := Site.Run.safe hrun hfresh hsafe
    have hdrawn := (hsafe.chunkDrawn c hc).mono (Site.Run.drawn_le hrun hfresh hsafe)
    have hgone := Site.Run.lacks hrun' hfresh hsafe' hdrawn hlacks
    exact ⟨hgone, (Site.Run.safe hrun' hfresh hsafe').not_vector_of_lacks hgone⟩
  · intro c v hholds hstatus hchunk s' hrun
    exact Site.Run.holds_or_lacks hrun hfresh hsafe hholds hstatus hchunk
  · intro f hf vs hanswered now cancelled
    refine Service.commit_ok_or_refused f.tenant f.record ?_
    intro v hv
    rw [(hsafe.proper_of_answered hf hanswered).dimension v hv]
    exact (hsafe.dimension f.process).symm

/-- Two processes have embedded the same chunks, and one of them has committed its answer. -/
theorem embedding_race_safe_decided :
    let svc := Service.standalone .small
    let s := Site.decided
    Function.Injective svc.fresh ∧ Site.Reachable svc s ∧ s.store.vectors ≠ [] ∧ s.flights ≠ [] ∧
      (∀ v ∈ s.store.vectors, ∃ c ∈ s.store.chunks, c.id = v.chunk ∧ c.status = .embedded ∧
        ∃ reply ∈ s.replies, reply.Proper svc ∧ reply.Gave c v) ∧
      (∀ s', Site.Step svc s s' → ∀ v ∈ s'.store.vectors,
        v ∈ s.store.vectors ∨ s.store.isPending v.chunk) ∧
      (∀ c ∈ s.store.chunks, ∀ s', Site.Run svc s s' → s'.Lacks c.id → ∀ s'', Site.Run svc s' s'' →
        s''.Lacks c.id ∧ ∀ v ∈ s''.store.vectors, v.chunk ≠ c.id) ∧
      (∀ c v, s.Holds c v → c.status = .embedded → v.chunk = c.id → ∀ s', Site.Run svc s s' →
        s'.Holds c v ∨ s'.Lacks c.id) ∧
      ∀ f ∈ s.flights, ∀ vs, f.phase = .answered vs → ∀ now cancelled,
        (∃ embedded skipped w', perform (svc.commit f.tenant f.record f.batch vs)
            (s.view f.process now cancelled) = (.ok (.embedded embedded skipped), w') ∧
              embedded + skipped = f.batch.length) ∨
          ∃ st ∈ s.store.refused, perform (svc.commit f.tenant f.record f.batch vs)
            (s.view f.process now cancelled) =
              (.error (.storage (.refused st)), s.view f.process now cancelled) := by
  have hfresh : Function.Injective (Service.standalone .small).fresh :=
    fun _ _ h => congrArg Id.number h
  exact ⟨hfresh, Site.reachable_decided, by decide +kernel, List.cons_ne_nil _ _,
    embedding_race_safe hfresh Site.reachable_decided⟩

end Dossier
