import Dossier.Proofs.Service.Race
import Dossier.Proofs.Service.Search

/-!
# Catching up with other processes

Services of different configurations share a store, and each takes over from time to time what the
others have written.  A `Site.Turn` is one operation of one of them from its beginning to its end,
or one transaction of an operation whose other parts come earlier or later; nothing is assumed of
the order.  What others do while a provider is called is a turn of its own.  Whatever turns were
taken, every process tracks the store (`Site.Aligned`), and so a process that takes over what was
written since has all that its index can hold (`sync_misses_nothing`).
-/

namespace Dossier

variable {σ π : Type}

/-! ### What a process does -/

/-- What comes of a process whose memory tracks a keyed store: the same, with a store that has come
of the one before. -/
structure World.Proceeds (svc : Service σ) (w w' : World σ) : Prop where
  keyed : w'.store.Keyed
  tracks : w'.memory.Tracks w'.store
  ensues : Store.Ensues (svc.DrawnBetween w.drawn w'.drawn) w.store w'.store
  drawn : w.drawn ≤ w'.drawn

namespace World.Proceeds

variable {svc : Service σ} {u v w w' : World σ}

/-- A process that does nothing proceeds. -/
lemma refl (hs : w.store.Keyed) (hw : w.memory.Tracks w.store) : Proceeds svc w w :=
  ⟨hs, hw, (Store.SameTables.refl _).ensues, Nat.le_refl _⟩

/-- A process that proceeds twice proceeds. -/
lemma trans (h : Proceeds svc u v) (h' : Proceeds svc v w) : Proceeds svc u w where
  keyed := h'.keyed
  tracks := h'.tracks
  ensues := by
    have hfirst := h.drawn
    have hsecond := h'.drawn
    have hearly : Store.Ensues (svc.DrawnBetween u.drawn w.drawn) u.store v.store := by
      refine h.ensues.mono ?_
      rintro id ⟨k, hle, hlt, hid⟩
      exact ⟨k, hle, by omega, hid⟩
    have hlate : Store.Ensues (svc.DrawnBetween u.drawn w.drawn) v.store w.store := by
      refine h'.ensues.mono ?_
      rintro id ⟨k, hle, hlt, hid⟩
      exact ⟨k, by omega, hlt, hid⟩
    exact hearly.trans hlate
  drawn := Nat.le_trans h.drawn h'.drawn

/-- A step that keeps tables and indexes proceeds. -/
lemma of_still (hs : w.store.Keyed) (hw : w.memory.Tracks w.store) (h : w.Still w') :
    Proceeds svc w w' :=
  ⟨hs.of_sameTables h.tables, hw.still h, h.tables.ensues, h.drawn⟩

end World.Proceeds

variable {svc : Service σ} {w w' : World σ}

/-- A process proceeds behind the transaction of a draft. -/
lemma Draft.Staging.proceeds {d : Draft} {now : Instant} {staged : Staged} {s : Store}
    (h : d.Staging (fun n => svc.fresh (w.drawn + n)) now w.store staged s) (hs : w.store.Keyed)
    (hw : w.memory.Tracks w.store) :
    w.Proceeds svc { w with
      store := s
      memory := staged.applyTo w.memory
      drawn := w.drawn + staged.rows.length + 1 } := by
  have hensues := Store.ensues_staging hs.owner h
  have hgone : ∀ v ∈ s.vectors, v.chunk ∉ staged.replaced :=
    fun v hv => ((Store.mem_vectors_staging h).mp hv).2
  refine ⟨h.keyed hs, (hw.of_ensues hensues).without hgone rfl rfl, ?_, ?_⟩
  · refine hensues.mono ?_
    rintro id ⟨k, hk, hid⟩
    refine ⟨w.drawn + k, Nat.le_add_right _ _, ?_, hid⟩
    change w.drawn + k < w.drawn + staged.rows.length + 1
    omega
  · change w.drawn ≤ w.drawn + staged.rows.length + 1
    omega

/-- A process proceeds behind the retirement of any record. -/
lemma World.proceeds_retired (hs : w.store.Keyed) (hw : w.memory.Tracks w.store) (r : Record)
    (now : Instant) :
    w.Proceeds svc { w with
      store := w.store.retired r now
      memory := w.memory.without (w.store.chunkIds r.id) } := by
  have hensues : Store.Ensues (svc.DrawnBetween w.drawn w.drawn) w.store (w.store.retired r now) :=
    Store.ensues_retired _ _ _
  have hgone : ∀ v ∈ (w.store.retired r now).vectors, v.chunk ∉ w.store.chunkIds r.id :=
    fun v hv => (Store.mem_vectorsBeside_iff.mp hv).2
  exact ⟨hs.retired r now, (hw.of_ensues hensues).without hgone rfl rfl, hensues, Nat.le_refl _⟩

/-- A process proceeds behind the commitment of a batch of which it knows, whatever its vectors. -/
lemma Store.Knows.proceeds {tenant : String} {record : Id} {batch : List (StoredChunk × Vec)}
    (h : w.store.Knows tenant record (batch.map (·.1))) (hs : w.store.Keyed)
    (hw : w.memory.Tracks w.store) (version : String) (now : Instant) :
    w.Proceeds svc { w with
      store := w.store.committed tenant record version now batch
      memory := w.memory.takingIn (Store.counted tenant version w.store batch) } :=
  ⟨hs.committed h version now, hw.committed hs _ _ _ _ _, Store.ensues_committed _ _ _ _ _ _,
    Nat.le_refl _⟩

/-- A process proceeds behind a change of states of embedding beside the embedded chunks. -/
lemma Store.BesideEmbedded.proceeds {which : StoredChunk → Bool}
    {change : StoredChunk → StoredChunk} (h : BesideEmbedded which change) (hs : w.store.Keyed)
    (hw : w.memory.Tracks w.store) :
    w.Proceeds svc { w with store := w.store.changeChunks which change } := by
  have hensues : Store.Ensues (svc.DrawnBetween w.drawn w.drawn) w.store
      (w.store.changeChunks which change) := Store.ensues_changeChunks h.place
  exact ⟨hs.changeChunks h, hw.of_ensues hensues, hensues, Nat.le_refl _⟩

/-- A process proceeds behind a move. -/
lemma Move.proceeds (h : Move svc w w') (hs : w.store.Keyed) (hw : w.memory.Tracks w.store) :
    w.Proceeds svc w' := by
  cases h with
  | of tenant h =>
    cases h with
    | still h => exact .of_still hs hw h
    | staged htenant hd h => exact h.proceeds hs hw
    | retired hr htenant now => exact World.proceeds_retired hs hw _ now
    | @committed record vs now hlength hdim =>
      rcases hs.zip_pendingOf_cases tenant record vs with hnone | hknows
      · rw [hnone]
        exact .refl hs hw
      · exact hknows.proceeds hs hw svc.version now
    | failed record error => exact (Store.besideEmbedded_failed _ error).proceeds hs hw
    | followed h =>
      exact ⟨hs, hw.followed hs h, (Store.SameTables.refl _).ensues, Nat.le_refl _⟩
  | requeued => exact (Store.besideEmbedded_requeued w.store).proceeds hs hw
  | rebuilt hsources hrows =>
    exact ⟨hs, .rebuilt hs hrows, (Store.SameTables.refl _).ensues, Nat.le_refl _⟩

/-- A process proceeds behind any number of moves. -/
lemma Moves.proceeds (h : Moves svc w w') (hs : w.store.Keyed) (hw : w.memory.Tracks w.store) :
    w.Proceeds svc w' := by
  induction h with
  | refl => exact .refl hs hw
  | tail _ hmove ih => exact ih.trans (hmove.proceeds ih.keyed ih.tracks)

/-- A process proceeds behind a step of its service. -/
lemma Step.proceeds (h : Step svc w w') (hq : svc.Quiet) (hs : w.store.Keyed)
    (hw : w.memory.Tracks w.store) : w.Proceeds svc w' := by
  cases h with
  | operation op => exact (op.moves hq w).proceeds hs hw
  | elapse now cancelled outside bus refused =>
    exact .of_still hs hw ⟨⟨rfl, rfl, rfl, rfl⟩, rfl, rfl, rfl, Nat.le_refl _⟩
  | restart => exact ⟨hs, .of_unseen hs rfl rfl, (Store.SameTables.refl _).ensues, Nat.le_refl _⟩

namespace Service

/-- A process proceeds that refreshes a record, whatever has become of the record since it was
looked up. -/
lemma proceeds_refresh (e : RecordChanged) (r : Record) (hs : w.store.Keyed)
    (hw : w.memory.Tracks w.store) : w.Proceeds svc (stateAfter (svc.refresh e r) w) := by
  obtain ⟨o, -, ⟨cause, h⟩ | ⟨d, staged, s, -, -, -, hstaging, h⟩⟩ := svc.perform_refresh e r w
  · rw [stateAfter_eq h]
    exact .of_still hs hw ⟨.refl _, rfl, rfl, rfl, Nat.le_refl _⟩
  · rw [stateAfter_eq h]
    set u : World σ := { w with store := w.store.dropVectors r.id }
    have hensues : Store.Ensues (svc.DrawnBetween w.drawn w.drawn) w.store u.store :=
      Store.ensues_dropVectors r.id
    have hdropped : w.Proceeds svc u :=
      ⟨hs.dropVectors r.id, hw.of_ensues hensues, hensues, Nat.le_refl _⟩
    have hstaged := hdropped.trans (hstaging.proceeds hdropped.keyed hdropped.tracks)
    exact hstaged.trans
      (.of_still hstaged.keyed hstaged.tracks ⟨.refl _, rfl, rfl, rfl, Nat.le_refl _⟩)

/-- A process proceeds that retires a record, whatever has become of the record since it was looked
up. -/
lemma proceeds_retire (r : Record) (hs : w.store.Keyed) (hw : w.memory.Tracks w.store) :
    w.Proceeds svc (stateAfter (retire r) w) := by
  rcases stateAfter_retire r w with h | h
  · rw [h]
    exact .refl hs hw
  · rw [h]
    exact World.proceeds_retired hs hw r w.now

/-- A process proceeds that commits vectors for a batch of which it knows. -/
lemma proceeds_commit {tenant : String} {record : Id} {batch : List StoredChunk}
    (h : w.store.Knows tenant record batch) (vs : List Vec) (hs : w.store.Keyed)
    (hw : w.memory.Tracks w.store) :
    w.Proceeds svc (stateAfter (svc.commit tenant record batch vs) w) := by
  have hknows : w.store.Knows tenant record ((batch.zip vs).map (·.1)) := by
    refine h.mono fun c hc => ?_
    obtain ⟨pair, hpair, rfl⟩ := List.mem_map.mp hc
    exact (List.of_mem_zip hpair).1
  rcases stateAfter_commit svc tenant record batch vs w with h | h
  · rw [h]
    exact .refl hs hw
  · rw [h]
    exact hknows.proceeds hs hw svc.version w.now

/-- A process proceeds that marks chunks as failed. -/
lemma proceeds_fail (batch : List StoredChunk) (e : ServiceError) (hs : w.store.Keyed)
    (hw : w.memory.Tracks w.store) : w.Proceeds svc (stateAfter (fail batch e) w) := by
  rcases stateAfter_fail batch e w with h | h
  · rw [h]
    exact .refl hs hw
  · rw [h]
    exact (Store.besideEmbedded_failed _ _).proceeds hs hw

/-- A process proceeds that queues failed chunks again. -/
lemma proceeds_requeue (hs : w.store.Keyed) (hw : w.memory.Tracks w.store) :
    w.Proceeds svc (stateAfter (Action.store Store.requeueFailed) w) := by
  rcases stateAfter_requeue w with h | h
  · rw [h]
    exact .refl hs hw
  · rw [h]
    exact (Store.besideEmbedded_requeued w.store).proceeds hs hw

end Service

/-! ### Turns -/

namespace Site

/-- Services that draw from one supply of identifiers, which gives none of them twice. -/
def DrawApart (svc : π → Service σ) : Prop :=
  ∀ p q i j, (svc p).fresh i = (svc q).fresh j → i = j

/-- Is an identifier among the first `n` that services drew? -/
def Drawn (svc : π → Service σ) (n : Nat) (id : Id) : Prop := ∃ p, (svc p).Drawn n id

/-- A site of services at its beginning: an empty store and processes that have just started. -/
def opened (svc : π → Service σ) (outside : σ) : Site σ π where
  store := {}
  memory := fun p => .fresh (svc p).dimension
  drawn := 0
  outside
  flights := []
  leads := []
  replies := []

/-- What holds of a site whatever turns were taken: its store is keyed, every process tracks it, its
identifiers were drawn, and whoever has listed a batch still knows of it. -/
structure Aligned (svc : π → Service σ) (s : Site σ π) : Prop where
  keyed : s.store.Keyed
  tracks : ∀ p, (s.memory p).Tracks s.store
  chunkDrawn : ∀ c ∈ s.store.chunks, Drawn svc s.drawn c.id
  recordDrawn : ∀ r ∈ s.store.records, Drawn svc s.drawn r.id
  knows : ∀ f ∈ s.flights, s.store.Knows f.tenant f.record f.batch
  listed : ∀ f ∈ s.flights, (∀ c ∈ f.batch, Drawn svc s.drawn c.id) ∧ Drawn svc s.drawn f.record

variable {svc : π → Service σ} {s s' : Site σ π}

/-- An identifier that was drawn is not drawn again by any of the services. -/
lemma Drawn.not_drawnBetween (h : DrawApart svc) {n m : Nat} {id : Id} (hid : Drawn svc n id)
    (p : π) : ¬ (svc p).DrawnBetween n m id := by
  obtain ⟨q, k, hk, hq⟩ := hid
  rintro ⟨k', hle, -, hp⟩
  have heq := h q p k k' (hq.symm.trans hp)
  omega

/-- More identifiers were drawn later. -/
lemma Drawn.mono {n m : Nat} {id : Id} (h : Drawn svc n id) (hle : n ≤ m) : Drawn svc m id := by
  obtain ⟨p, hp⟩ := h
  exact ⟨p, hp.mono hle⟩

/-- A site is aligned at its beginning. -/
lemma aligned_opened (svc : π → Service σ) (outside : σ) : Aligned svc (opened svc outside) where
  keyed := Store.keyed_empty
  tracks := fun _ => .of_unseen Store.keyed_empty rfl rfl
  chunkDrawn := by simp [opened]
  recordDrawn := by simp [opened]
  knows := by simp [opened]
  listed := by simp [opened]

variable [DecidableEq π]

/-- One turn of a process: a step of its service, which is a whole operation, a new start, or time
that passes; or one transaction of an operation.  A refresh and a retirement are of any record that
was looked up at some time; a batch that was listed is committed with any vectors or fails for any
reason, at any time and any number of times. -/
inductive Turn (svc : π → Service σ) : Site σ π → Site σ π → Prop
  | step {s : Site σ π} (p : π) (now : Instant) (cancelled : Bool) {w : World σ}
      (h : Dossier.Step (svc p) (s.view p now cancelled) w) : Turn svc s (s.after p w)
  | refresh {s : Site σ π} (p : π) (now : Instant) (cancelled : Bool) (e : RecordChanged)
      (r : Record) :
      Turn svc s (s.after p (stateAfter ((svc p).refresh e r) (s.view p now cancelled)))
  | retire {s : Site σ π} (p : π) (now : Instant) (cancelled : Bool) (r : Record) :
      Turn svc s (s.after p (stateAfter (Service.retire r) (s.view p now cancelled)))
  | requeue {s : Site σ π} (p : π) (now : Instant) (cancelled : Bool) :
      Turn svc s (s.after p
        (stateAfter (Action.store Store.requeueFailed) (s.view p now cancelled)))
  | list {s : Site σ π} (p : π) {tenant : String} {record : Id} {batch : List StoredChunk}
      (h : perform (Store.listPending tenant record) s.store = (.ok batch, s.store))
      (hsome : batch ≠ []) :
      Turn svc s { s with flights := ⟨p, tenant, record, batch, .asked⟩ :: s.flights }
  | commit {s : Site σ π} {f : Flight π} (now : Instant) (cancelled : Bool) (hf : f ∈ s.flights)
      (vs : List Vec) :
      Turn svc s (s.after f.process
        (stateAfter ((svc f.process).commit f.tenant f.record f.batch vs)
          (s.view f.process now cancelled)))
  | fail {s : Site σ π} {f : Flight π} (now : Instant) (cancelled : Bool) (hf : f ∈ s.flights)
      (e : ServiceError) :
      Turn svc s (s.after f.process
        (stateAfter (Service.fail f.batch e) (s.view f.process now cancelled)))

/-- A site that turns of services lead to from its beginning. -/
def Attainable (svc : π → Service σ) (s : Site σ π) : Prop :=
  ∃ outside, Relation.ReflTransGen (Turn svc) (opened svc outside) s

/-- A site is aligned behind what one process has done: it tracks the store itself, and the others
track what has become of the store. -/
lemma Aligned.after (hs : Aligned svc s) (hdraw : DrawApart svc) (p : π) {now : Instant}
    {cancelled : Bool} {w : World σ}
    (h : (s.view p now cancelled).Proceeds (svc p) w) : Aligned svc (s.after p w) := by
  have hensues : Store.Ensues ((svc p).DrawnBetween s.drawn w.drawn) s.store w.store := h.ensues
  have hdrawn : s.drawn ≤ w.drawn := h.drawn
  have hnew : ∀ id, (svc p).DrawnBetween s.drawn w.drawn id → Drawn svc w.drawn id :=
    fun id hid => ⟨p, hid.drawn⟩
  refine ⟨h.keyed, ?tracks, ?chunkDrawn, ?recordDrawn, ?knows, ?listed⟩
  case tracks =>
    intro q
    change (Function.update s.memory p w.memory q).Tracks w.store
    by_cases hq : q = p
    · subst hq
      rw [Function.update_self]
      exact h.tracks
    · rw [Function.update_of_ne hq]
      exact (hs.tracks q).of_ensues hensues
  case chunkDrawn =>
    intro c hc
    rcases hensues.chunk c hc with ⟨held, hheld, hplace⟩ | hid
    · have heq : held.id = c.id := congrArg Place.id hplace
      rw [← heq]
      exact (hs.chunkDrawn held hheld).mono hdrawn
    · exact hnew c.id hid
  case recordDrawn =>
    intro r hr
    rcases hensues.record r hr with ⟨held, hheld, hsame⟩ | hid
    · rw [hsame.id]
      exact (hs.recordDrawn held hheld).mono hdrawn
    · exact hnew r.id hid
  case knows =>
    intro f hf
    obtain ⟨hbatch, hrecord⟩ := hs.listed f hf
    exact (hs.knows f hf).of_ensues hensues (fun c hc => (hbatch c hc).not_drawnBetween hdraw p)
      (hrecord.not_drawnBetween hdraw p)
  case listed =>
    intro f hf
    obtain ⟨hbatch, hrecord⟩ := hs.listed f hf
    exact ⟨fun c hc => (hbatch c hc).mono hdrawn, hrecord.mono hdrawn⟩

/-- Every turn keeps a site aligned. -/
lemma Turn.aligned (h : Turn svc s s') (hq : ∀ p, (svc p).Quiet) (hdraw : DrawApart svc)
    (hs : Aligned svc s) : Aligned svc s' := by
  cases h with
  | step p now cancelled h => exact hs.after hdraw p (h.proceeds (hq p) hs.keyed (hs.tracks p))
  | refresh p now cancelled e r =>
    exact hs.after hdraw p (Service.proceeds_refresh e r hs.keyed (hs.tracks p))
  | retire p now cancelled r =>
    exact hs.after hdraw p (Service.proceeds_retire r hs.keyed (hs.tracks p))
  | requeue p now cancelled =>
    exact hs.after hdraw p (Service.proceeds_requeue hs.keyed (hs.tracks p))
  | @list p tenant record batch h hsome =>
    obtain ⟨-, hbatch, -⟩ := Store.perform_reading_eq_ok.mp h
    have hpending : batch = s.store.pendingOf tenant record := hbatch.symm
    subst hpending
    obtain ⟨c, hc⟩ := List.exists_mem_of_ne_nil _ hsome
    obtain ⟨-, -, -, r, hr, hid, -⟩ := Store.mem_pendingOf hc
    refine ⟨hs.keyed, hs.tracks, hs.chunkDrawn, hs.recordDrawn, ?_, ?_⟩
    · intro f hf
      rcases List.mem_cons.mp hf with rfl | hold
      · exact hs.keyed.knows_pendingOf hsome
      · exact hs.knows f hold
    · intro f hf
      rcases List.mem_cons.mp hf with rfl | hold
      · refine ⟨fun c hc => hs.chunkDrawn c (Store.mem_pendingOf hc).1, ?_⟩
        rw [← hid]
        exact hs.recordDrawn r hr
      · exact hs.listed f hold
  | commit now cancelled hf vs =>
    exact hs.after hdraw _ (Service.proceeds_commit (hs.knows _ hf) vs hs.keyed (hs.tracks _))
  | fail now cancelled hf e =>
    exact hs.after hdraw _ (Service.proceeds_fail _ e hs.keyed (hs.tracks _))

/-- Every attainable site is aligned. -/
lemma Attainable.aligned (h : Attainable svc s) (hq : ∀ p, (svc p).Quiet)
    (hdraw : DrawApart svc) : Aligned svc s := by
  obtain ⟨outside, hturns⟩ := h
  induction hturns with
  | refl => exact aligned_opened svc outside
  | tail _ hturn ih => exact hturn.aligned hq hdraw ih

/-- Operations of processes, one after the other. -/
def works (svc : π → Service σ) (s : Site σ π) (ops : List (π × Operation)) : Site σ π :=
  ops.foldl (fun s op => s.after op.1 (op.2.run (svc op.1) (s.view op.1 ⟨0⟩ false))) s

/-- Operations of processes lead from attainable sites to attainable ones. -/
lemma Attainable.works (h : Attainable svc s) (ops : List (π × Operation)) :
    Attainable svc (s.works svc ops) := by
  induction ops generalizing s with
  | nil => exact h
  | cons op rest ih =>
    obtain ⟨outside, hturns⟩ := h
    exact ih ⟨outside, hturns.tail (.step op.1 ⟨0⟩ false (.operation op.2))⟩

end Site

/-- Whatever turns processes over one store have taken, be they configured as they may: when one of
them has taken over what was written since the last time, its index maps every chunk of a live
record that has a stored vector of the dimension of the index to the value of this vector. -/
theorem sync_misses_nothing {svc : π → Service σ} [DecidableEq π] {s : Site σ π}
    (hq : ∀ p, (svc p).Quiet) (hdraw : Site.DrawApart svc) (hs : Site.Attainable svc s) {p : π}
    {now : Instant} {cancelled : Bool} {n : Nat} {w : World σ}
    (hsync : perform Service.sync (s.view p now cancelled) = (.ok n, w)) :
    ∀ ctx ∈ w.store.liveChunks, ∀ v ∈ w.store.vectors, v.chunk = ctx.chunk.id →
      v.dimension = w.memory.vectors.dimension →
        ∃ x, Vec.parse v.text = .ok x ∧ w.memory.vectors.find? ctx.chunk.id = some x := by
  have haligned := hs.aligned hq hdraw
  have htracks := haligned.tracks p
  obtain ⟨rows, hrows, rfl⟩ := Service.sync_eq_ok hsync
  intro ctx _ v hv hchunk hdim
  have hown : v.dimension = (s.memory p).vectors.dimension :=
    hdim.trans (Memory.dimension_follow _ _)
  obtain ⟨x, hx, hmem⟩ := htracks.seen_follow haligned.keyed hrows hv hown
  have hfound := VectorIndex.find?_eq_some (htracks.followed haligned.keyed hrows).named hmem
  rw [← hchunk]
  exact ⟨x, Store.StoredVector.value_eq_ok_iff.mp hx, hfound⟩

/-- Two services of different configurations over one store. -/
def Service.pair (first : Bool) : Service Unit := standalone (if first then .small else .narrow)

/-- The first of two processes keeps a note and embeds it, and the second takes it over and replaces
it; then the first embeds the new note. -/
def Site.shared : Site Unit Bool :=
  (Site.opened Service.pair ()).works Service.pair
    [(true, .ingest (.sampleNote "acme" "Call" "Renewal is due.")), (true, .embedBacklog),
      (false, .sync), (false, .ingest (.sampleNote "acme" "Mail" "Renewal is done.")),
      (true, .embedBacklog)]

/-- The second of two processes takes over what the first has embedded in the meantime. -/
theorem sync_misses_nothing_shared :
    (∀ p, (Service.pair p).Quiet) ∧ Site.DrawApart Service.pair ∧
      Site.Attainable Service.pair Site.shared ∧
      ∃ n w, perform Service.sync (Site.shared.view false ⟨0⟩ false) = (.ok n, w) ∧
        (∃ ctx ∈ w.store.liveChunks, ∃ v ∈ w.store.vectors, v.chunk = ctx.chunk.id ∧
          (Site.shared.memory false).vectors.find? ctx.chunk.id = none ∧
          ∃ x, Vec.parse v.text = .ok x ∧ w.memory.vectors.find? ctx.chunk.id = some x) := by
  have hq : ∀ p, (Service.pair p).Quiet := fun p => Service.quiet_standalone _
  have hdraw : Site.DrawApart Service.pair := fun _ _ _ _ h => congrArg Id.number h
  have hs : Site.Attainable Service.pair Site.shared :=
    Site.Attainable.works ⟨(), .refl⟩ _
  obtain ⟨rows, hrows⟩ := (hs.aligned hq hdraw).keyed.exists_listedAfter
    (Site.shared.memory false).watermark
  have hlisting : Statement.listVectors ∉ Site.shared.store.refused := by decide +kernel
  have hsync := Service.perform_sync (w := Site.shared.view false ⟨0⟩ false) hlisting hrows
  have hnew : ∃ ctx ∈ Site.shared.store.liveChunks, ∃ v ∈ Site.shared.store.vectors,
      v.chunk = ctx.chunk.id ∧ v.dimension = 2 ∧
        (Site.shared.memory false).vectors.find? ctx.chunk.id = none := by decide +kernel
  obtain ⟨ctx, hctx, v, hv, hchunk, hdim, hnone⟩ := hnew
  have hfits : v.dimension = ((Site.shared.memory false).follow rows).vectors.dimension := by
    rw [Memory.dimension_follow, hdim]
    decide +kernel
  exact ⟨hq, hdraw, hs, _, _, hsync, ctx, hctx, v, hv, hchunk, hnone,
    sync_misses_nothing hq hdraw hs hsync ctx hctx v hv hchunk hfits⟩

end Dossier
