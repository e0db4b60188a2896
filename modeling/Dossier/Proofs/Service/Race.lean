import Dossier.Proofs.Service.Site
import Dossier.Proofs.Service.Watermark

/-!
# Races between runs of embedding

Whatever else happens between the moment at which chunks are listed and the commitment of their
vectors, a vector is only ever written for a chunk that is still pending, and it is the one that the
provider gave for the text of this chunk.  The invariant is `Site.Safe`: whoever runs an embedding
still knows the places of the chunks that it has listed, because identifiers are drawn only once.
-/

namespace Dossier

variable {σ π : Type}

namespace Service

variable (svc : Service σ)

/-- Is an identifier among the first `n` that were drawn? -/
def Drawn (n : Nat) (id : Id) : Prop := ∃ k < n, id = svc.fresh k

/-- Was an identifier drawn when `n` and before `m` identifiers were drawn? -/
def DrawnBetween (n m : Nat) (id : Id) : Prop := ∃ k, n ≤ k ∧ k < m ∧ id = svc.fresh k

variable {svc}

/-- More identifiers were drawn later. -/
lemma Drawn.mono {n m : Nat} {id : Id} (h : svc.Drawn n id) (hle : n ≤ m) : svc.Drawn m id := by
  obtain ⟨k, hk, hid⟩ := h
  exact ⟨k, Nat.lt_of_lt_of_le hk hle, hid⟩

/-- An identifier that was drawn between two moments was drawn by the second. -/
lemma DrawnBetween.drawn {n m : Nat} {id : Id} (h : svc.DrawnBetween n m id) : svc.Drawn m id := by
  obtain ⟨k, -, hk, hid⟩ := h
  exact ⟨k, hk, hid⟩

/-- An identifier that was drawn is not drawn again. -/
lemma Drawn.not_drawnBetween (hfresh : Function.Injective svc.fresh) {n m : Nat} {id : Id}
    (h : svc.Drawn n id) : ¬ svc.DrawnBetween n m id := by
  obtain ⟨k, hk, hid⟩ := h
  rintro ⟨k', hle, -, hid'⟩
  have heq : k = k' := hfresh (hid.symm.trans hid')
  omega

end Service

/-! ### What was answered -/

/-- A reply to the texts of a batch: the provider gave it, with one vector of the right dimension
for every text. -/
structure Reply.Proper (svc : Service σ) (reply : Reply) : Prop where
  given : ∃ o, (svc.embed (reply.batch.map (·.text)) o).outcome = .ok reply.vectors
  length : reply.vectors.length = reply.batch.length
  dimension : ∀ x ∈ reply.vectors, x.length = svc.dimension

/-- A stored vector is the one that a reply has at the position at which a chunk with its text was
asked about. -/
def Reply.Gave (reply : Reply) (c : StoredChunk) (v : StoredVector) : Prop :=
  ∃ (i : Nat) (asked : StoredChunk) (x : Vec), reply.batch[i]? = some asked ∧ asked.id = c.id ∧
    asked.text = c.text ∧ reply.vectors[i]? = some x ∧ v.text = x.text ∧ v.dimension = x.length

namespace Site

/-! ### The invariant -/

/-- What a run of embedding under way may rely on: where its chunks are if they are still there, and
that its answer was accepted. -/
structure FlightSafe (svc : Service σ) (s : Site σ π) (f : Flight π) : Prop where
  knows : s.store.Knows f.tenant f.record f.batch
  drawn : ∀ c ∈ f.batch, svc.Drawn s.drawn c.id
  record : svc.Drawn s.drawn f.record
  answered : ∀ vs, f.phase = .answered vs → ⟨f.batch, vs⟩ ∈ s.replies

/-- What a process may rely on that has found a record for a change: the record is still that of the
entity and its tenant, live or deleted. -/
structure LeadSafe (s : Site σ π) (lead : Lead) : Prop where
  tenant : lead.record.tenant = lead.change.tenant
  link : lead.record.link? = some lead.change.link
  held : ∃ held ∈ s.store.records, lead.record.SameAs held

/-- The vector of a stored chunk comes of an accepted reply. -/
def Provenance (s : Site σ π) (v : StoredVector) : Prop :=
  ∃ c ∈ s.store.chunks, c.id = v.chunk ∧ ∃ reply ∈ s.replies, reply.Gave c v

/-- The invariant of a site. -/
structure Safe (svc : Service σ) (s : Site σ π) : Prop where
  sound : svc.Keeps s.store
  dimension : ∀ p, (s.memory p).vectors.dimension = svc.dimension
  chunkDrawn : ∀ c ∈ s.store.chunks, svc.Drawn s.drawn c.id
  recordDrawn : ∀ r ∈ s.store.records, svc.Drawn s.drawn r.id
  flight : ∀ f ∈ s.flights, FlightSafe svc s f
  lead : ∀ lead ∈ s.leads, LeadSafe s lead
  reply : ∀ reply ∈ s.replies, reply.Proper svc
  provenance : ∀ v ∈ s.store.vectors, s.Provenance v

variable {svc : Service σ} {s s' : Site σ π}

/-- A site is safe at its beginning. -/
lemma safe_start (svc : Service σ) (outside : σ) : Safe svc (start svc outside : Site σ π) where
  sound := Store.sound_empty _ _
  dimension := fun _ => rfl
  chunkDrawn := by simp [start]
  recordDrawn := by simp [start]
  flight := by simp [start]
  lead := by simp [start]
  reply := by simp [start]
  provenance := by simp [start]

/-- What is known of a batch is still known when the store has changed, because the identifiers of
the batch and of its record are not drawn again. -/
lemma knows_of_succeeds (hfresh : Function.Injective svc.fresh) {f : Flight π}
    (h : FlightSafe svc s f) {m : Nat} {t : Store}
    (hsucceeds : Store.Succeeds (svc.DrawnBetween s.drawn m) s.store t) :
    t.Knows f.tenant f.record f.batch :=
  h.knows.of_ensues hsucceeds.toEnsues (fun c hc => (h.drawn c hc).not_drawnBetween hfresh)
    (h.record.not_drawnBetween hfresh)

/-- A stored vector that is still there has the same chunk with the same text. -/
lemma provenance_of_succeeds (hs : Safe svc s) (hfresh : Function.Injective svc.fresh)
    (hsucceeds : Store.Succeeds (svc.DrawnBetween s.drawn s'.drawn) s.store s'.store)
    (hsound : svc.Keeps s'.store) (hreplies : s'.replies = s.replies) {v : StoredVector}
    (hv : v ∈ s'.store.vectors) (hold : v ∈ s.store.vectors) : s'.Provenance v := by
  obtain ⟨c, hc, hid, reply, hreply, i, asked, x, hasked, haskedId, htext, hx⟩ :=
    hs.provenance v hold
  obtain ⟨c', hc', hid', -⟩ := hsound.vectors.backed v hv
  have hplace : c'.place = c.place := by
    rcases hsucceeds.chunk c' hc' with ⟨held, hheld, hplace⟩ | hnew
    · have hheldId : held.id = c.id :=
        (congrArg Place.id hplace).trans (hid'.trans hid.symm)
      rw [← hplace, hs.sound.keyed.chunk_eq hheld hc hheldId]
    · rw [hid'.trans hid.symm] at hnew
      exact absurd hnew ((hs.chunkDrawn c hc).not_drawnBetween hfresh)
  refine ⟨c', hc', hid', reply, ?_, i, asked, x, hasked, ?_, ?_, hx⟩
  · rw [hreplies]
    exact hreply
  · exact haskedId.trans (congrArg Place.id hplace).symm
  · exact htext.trans (congrArg (·.extent.text) hplace).symm

/-- A site is safe behind a change of its store in which no flight was taken up, if every vector
that is new comes of an accepted reply. -/
lemma Safe.of_succeeds (hs : Safe svc s) (hfresh : Function.Injective svc.fresh)
    (hsucceeds : Store.Succeeds (svc.DrawnBetween s.drawn s'.drawn) s.store s'.store)
    (hsound : svc.Keeps s'.store) (hdrawn : s.drawn ≤ s'.drawn)
    (hdimension : ∀ p, (s'.memory p).vectors.dimension = svc.dimension)
    (hflights : ∀ f ∈ s'.flights, f ∈ s.flights) (hleads : s'.leads = s.leads)
    (hreplies : s'.replies = s.replies)
    (hvectors : ∀ v ∈ s'.store.vectors, v ∈ s.store.vectors ∨ s'.Provenance v) :
    Safe svc s' where
  sound := hsound
  dimension := hdimension
  chunkDrawn := by
    intro c hc
    rcases hsucceeds.chunk c hc with ⟨held, hheld, hplace⟩ | hnew
    · have hid : held.id = c.id := congrArg Place.id hplace
      rw [← hid]
      exact (hs.chunkDrawn held hheld).mono hdrawn
    · exact hnew.drawn
  recordDrawn := by
    intro r hr
    rcases hsucceeds.record r hr with ⟨held, hheld, hsame⟩ | hnew
    · rw [hsame.id]
      exact (hs.recordDrawn held hheld).mono hdrawn
    · exact hnew.drawn
  flight := by
    intro f hf
    have hsafe := hs.flight f (hflights f hf)
    refine ⟨knows_of_succeeds hfresh hsafe hsucceeds, fun c hc => (hsafe.drawn c hc).mono hdrawn,
      hsafe.record.mono hdrawn, ?_⟩
    rw [hreplies]
    exact hsafe.answered
  lead := by
    rw [hleads]
    intro lead hlead
    obtain ⟨htenant, hlink, held, hheld, hsame⟩ := hs.lead lead hlead
    obtain ⟨held', hheld', hsame'⟩ := hsucceeds.stays held hheld
    exact ⟨htenant, hlink, held', hheld', hsame.trans hsame'⟩
  reply := by
    rw [hreplies]
    exact hs.reply
  provenance := by
    intro v hv
    rcases hvectors v hv with hold | hnew
    · exact provenance_of_succeeds hs hfresh hsucceeds hsound hreplies hv hold
    · exact hnew

end Site

/-! ### Transactions of a process -/

/-- What a transaction other than the commitment of a batch leaves behind: a sound store that
succeeds the one before and has no new vectors. -/
structure World.Grows (svc : Service σ) (w w' : World σ) : Prop where
  sound : svc.Keeps w'.store
  succeeds : Store.Succeeds (svc.DrawnBetween w.drawn w'.drawn) w.store w'.store
  drawn : w.drawn ≤ w'.drawn
  dimension : w'.memory.vectors.dimension = w.memory.vectors.dimension
  vectors : ∀ v ∈ w'.store.vectors, v ∈ w.store.vectors

namespace World

variable {svc : Service σ} {w w' : World σ}

/-- A step that keeps tables and indexes has no new vectors. -/
lemma Still.grows (h : w.Still w') (hw : svc.Keeps w.store) : Grows svc w w' where
  sound := hw.of_sameTables h.tables
  succeeds := h.tables.succeeds
  drawn := h.drawn
  dimension := by rw [h.vectors]
  vectors := by
    rw [h.tables.vectors]
    exact fun v hv => hv

/-- A change of the states of embedding beside the embedded chunks has no new vectors. -/
lemma grows_changeChunks {which : StoredChunk → Bool} {change : StoredChunk → StoredChunk}
    (h : Store.BesideEmbedded which change) (hw : svc.Keeps w.store) :
    Grows svc w { w with store := w.store.changeChunks which change } where
  sound := hw.changeChunks h
  succeeds := h.succeeds
  drawn := Nat.le_refl _
  dimension := rfl
  vectors := fun _ hv => hv

/-- The transaction of a draft has no new vectors. -/
lemma vectors_of_staging {d : Draft} {fresh : Nat → Id} {now : Instant} {s t : Store}
    {staged : Staged} (h : d.Staging fresh now s staged t) {v : StoredVector}
    (hv : v ∈ t.vectors) : v ∈ s.vectors := by
  cases h with
  | created _ _ _ => exact hv
  | replaced _ _ => exact (Store.mem_vectorsBeside.mp hv).1

end World

/-- An operation on a draft has no new vectors. -/
lemma Drafted.grows {svc : Service σ} {tenant : String} {w w' : World σ}
    (h : Drafted svc tenant w w') (hw : svc.Keeps w.store) : World.Grows svc w w' := by
  cases h with
  | still h => exact h.grows hw
  | @staged d now staged s w' _ hd h hstill =>
    have hsucceeds := hw.succeeds_staging hd h
    have hdrawn := hstill.drawn
    dsimp only at hdrawn
    refine ⟨(h.sound hd hw).of_sameTables hstill.tables, ?_, by omega, ?_, ?_⟩
    · have hnew : ∀ id, (∃ k ≤ staged.rows.length, id = svc.fresh (w.drawn + k)) →
          svc.DrawnBetween w.drawn w'.drawn id := by
        rintro id ⟨k, hk, hid⟩
        exact ⟨w.drawn + k, by omega, by omega, hid⟩
      exact (hsucceeds.mono hnew).of_sameTables hstill.tables
    · rw [hstill.vectors]
      rfl
    · rw [hstill.tables.vectors]
      exact fun v hv => World.vectors_of_staging h hv

namespace Site

variable {svc : Service σ} {s s' : Site σ π}

/-- A record that was found for a change is spared by the drafts about its entity: if it is live, it
is the one that they replace, and if it is not, it has no chunks. -/
lemma LeadSafe.spares {lead : Lead} (h : LeadSafe s lead) (hs : svc.Keeps s.store) {d : Draft}
    (htenant : d.tenant = lead.record.tenant) (hentity : d.entity = some lead.change.link) :
    d.Spares s.store lead.record.id := by
  obtain ⟨-, hlink, held, hheld, hsame⟩ := h
  rw [← hsame.id]
  cases hlive : held.live
  · exact .inl (hs.chunksOf_of_not_live hheld hlive)
  · right
    have hfor : held.isLiveFor d.tenant lead.change.link := by
      rw [Record.isLiveFor_iff, htenant, hsame.tenant, hsame.link]
      exact ⟨hlive, rfl, hlink⟩
    unfold Draft.target?
    rw [hentity, Option.bind_some]
    rcases hfind : s.store.records.find? (·.isLiveFor d.tenant lead.change.link) with _ | other
    · rw [List.find?_eq_none] at hfind
      exact absurd hfor (hfind held hheld)
    · have hother := List.find?_some hfind
      exact ⟨other, hfind, hs.records.linked other (List.mem_of_find?_eq_some hfind) held hheld
        d.tenant lead.change.link hother hfor⟩

/-- Whoever has found a record for a change knows its tenant. -/
lemma LeadSafe.tenant_eq {lead : Lead} (h : LeadSafe s lead) (hs : svc.Keeps s.store) :
    ∀ held ∈ s.store.records, held.id = lead.record.id → held.tenant = lead.record.tenant := by
  obtain ⟨-, -, held, hheld, hsame⟩ := h
  intro other hother hid
  rw [hs.keyed.record_eq hother hheld (hid.trans hsame.id.symm)]
  exact hsame.tenant

/-- The retirement of a record that was found has no new vectors. -/
lemma LeadSafe.grows_retire {lead : Lead} (h : LeadSafe s lead) (hs : svc.Keeps s.store) (p : π)
    (now : Instant) (cancelled : Bool) :
    World.Grows svc (s.view p now cancelled)
      (stateAfter (Service.retire lead.record) (s.view p now cancelled)) := by
  have htenant := h.tenant_eq hs
  rcases Service.stateAfter_retire lead.record (s.view p now cancelled) with hw | hw
  · rw [hw]
    exact (World.Still.refl _).grows hs
  · rw [hw]
    refine ⟨(Store.Change.retired htenant now).sound hs, hs.succeeds_retired htenant now,
      Nat.le_refl _, rfl, ?_⟩
    exact fun v hv => (Store.mem_vectorsBeside.mp hv).1

/-! ### What is under way -/

/-- The batch of a flight whose answer was accepted. -/
lemma Safe.proper_of_answered (hs : Safe svc s) {f : Flight π} (hf : f ∈ s.flights) {vs : List Vec}
    (hanswered : f.phase = .answered vs) : Reply.Proper svc ⟨f.batch, vs⟩ :=
  hs.reply _ ((hs.flight f hf).answered vs hanswered)

/-- What is known of a batch is known of the pairs that are committed. -/
lemma Safe.knows_zip (hs : Safe svc s) {f : Flight π} (hf : f ∈ s.flights) (vs : List Vec) :
    s.store.Knows f.tenant f.record ((f.batch.zip vs).map (·.1)) := by
  refine (hs.flight f hf).knows.mono ?_
  intro c hc
  obtain ⟨pair, hpair, rfl⟩ := List.mem_map.mp hc
  exact (List.of_mem_zip hpair).1

/-- The vectors that are committed have the dimension of the service. -/
lemma Safe.dimension_zip (hs : Safe svc s) {f : Flight π} (hf : f ∈ s.flights) {vs : List Vec}
    (hanswered : f.phase = .answered vs) :
    ∀ pair ∈ f.batch.zip vs, pair.2.length = svc.dimension := by
  intro pair hpair
  exact (hs.proper_of_answered hf hanswered).dimension pair.2 (List.of_mem_zip hpair).2

/-- The chunks that a process has listed are a safe start of a run of embedding. -/
lemma Safe.flightSafe_list (hs : Safe svc s) (p : π) {tenant : String} {record : Id}
    {batch : List StoredChunk}
    (h : perform (Store.listPending tenant record) s.store = (.ok batch, s.store))
    (hsome : batch ≠ []) : FlightSafe svc s ⟨p, tenant, record, batch, .asked⟩ := by
  obtain ⟨-, hbatch, -⟩ := Store.perform_reading_eq_ok.mp h
  have hpending : batch = s.store.pendingOf tenant record := hbatch.symm
  subst hpending
  refine ⟨hs.sound.keyed.knows_pendingOf hsome, ?_, ?_, fun vs hvs => by cases hvs⟩
  · exact fun c hc => hs.chunkDrawn c (Store.mem_pendingOf hc).1
  · obtain ⟨c, hc⟩ := List.exists_mem_of_ne_nil _ hsome
    obtain ⟨-, -, -, r, hr, hid, -⟩ := Store.mem_pendingOf hc
    change svc.Drawn s.drawn record
    rw [← hid]
    exact hs.recordDrawn r hr

/-- A record that a process has found for a change is a safe lead. -/
lemma leadSafe_find {lead : Lead}
    (h : perform (Store.findLinked lead.change.tenant lead.change.link) s.store =
      (.ok (some lead.record), s.store)) : LeadSafe s lead := by
  obtain ⟨-, hfind, -⟩ := Store.perform_reading_eq_ok.mp h
  have hfor := List.find?_some hfind
  rw [Record.isLiveFor_iff] at hfor
  exact ⟨hfor.2.1, hfor.2.2, lead.record, List.mem_of_find?_eq_some hfind, .refl _⟩

/-- A site is safe when other things are under way that are safe. -/
lemma Safe.underWay (hs : Safe svc s) {outside : σ} {flights : List (Flight π)} {leads : List Lead}
    {replies : List Reply} (hflights : ∀ f ∈ flights, FlightSafe svc { s with replies } f)
    (hleads : ∀ lead ∈ leads, LeadSafe s lead) (hreplies : ∀ reply ∈ replies, reply.Proper svc)
    (hmore : s.replies ⊆ replies) : Safe svc { s with outside, flights, leads, replies } where
  sound := hs.sound
  dimension := hs.dimension
  chunkDrawn := hs.chunkDrawn
  recordDrawn := hs.recordDrawn
  flight := by
    intro f hf
    obtain ⟨hknows, hdrawn, hrecord, hanswered⟩ := hflights f hf
    exact ⟨hknows, hdrawn, hrecord, hanswered⟩
  lead := by
    intro lead hlead
    obtain ⟨htenant, hlink, hheld⟩ := hleads lead hlead
    exact ⟨htenant, hlink, hheld⟩
  reply := hreplies
  provenance := by
    intro v hv
    obtain ⟨c, hc, hid, reply, hreply, hgave⟩ := hs.provenance v hv
    exact ⟨c, hc, hid, reply, hmore hreply, hgave⟩

/-- A flight is safe in another phase too, if a reply that it has then was accepted. -/
lemma FlightSafe.withPhase {f : Flight π} (h : FlightSafe svc s f) {phase : Phase}
    (hphase : ∀ vs, phase = .answered vs → ⟨f.batch, vs⟩ ∈ s.replies) :
    FlightSafe svc s { f with phase } :=
  ⟨h.knows, h.drawn, h.record, hphase⟩

/-- A flight is safe with more replies. -/
lemma FlightSafe.withReplies {f : Flight π} (h : FlightSafe svc s f) {replies : List Reply}
    (hmore : s.replies ⊆ replies) : FlightSafe svc { s with replies } f :=
  ⟨h.knows, h.drawn, h.record, fun vs hvs => hmore (h.answered vs hvs)⟩

/-- An answer of the provider that was accepted is a proper reply. -/
lemma proper_answer {f : Flight π} {vs : List Vec} {o : σ}
    (hvs : svc.checked f.texts.length (svc.embed f.texts o).outcome = .ok vs) :
    Reply.Proper svc ⟨f.batch, vs⟩ := by
  obtain ⟨hgiven, hlength, hdim⟩ := Service.checked_eq_ok hvs
  unfold Flight.texts at hlength
  rw [List.length_map] at hlength
  exact ⟨⟨o, hgiven⟩, hlength, hdim⟩

/-! ### Steps -/

/-- What a step of a safe site comes to: a safe site whose store succeeds the one before, with the
identifiers that were drawn in the meantime. -/
structure Advances (svc : Service σ) (s s' : Site σ π) : Prop where
  safe : Safe svc s'
  succeeds : Store.Succeeds (svc.DrawnBetween s.drawn s'.drawn) s.store s'.store
  drawn : s.drawn ≤ s'.drawn

/-- A step after which other things are under way that are safe. -/
lemma Safe.advances_underWay {outside : σ} {flights : List (Flight π)} {leads : List Lead}
    {replies : List Reply} (h : Safe svc { s with outside, flights, leads, replies }) :
    Advances svc s { s with outside, flights, leads, replies } :=
  ⟨h, (Store.SameTables.refl _).succeeds, Nat.le_refl _⟩

/-- A flight that stands between others in the list is under way, and so are the others. -/
lemma mem_of_flights_eq {before rest : List (Flight π)} {f : Flight π}
    (hf : s.flights = before ++ f :: rest) :
    f ∈ s.flights ∧ ∀ g ∈ before ++ rest, g ∈ s.flights := by
  rw [hf]
  refine ⟨by simp, ?_⟩
  intro g hg
  rcases List.mem_append.mp hg with hg | hg
  · exact List.mem_append_left _ hg
  · exact List.mem_append_right _ (List.mem_cons_of_mem _ hg)

/-- Putting another flight in the place of one concerns no other flight. -/
lemma mem_of_put_flight {before rest : List (Flight π)} {f f' g : Flight π}
    (hf : s.flights = before ++ f :: rest) (hg : g ∈ before ++ f' :: rest) :
    g = f' ∨ g ∈ s.flights := by
  rcases List.mem_append.mp hg with hg | hg
  · exact .inr ((mem_of_flights_eq hf).2 g (List.mem_append_left _ hg))
  · rcases List.mem_cons.mp hg with hg | hg
    · exact .inl hg
    · exact .inr ((mem_of_flights_eq hf).2 g (List.mem_append_right _ hg))

variable [DecidableEq π]

/-- The dimensions of the memories behind what one process has done. -/
lemma dimension_after (hs : Safe svc s) (p : π) {w : World σ}
    (hw : w.memory.vectors.dimension = (s.memory p).vectors.dimension) (flights : List (Flight π)) :
    ∀ q, (({ s with flights }.after p w).memory q).vectors.dimension = svc.dimension := by
  intro q
  change (Function.update s.memory p w.memory q).vectors.dimension = _
  by_cases hq : q = p
  · subst hq
    rw [Function.update_self, hw]
    exact hs.dimension q
  · rw [Function.update_of_ne hq]
    exact hs.dimension q

/-- A transaction of a process that has no new vectors. -/
lemma Safe.after (hs : Safe svc s) (hfresh : Function.Injective svc.fresh) {p : π} {now : Instant}
    {cancelled : Bool} {w : World σ} (hw : World.Grows svc (s.view p now cancelled) w)
    {flights : List (Flight π)} (hflights : ∀ f ∈ flights, f ∈ s.flights) :
    Advances svc s ({ s with flights }.after p w) where
  safe := hs.of_succeeds hfresh hw.succeeds hw.sound hw.drawn
    (dimension_after hs p hw.dimension flights) hflights rfl rfl fun v hv => .inl (hw.vectors v hv)
  succeeds := hw.succeeds
  drawn := hw.drawn

/-- The commitment of a batch: every new vector is the one that the provider gave for the text of
its chunk. -/
lemma Safe.commit (hs : Safe svc s) (hfresh : Function.Injective svc.fresh) {f : Flight π}
    (hf : f ∈ s.flights) {vs : List Vec} (hanswered : f.phase = .answered vs) (now : Instant)
    (cancelled : Bool) {flights : List (Flight π)} (hflights : ∀ f ∈ flights, f ∈ s.flights) :
    Advances svc s ({ s with flights }.after f.process
      (stateAfter (svc.commit f.tenant f.record f.batch vs) (s.view f.process now cancelled))) := by
  rcases Service.stateAfter_commit svc f.tenant f.record f.batch vs (s.view f.process now cancelled)
    with hw | hw
  · rw [hw]
    exact hs.after hfresh ((World.Still.refl _).grows hs.sound) hflights
  · rw [hw]
    have hknows := hs.knows_zip hf vs
    have hdim := hs.dimension_zip hf hanswered
    have hsound := hs.sound.committed hknows hdim svc.version now
    have hsucceeds : Store.Succeeds (svc.DrawnBetween s.drawn s.drawn) s.store
        (s.store.committed f.tenant f.record svc.version now (f.batch.zip vs)) :=
      hs.sound.succeeds_committed hknows svc.version now
    refine ⟨?_, hsucceeds, Nat.le_refl _⟩
    refine hs.of_succeeds hfresh hsucceeds hsound (Nat.le_refl _)
      (dimension_after hs f.process (Memory.dimension_takingIn _ _) flights) hflights rfl rfl ?_
    intro v hv
    change v ∈ (s.store.committed f.tenant f.record svc.version now (f.batch.zip vs)).vectors at hv
    have hmem := hv
    rw [Store.vectors_committed] at hmem
    rcases Store.of_mem_vectors_embedAll hmem with hold | ⟨entry, hentry, hnew⟩
    · exact .inl hold
    · right
      obtain ⟨pair, hpair, rfl⟩ := Store.of_mem_counted hentry
      obtain ⟨hchunk, htext, hlength⟩ := hnew
      obtain ⟨i, hi⟩ := List.mem_iff_getElem?.mp hpair
      obtain ⟨hasked, hx⟩ := List.getElem?_zip_eq_some.mp hi
      obtain ⟨c, hc, hid, -⟩ := hsound.vectors.backed v hv
      have hplace : c.place = pair.1.place :=
        (knows_of_succeeds hfresh (hs.flight f hf) hsucceeds).place pair.1
          (List.of_mem_zip hpair).1 c hc (hid.trans hchunk)
      refine ⟨c, hc, hid, ⟨f.batch, vs⟩, (hs.flight f hf).answered vs hanswered, i, pair.1, pair.2,
        hasked, (congrArg Place.id hplace).symm, (congrArg (·.extent.text) hplace).symm, hx, htext,
        hlength⟩

/-- Every step of a safe site. -/
lemma Step.advances (h : Step svc s s') (hfresh : Function.Injective svc.fresh)
    (hs : Safe svc s) : Advances svc s s' := by
  have hall : ∀ f ∈ s.flights, f ∈ s.flights := fun _ hf => hf
  cases h with
  | ingest p now cancelled req =>
    have hdrafted := Service.drafted_ingest svc req (s.view p now cancelled)
    exact hs.after hfresh (hdrafted.grows hs.sound) hall
  | find h =>
    refine (hs.underWay hs.flight ?_ hs.reply fun _ hreply => hreply).advances_underWay
    intro lead hlead
    rcases List.mem_cons.mp hlead with rfl | hold
    · exact leadSafe_find h
    · exact hs.lead lead hold
  | refresh p now cancelled hlead =>
    refine hs.after hfresh (Drafted.grows (Service.drafted_refresh ?_) hs.sound) hall
    intro d htenant hentity
    exact (hs.lead _ hlead).spares hs.sound htenant hentity
  | retire p now cancelled hlead =>
    exact hs.after hfresh ((hs.lead _ hlead).grows_retire hs.sound p now cancelled) hall
  | requeue p now cancelled =>
    have hgrows : World.Grows svc (s.view p now cancelled)
        (stateAfter (Action.store Store.requeueFailed) (s.view p now cancelled)) := by
      rcases Service.stateAfter_requeue (s.view p now cancelled) with hw | hw
      · rw [hw]
        exact (World.Still.refl _).grows hs.sound
      · rw [hw]
        exact World.grows_changeChunks (Store.besideEmbedded_requeued _) hs.sound
    exact hs.after hfresh hgrows hall
  | list p h hsome =>
    refine (hs.underWay ?_ hs.lead hs.reply fun _ hreply => hreply).advances_underWay
    intro f hf
    rcases List.mem_cons.mp hf with rfl | hold
    · exact hs.flightSafe_list p h hsome
    · exact hs.flight f hold
  | @answer before rest f vs hf hasked hvs =>
    have hmore : s.replies ⊆ ⟨f.batch, vs⟩ :: s.replies := fun _ hreply =>
      List.mem_cons_of_mem _ hreply
    refine (hs.underWay ?_ hs.lead ?_ hmore).advances_underWay
    · intro g hg
      rcases mem_of_put_flight hf hg with rfl | hold
      · refine ((hs.flight f (mem_of_flights_eq hf).1).withReplies hmore).withPhase ?_
        intro vs' hvs'
        cases hvs'
        exact List.mem_cons_self
      · exact (hs.flight g hold).withReplies hmore
    · intro reply hreply
      rcases List.mem_cons.mp hreply with rfl | hold
      · exact proper_answer hvs
      · exact hs.reply reply hold
  | @giveUp before rest f e hf hasked =>
    refine (hs.underWay ?_ hs.lead hs.reply fun _ hreply => hreply).advances_underWay
    intro g hg
    rcases mem_of_put_flight hf hg with rfl | hold
    · exact (hs.flight f (mem_of_flights_eq hf).1).withPhase fun vs hvs => by cases hvs
    · exact hs.flight g hold
  | commit now cancelled hf hanswered =>
    obtain ⟨hflight, hothers⟩ := mem_of_flights_eq hf
    exact hs.commit hfresh hflight hanswered now cancelled hothers
  | @fail before rest f e now cancelled hf hfailing =>
    have hgrows : World.Grows svc (s.view f.process now cancelled)
        (stateAfter (Service.fail f.batch e) (s.view f.process now cancelled)) := by
      rcases Service.stateAfter_fail f.batch e (s.view f.process now cancelled) with hw | hw
      · rw [hw]
        exact (World.Still.refl _).grows hs.sound
      · rw [hw]
        exact World.grows_changeChunks (Store.besideEmbedded_failed _ _) hs.sound
    exact hs.after hfresh hgrows (mem_of_flights_eq hf).2
  | drop hf =>
    refine (hs.underWay ?_ hs.lead hs.reply fun _ hreply => hreply).advances_underWay
    exact fun g hg => hs.flight g ((mem_of_flights_eq hf).2 g hg)
  | aside outside htables hmemory hdrawn =>
    refine ⟨?_, htables.succeeds, hdrawn⟩
    refine hs.of_succeeds hfresh htables.succeeds (hs.sound.of_sameTables htables) hdrawn hmemory
      hall rfl rfl ?_
    intro v hv
    rw [htables.vectors] at hv
    exact .inl hv

end Site

end Dossier
