import Mathlib.Data.List.Perm.Subperm
import Dossier.Service.Route
import Dossier.Proofs.Event.Delivery
import Dossier.Proofs.Event.Rereading
import Dossier.Proofs.Service.Atomicity
import Dossier.Proofs.Service.Reindexing
import Dossier.Proofs.Service.Repeating
import Dossier.Proofs.Text.Chunks

/-!
# What is published is what arrives

A service publishes events in four places: a change that was accepted over HTTP, an ingest, a
refresh, and the changes by which a tenant is reindexed.  `World.Tells` says that some events were
published in between two worlds and that each of them fits, so that it is read back from its
payload.  A reader that gets the payload of such an event gets this very event
(`Reading.mem_delivered_iff`).
-/

namespace Dossier

variable {σ : Type}

/-! ### Events of a topic -/

namespace Topic

/-- The payload of an event. -/
def write : (topic : Topic) → topic.Event → Json
  | ingested => KnowledgeIngested.toJson
  | changed => RecordChanged.toJson

/-- An event that is read back from its payload. -/
def Fits : (topic : Topic) → topic.Event → Prop
  | ingested => KnowledgeIngested.Fits
  | changed => RecordChanged.Fits

variable {topic : Topic} {e : topic.Event}

/-- Exactly the events that fit are read back from their payloads. -/
lemma read_write_iff : topic.read (topic.write e) = some e ↔ topic.Fits e := by
  cases topic with
  | ingested => exact KnowledgeIngested.ofJson_toJson_iff
  | changed => exact RecordChanged.ofJson_toJson_iff

end Topic

/-! ### Readers -/

/-- A reader gets an event that fits where its payload was published, unless it missed the place,
and gets nothing else there. -/
lemma Reading.mem_delivered_iff {topic : Topic} {turns : List Turn} {e a : topic.Event} {i : Nat}
    (he : topic.Fits e)
    (hi : (Reading.after topic.read turns).published[i]? = some (topic.write e)) :
    (i, a) ∈ (Reading.after topic.read turns).delivered ↔
      i < (Reading.after topic.read turns).passed ∧ ¬ Missed topic.read turns i ∧ a = e := by
  rw [(laws topic.read turns).delivered_iff, hi]
  have hread : ∀ payload, some (topic.write e) = some payload ∧ topic.read payload = some a ↔
      payload = topic.write e ∧ a = e := by
    intro payload
    constructor
    · rintro ⟨heq, ha⟩
      cases heq
      rw [Topic.read_write_iff.mpr he] at ha
      exact ⟨rfl, (Option.some.inj ha).symm⟩
    · rintro ⟨rfl, rfl⟩
      exact ⟨rfl, Topic.read_write_iff.mpr he⟩
  simp only [hread, exists_eq_left]
  exact and_congr_right fun _ => And.comm

/-- The places at which events are published on a topic after a reader has subscribed. -/
def BusEvent.payloads (topic : Topic) (history : List BusEvent) : List Json :=
  history.filterMap (published? topic)

/-- What a reader gets that subscribes to a topic after some events and stays for some more: of what
was published since, as far as it has read and without what it missed, the events themselves. -/
structure Exchange.Arrives (before : List BusEvent) (topic : Topic) (name : String)
    (after : List BusEvent) : Prop where
  /-- The reader gets what is delivered at the places up to which it has read. -/
  events_eq : ((({} : Exchange).behind Topic.read (before ++ [.subscribe topic name])).answers
      Topic.read topic name after).filterMap Delivery.event? =
    (Reading.after topic.read
      (after.filterMap (BusEvent.turn? topic name))).delivered.map Prod.snd
  /-- Where an event was published this event is delivered. -/
  mem_delivered_iff : ∀ {i : Nat} {e a : topic.Event}, topic.Fits e →
    (BusEvent.payloads topic after)[i]? = some (topic.write e) →
    ((i, a) ∈ (Reading.after topic.read
        (after.filterMap (BusEvent.turn? topic name))).delivered ↔
      i < (Reading.after topic.read (after.filterMap (BusEvent.turn? topic name))).passed ∧
      ¬ Reading.Missed topic.read (after.filterMap (BusEvent.turn? topic name)) i ∧ a = e)

/-- A reader that subscribes under a new name and stays gets the events that are published. -/
lemma Exchange.arrives {before : List BusEvent} {topic : Topic} {name : String}
    {after : List BusEvent} (hnew : name ∉ BusEvent.listeners topic before)
    (hstays : ∀ e ∈ after, e ≠ .unsubscribe name) : Arrives before topic name after where
  events_eq := by
    have hserves : ((({} : Exchange).behind Topic.read
        (before ++ [.subscribe topic name])).bus.channel topic).Serves name
          ({} : Reading topic.Event) := by
      rw [behind_append]
      exact (tells Topic.read before).serves_subscribe Topic.read hnew
    obtain ⟨hanswers, -⟩ := (tells Topic.read _).isOpen.answers_of_serves hserves hstays
    rw [hanswers]
    exact (Reading.map_delivered_foldl topic.read {} _).symm
  mem_delivered_iff := by
    intro i e a he hi
    refine Reading.mem_delivered_iff he ?_
    rw [Reading.published_after, List.filterMap_filterMap]
    have hturn : (fun e => (e.turn? topic name).bind Turn.payload?) = BusEvent.published? topic :=
      funext BusEvent.payload?_turn?
    rw [hturn]
    exact hi

/-! ### What a service publishes -/

namespace World

/-- The second world is behind the publication of some events, each of which is read back. -/
structure Tells (w : World σ) (topic : Topic) (events : List topic.Event) (w' : World σ) :
    Prop where
  fits : ∀ e ∈ events, topic.Fits e
  bus_eq : w'.memory.bus = w.memory.bus.publishAll topic (events.map topic.write)

variable {svc : Service σ} {w w' : World σ}

/-- The world behind the publication of an event that fits tells of it. -/
lemma Tells.single {topic : Topic} {e : topic.Event} (he : topic.Fits e)
    (h : w'.memory.bus = w.memory.bus.publishAll topic [topic.write e]) :
    w.Tells topic [e] w' where
  fits := by
    intro e' he'
    rw [List.mem_singleton.mp he']
    exact he
  bus_eq := h

/-- The next identifier that a service draws and those of the records of its store have 128 bits. -/
structure Named (svc : Service σ) (w : World σ) : Prop where
  next : (svc.fresh w.drawn).number < twoTo 128
  held : ∀ r ∈ w.store.records, r.id.number < twoTo 128

end World

/-- A chunk that is in range begins below the bound. -/
lemma Text.Chunk.start_lt_of_excess? {piece : Text.Chunk} (h : piece.excess? = none) :
    piece.start < chunkBound := by
  unfold excess? at h
  split at h
  · cases h
  · rename_i hlt
    exact Nat.lt_of_not_le hlt

/-- Numbers in increasing order below a bound are no more than the bound. -/
lemma length_le_of_ascending {numbers : List Nat} {bound : Nat} (h : numbers.Pairwise (· < ·))
    (hbound : ∀ n ∈ numbers, n < bound) : numbers.length ≤ bound := by
  have hnodup : numbers.Nodup := h.imp Nat.ne_of_lt
  have hsub : numbers ⊆ List.range bound := fun n hn => List.mem_range.mpr (hbound n hn)
  exact (hnodup.subperm hsub).length_le.trans_eq List.length_range

/-- A draft has so few chunks that their number has 32 bits. -/
lemma IngestRequest.length_pieces_lt {cfg : ChunkingConfig} {req : IngestRequest} {d : Draft}
    (h : req.draft cfg = .ok d) : d.pieces.length < twoTo 32 := by
  have hle : d.pieces.length ≤ chunkBound := by
    unfold draft at h
    dsimp only at h
    split at h
    · cases h
    · cases h
    · rename_i hrange
      cases h
      have hstarts := (Text.ascending_chunks (chunking cfg) req.content.toList).imp And.left
      rw [← List.length_map]
      refine length_le_of_ascending (List.pairwise_map.mpr hstarts) fun n hn => ?_
      obtain ⟨piece, hpiece, rfl⟩ := List.mem_map.mp hn
      exact Text.Chunk.start_lt_of_excess? (List.findSome?_eq_none_iff.mp hrange piece hpiece)
  exact hle.trans_lt (by decide)

/-- What a draft is staged as names the tenant of the draft, and the event that tells of it fits. -/
lemma Draft.Staging.event_fits {d : Draft} {svc : Service σ} {w : World σ} {now : Instant}
    {s s' : Store} {staged : Staged} (hw : w.Named svc) (hs : s.records = w.store.records)
    (h : d.Staging (fun n => svc.fresh (w.drawn + n)) now s staged s')
    (hfew : d.pieces.length < twoTo 32) : staged.tenant = d.tenant ∧ staged.event.Fits := by
  have hrows : ∀ record, (d.rows (fun n => svc.fresh (w.drawn + n)) record).length < twoTo 32 := by
    intro record
    unfold Draft.rows
    rwa [List.length_mapIdx]
  cases h with
  | created _ _ _ => exact ⟨rfl, hw.next, hrows _⟩
  | @replaced held htarget _ =>
    have hmem : held ∈ w.store.records := hs ▸ (of_target?_eq_some htarget).1
    exact ⟨rfl, hw.held held hmem, hrows _⟩

namespace Service

open World

variable {svc : Service σ} {w w' : World σ}

/-- The world behind a draft that was staged tells of its record, whatever became of the state
outside. -/
lemma tells_behind (hw : w.Named svc) {req : IngestRequest} {d : Draft} {staged : Staged}
    {now : Instant} {s s' : Store} (o : σ) (hd : req.draft svc.config.chunking = .ok d)
    (hs : s.records = w.store.records)
    (h : d.Staging (fun n => svc.fresh (w.drawn + n)) now s staged s') :
    w.Tells .ingested [⟨staged.record, req.tenant, staged.rows.length⟩]
      { w.behind staged s' with outside := o } := by
  obtain ⟨hown, hfits⟩ := h.event_fits hw hs (IngestRequest.length_pieces_lt hd)
  obtain ⟨htenant, -, -⟩ := IngestRequest.draft_eq_ok hd
  have hevent : staged.event = ⟨staged.record, req.tenant, staged.rows.length⟩ := by
    rw [Staged.event, hown, htenant]
  rw [← hevent]
  exact .single hfits rfl

/-- An ingest that succeeds tells of the record with its chunks. -/
lemma tells_ingest (hw : w.Named svc) {req : IngestRequest} {receipt : Receipt}
    (h : perform (svc.ingest req) w = (.ok receipt, w')) :
    w.Tells .ingested [⟨receipt.record, req.tenant, receipt.chunkCount⟩] w' := by
  unfold ingest at h
  split at h
  · cases h
  · rename_i d hd
    rcases svc.perform_staging d (pure ()) w with ⟨e, hstaging⟩ | ⟨staged, s, hwork, hstaging⟩
    · rw [perform_bind_of_error hstaging finish] at h
      cases h
    · rw [perform_bind_of_ok hstaging] at h
      cases h
      exact tells_behind hw w.outside hd rfl (Draft.stage_eq_ok hwork)

/-- A refresh that succeeds tells of the record with its chunks. -/
lemma tells_refresh (hw : w.Named svc) {e : RecordChanged} {r : Record} {outcome : ChangeOutcome}
    (h : perform (svc.refresh e r) w = (.ok outcome, w')) :
    ∃ record n, outcome = .refreshed record n ∧ w.Tells .ingested [⟨record, r.tenant, n⟩] w' := by
  obtain ⟨o, -, ⟨cause, hrefresh⟩ | ⟨text, d, staged, s, -, hd, hstaging, hrefresh⟩⟩ :=
    svc.perform_refresh_drafted e r w
  · rw [hrefresh] at h
    cases h
  · rw [hrefresh] at h
    cases h
    have hrecords : (w.store.dropVectors r.id).records = w.store.records := rfl
    exact ⟨_, _, rfl, tells_behind hw o hd hrecords hstaging⟩

/-- A change that refreshes a record tells of this record with its chunks. -/
lemma tells_handleChange (hw : w.Named svc) {e : RecordChanged} {record : Id} {n : Nat}
    (h : perform (svc.handleChange e) w = (.ok (.refreshed record n), w')) :
    w.Tells .ingested [⟨record, e.tenant, n⟩] w' := by
  obtain ⟨u, hattempt, hbehind⟩ := exists_attempt_of_handled h
  suffices htold : w.Tells .ingested [⟨record, e.tenant, n⟩] u by
    refine ⟨htold.fits, ?_⟩
    rw [hbehind.memory]
    exact htold.bus_eq
  rw [perform_applyChange (not_refused_of_applyChange hattempt)] at hattempt
  rcases hlinked : w.store.records.find? (·.isLiveFor e.tenant e.link) with _ | r
  · rw [hlinked] at hattempt
    cases hattempt
  rw [hlinked] at hattempt
  obtain ⟨-, htenant, -⟩ := Record.isLiveFor_iff.mp
    (List.find?_some (p := fun r : Record => r.isLiveFor e.tenant e.link) hlinked)
  by_cases hop : e.op = .deleted
  · -- A record that is deleted is not refreshed.
    unfold follow at hattempt
    rw [hop] at hattempt
    cases (retire_eq_ok hattempt).1
  · dsimp only at hattempt
    rw [follow_eq_refresh hop] at hattempt
    obtain ⟨record', n', heq, htold⟩ := tells_refresh hw hattempt
    cases heq
    exact htenant ▸ htold

/-! ### Reindexing a tenant -/

/-- The second world is behind the publication of some changes, each of which is read back. -/
def TellsChanges (w w' : World σ) : Prop := ∃ events, w.Tells .changed events w'

/-- Where the bus stays as it is nothing was published. -/
lemma tellsChanges_of_bus_eq (h : w'.memory.bus = w.memory.bus) : TellsChanges w w' :=
  ⟨[], fun _ he => absurd he List.not_mem_nil, h⟩

instance : Std.Refl (@TellsChanges σ) := ⟨fun _ => tellsChanges_of_bus_eq rfl⟩

instance : IsTrans (World σ) TellsChanges where
  trans := by
    rintro u v w ⟨first, hfirst⟩ ⟨later, hlater⟩
    refine ⟨first ++ later, fun e he => ?_, ?_⟩
    · exact (List.mem_append.mp he).elim (hfirst.fits e) (hlater.fits e)
    · rw [hlater.bus_eq, hfirst.bus_eq, List.map_append]
      exact List.foldl_append.symm

/-- The changes that ask for some records. -/
def asking (req : ReindexRequest) (page : List Record) : List RecordChanged :=
  page.filterMap fun r => r.link?.map fun link => .refreshing r.tenant link req.actor

/-- The payloads that ask for some records are those of the changes that do. -/
lemma refreshPayloads_eq (req : ReindexRequest) (page : List Record) :
    refreshPayloads req page = (asking req page).map RecordChanged.toJson := by
  unfold refreshPayloads asking
  rw [List.map_filterMap]
  simp only [Option.map_map]
  rfl

/-- A change that asks for a record carries no state. -/
lemma fits_of_mem_asking {req : ReindexRequest} {page : List Record} {e : RecordChanged}
    (h : e ∈ asking req page) : e.Fits := by
  obtain ⟨r, -, hr⟩ := List.mem_filterMap.mp h
  obtain ⟨link, -, rfl⟩ := Option.map_eq_some_iff.mp hr
  exact ⟨fun state hstate => nomatch hstate⟩

/-- Asking for the records of a page tells of the changes that do. -/
lemma tellsChanges_page (req : ReindexRequest) (page : List Record) :
    Within (@TellsChanges σ) (page.forM (publishRefresh req.actor)) := by
  intro w
  refine ⟨asking req page, fun e => fits_of_mem_asking, ?_⟩
  rw [stateAfter_eq (perform_publishRefreshes w page), refreshPayloads_eq]
  rfl

/-- Reading pages of records tells of changes. -/
lemma tellsChanges_queuePages (req : ReindexRequest) (size pages : Nat) (after : Option Id)
    (queued : Nat) : Within (@TellsChanges σ) (queuePages req size pages after queued) := by
  induction pages generalizing after queued with
  | zero => exact Within.pure _
  | succ pages ih =>
    unfold queuePages
    refine Within.bind (fun w => tellsChanges_of_bus_eq rfl) fun page => ?_
    refine Within.bind (tellsChanges_page req page) fun _ => ?_
    dsimp only
    split
    · split
      · exact ih _ _
      · exact Within.pure _
    · exact Within.pure _

/-- Reindexing a tenant tells of changes. -/
lemma tellsChanges_queueReindex (svc : Service σ) (req : ReindexRequest) :
    Within TellsChanges (svc.queueReindex req) := by
  unfold queueReindex
  split
  · exact Within.throw _
  · exact Within.bind Within.get fun w => tellsChanges_queuePages req _ _ _ _

/-! ### Changes over HTTP -/

/-- A change that is handed on is told of. -/
lemma tells_accept {e : RecordChanged} {response : Http.Response} (he : e.Fits)
    (h : perform (accept e) w = (.ok response, w')) (hstatus : response.status = 202) :
    w.Tells .changed [e] w' := by
  unfold accept at h
  split at h
  · cases h
    cases hstatus
  · cases h
    exact .single he rfl

/-- The change that a body stands for fits. -/
lemma fits_of_read {text : String} {e : RecordChanged}
    (h : Http.Body.recordChanged.read text = .ok e) : e.Fits := by
  unfold Http.Body.read at h
  rcases hparse : Http.Body.recordChanged.shape.parse text with fault | value
  · rw [hparse] at h
    cases h
  · rw [hparse] at h
    dsimp only [bind, Except.bind] at h
    split at h
    · rename_i read hread
      cases h
      exact RecordChanged.fits_of_ofJson hread
    · cases h

/-- A change that was accepted over HTTP is told of. -/
lemma tells_respond {req : Http.Request} {response : Http.Response}
    (hpath : req.path = Http.Endpoint.recordChanged.path)
    (h : perform (svc.respond .everybody req) w = (.ok response, w'))
    (hstatus : response.status = 202) :
    ∃ e, Http.Body.recordChanged.read req.body = .ok e ∧ w.Tells .changed [e] w' := by
  have hendpoint : Http.Surface.everybody.endpoint? req.path = some .recordChanged := by
    rw [hpath]
    decide
  unfold respond at h
  rw [hendpoint] at h
  dsimp only at h
  split at h
  · change perform (withBody .recordChanged req accept) w = _ at h
    unfold withBody at h
    split at h
    · split at h
      · rename_i e hread
        exact ⟨e, hread, tells_accept (fits_of_read hread) h hstatus⟩
      · rename_i fault _
        cases h
        cases fault <;> cases hstatus
    · cases h
      cases hstatus
  · cases h
    cases hstatus

end Service

/-! ### All together -/

/-- What is read is read again from what is written for it, which is then written once more. -/
def Json.Rereads {α : Type} (read : Json → Option α) (write : α → Json) : Prop :=
  ∀ j a, read j = some a → read (write a) = some a ∧ (read (write a)).map write = some (write a)

/-- What is read back is written as before. -/
lemma Json.rereads_of {α : Type} {read : Json → Option α} {write : α → Json}
    (h : ∀ j a, read j = some a → read (write a) = some a) : Rereads read write := by
  intro j a ha
  rw [h j a ha]
  exact ⟨rfl, rfl⟩

/-- Every JSON value that is read as an ingest, a change or a principal is read as something that is
read again from what is written for it, and written once more as the same JSON; and exactly the
changes whose state, if they carry one, is in its stored form and is not null are read back.  So a
reader that gets what was published gets the events themselves: the change that was accepted over
HTTP, and what the service tells of an ingest, of a refresh and when it reindexes a tenant. -/
theorem events_arrive (svc : Service σ) (w : World σ) :
    Json.Rereads KnowledgeIngested.ofJson KnowledgeIngested.toJson ∧
    Json.Rereads RecordChanged.ofJson RecordChanged.toJson ∧
    Json.Rereads Principal.ofJson Principal.toJson ∧
    (∀ e : RecordChanged, RecordChanged.ofJson e.toJson = some e ↔
      ∀ state, e.snapshot = some state → state ≠ .null ∧ state.canonical = state) ∧
    (∀ before topic name after, name ∉ BusEvent.listeners topic before →
      (∀ e ∈ after, e ≠ .unsubscribe name) → Exchange.Arrives before topic name after) ∧
    (∀ req response w', req.path = Http.Endpoint.recordChanged.path →
      perform (svc.respond .everybody req) w = (.ok response, w') → response.status = 202 →
      ∃ e, Http.Body.recordChanged.read req.body = .ok e ∧ w.Tells .changed [e] w') ∧
    (w.Named svc → ∀ req receipt w', perform (svc.ingest req) w = (.ok receipt, w') →
      w.Tells .ingested [⟨receipt.record, req.tenant, receipt.chunkCount⟩] w') ∧
    (w.Named svc → ∀ e record n w',
      perform (svc.handleChange e) w = (.ok (.refreshed record n), w') →
      w.Tells .ingested [⟨record, e.tenant, n⟩] w') ∧
    ∀ req, ∃ events, w.Tells .changed events (stateAfter (svc.queueReindex req) w) := by
  refine ⟨Json.rereads_of fun j e h => ?ingested, Json.rereads_of fun j e h => ?changed,
    Json.rereads_of fun j p _ => p.ofJson_toJson, fun e => ?exactly, ?arrives, ?accepted, ?ingest,
    ?refreshed, fun req => Service.tellsChanges_queueReindex svc req w⟩
  case ingested =>
    exact KnowledgeIngested.ofJson_toJson_iff.mpr (KnowledgeIngested.fits_of_ofJson h)
  case changed => exact RecordChanged.ofJson_toJson_iff.mpr (RecordChanged.fits_of_ofJson h)
  case exactly => exact RecordChanged.ofJson_toJson_iff.trans ⟨fun h => h.snapshot, fun h => ⟨h⟩⟩
  case arrives => exact fun before topic name after hnew hstays => Exchange.arrives hnew hstays
  case accepted =>
    exact fun req response w' hpath h hstatus => Service.tells_respond hpath h hstatus
  case ingest => exact fun hw req receipt w' h => Service.tells_ingest hw h
  case refreshed => exact fun hw e record n w' h => Service.tells_handleChange hw h

/-- A service on its own that keeps a note about an account tells of a change that it is sent, of
the account ingested anew and of its refresh; an ingest in another spelling, a change in another
form and a principal written as an array are read again. -/
theorem events_arrive_standalone :
    let svc := Service.standalone .small
    let w := Service.standaloneAfter [.ingest (.sampleNote "acme" "Call" "Renewal is due.")]
    let note := IngestRequest.sampleNote "acme" "Call" "Renewal was moved."
    let request : Http.Request := ⟨"POST", "/v1/events/record_changed", some "application/json",
      none, "[\"acme\",\"account\",\"a1\",\"updated\"]"⟩
    let ingested := Json.arr
      [.str "\x7bFFFFFFFF-0000-0000-0000-00000000000a\x7d", .str "acme", .nat 2]
    let changed := Json.obj [("tenant_id", .str "acme"), ("entity_kind", .str "account"),
      ("entity_id", .str "a1"), ("op", .obj [("deleted", .null)]), ("origin", .null),
      ("snapshot", .obj [("stage", .nat 2), ("name", .str "Acme"), ("stage", .nat 3)])]
    w.Named svc ∧
    (∃ e, KnowledgeIngested.ofJson ingested = some e ∧ KnowledgeIngested.ofJson e.toJson = some e) ∧
    (∃ e, RecordChanged.ofJson changed = some e ∧ e.op = .deleted ∧
      RecordChanged.ofJson e.toJson = some e) ∧
    (∃ p, Principal.ofJson (.arr [.str "acme", .str "u1"]) = some p ∧
      Principal.ofJson p.toJson = some p) ∧
    Exchange.Arrives [] .changed "reindexer"
      [.publish .changed RecordChanged.sample.toJson, .next .changed "reindexer"] ∧
    (∃ response w' e, perform (svc.respond .everybody request) w = (.ok response, w') ∧
      response.status = 202 ∧ w.Tells .changed [e] w') ∧
    (∃ receipt w', perform (svc.ingest note) w = (.ok receipt, w') ∧
      w.Tells .ingested [⟨receipt.record, "acme", receipt.chunkCount⟩] w') ∧
    ∃ record n w', perform (svc.handleChange .sample) w = (.ok (.refreshed record n), w') ∧
      w.Tells .ingested [⟨record, "acme", n⟩] w' := by
  intro svc w note request ingested changed
  obtain ⟨hingested, hchanged, hprincipal, -, harrives, haccepted, hingest, hrefreshed, -⟩ :=
    events_arrive svc w
  have hw : w.Named svc := ⟨by decide +kernel, by decide +kernel⟩
  refine ⟨hw, ?_, ?_, ?_, harrives _ _ _ _ List.not_mem_nil (by simp), ?_, ?_, ?_⟩
  · have hread : KnowledgeIngested.ofJson ingested =
        some ⟨⟨0xFFFFFFFF00000000000000000000000a⟩, "acme", 2⟩ := by decide +kernel
    exact ⟨_, hread, (hingested _ _ hread).1⟩
  · have hread : RecordChanged.ofJson changed = some ⟨"acme", ⟨"account", "a1"⟩, .deleted,
        some (.obj [("name", .str "Acme"), ("stage", .nat 3)]), none⟩ := by rfl
    exact ⟨_, hread, rfl, (hchanged _ _ hread).1⟩
  · have hread : Principal.ofJson (.arr [.str "acme", .str "u1"]) = some ⟨"acme", "u1", []⟩ := by
      decide +kernel
    exact ⟨_, hread, (hprincipal _ _ hread).1⟩
  · have hstatus : (perform (svc.respond .everybody request) w).1.toOption.map (·.status) =
        some 202 := by decide +kernel
    rcases hrespond : perform (svc.respond .everybody request) w with ⟨cause | response, w'⟩
    · rw [hrespond] at hstatus
      cases hstatus
    · rw [hrespond] at hstatus
      have hok : response.status = 202 := Option.some.inj hstatus
      have hpath : request.path = Http.Endpoint.recordChanged.path := by decide
      obtain ⟨e, -, htold⟩ := haccepted request response w' hpath hrespond hok
      exact ⟨response, w', e, rfl, hok, htold⟩
  · have hok : (perform (svc.ingest note) w).1.isOk = true := by decide +kernel
    rcases hanswer : perform (svc.ingest note) w with ⟨cause | receipt, w'⟩
    · rw [hanswer] at hok
      cases hok
    · exact ⟨receipt, w', rfl, hingest hw note receipt w' hanswer⟩
  · have hlabel : (perform (svc.handleChange .sample) w).1.toOption.map (·.label) =
        some "refreshed" := by decide +kernel
    rcases hanswer : perform (svc.handleChange .sample) w with ⟨cause | outcome, w'⟩
    · rw [hanswer] at hlabel
      cases hlabel
    · rw [hanswer] at hlabel
      have hstands : outcome.label = "refreshed" := Option.some.inj hlabel
      cases outcome with
      | noop => simp [ChangeOutcome.label] at hstands
      | refreshed record n => exact ⟨record, n, w', rfl, hrefreshed hw _ record n w' hanswer⟩
      | deleted record => simp [ChangeOutcome.label] at hstands

end Dossier
