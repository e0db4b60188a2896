import Mathlib.Data.List.Find
import Dossier.Event.Delivery
import Dossier.Proofs.Event.Reading

/-!
# Delivery on a bus

Receivers come and go, payloads are published on both topics and receivers ask for their next event,
in any order.  A channel remembers of all this no more than its newest payloads and one number for
each receiver.  `Channel.Serves` relates that to where the reader of a name stands: the channel
keeps the end of what was published since the reader listens, and the number of the receiver is what
the reader has passed.  Whatever happens on the bus, other than that the reader leaves, keeps the
relation or moves the reader by a turn of its own; so what a receiver gets is what its reader is
owed (`Exchange.deliveries`).
-/

namespace Dossier

/-! ### Channels -/

namespace Channel

variable {ch : Channel} {name other : String}

/-- A channel has sent some payloads, and keeps the newest of them. -/
structure Sent (ch : Channel) (log : List Json) : Prop where
  count : ch.sent = log.length
  kept : ch.kept = log.reverse.take channelCapacity

/-- What a channel still has from a number on is the end of what it sent. -/
lemma Sent.backlog_eq {log : List Json} (h : ch.Sent log) (next : Nat) :
    ch.backlog next = (log.drop (max next (log.length - channelCapacity))).mapIdx
      fun i payload => (max next (log.length - channelCapacity) + i, payload) := by
  have holdest : ch.oldest = log.length - channelCapacity := by
    unfold oldest
    rw [h.count, h.kept, List.length_take, List.length_reverse]
    omega
  unfold backlog
  rw [holdest, h.count, h.kept]
  generalize hfirst : max next (log.length - channelCapacity) = first
  have hkept : log.length - first ≤ channelCapacity := by omega
  show List.mapIdx _ (((log.reverse.take channelCapacity).take (log.length - first)).reverse) = _
  rw [List.take_take, min_eq_left hkept, List.reverse_take, List.length_reverse, List.reverse_reverse]
  rcases Nat.le_total first log.length with hle | hle
  · rw [Nat.sub_sub_self hle]
  · rw [List.drop_eq_nil_of_le (by omega), List.drop_eq_nil_of_le hle]

/-- A channel that somebody listens to sends what is published. -/
lemma Sent.publish {log : List Json} (h : ch.Sent log) (hsome : ch.receivers ≠ [])
    (payload : Json) : (ch.publish payload).1.Sent (log ++ [payload]) := by
  unfold Channel.publish
  rw [List.isEmpty_eq_false_iff.mpr hsome]
  refine ⟨?_, ?_⟩
  · show ch.sent + 1 = _
    rw [h.count, List.length_append]
    rfl
  · show (payload :: ch.kept).take channelCapacity = _
    rw [h.kept, List.reverse_append]
    show (payload :: List.take (1023 + 1) _).take (1023 + 1) =
      List.take (1023 + 1) (payload :: log.reverse)
    rw [List.take_succ_cons, List.take_succ_cons, List.take_take, min_eq_left (Nat.le_succ _)]

/-- What is published leaves a channel that remembers the newest of what it sent. -/
lemma Sent.exists_publish {log : List Json} (h : ch.Sent log) (payload : Json) :
    ∃ log, (ch.publish payload).1.Sent log := by
  by_cases hsome : ch.receivers = []
  · unfold Channel.publish
    rw [List.isEmpty_iff.mpr hsome]
    exact ⟨log, h⟩
  · exact ⟨_, h.publish hsome payload⟩

variable {α : Type} {read : Json → Option α} {r : Reading α}

/-- A channel serves the reader of a name: it has the end of what was published since the reader
listens, and the receiver stands where the reader does. -/
def Serves (ch : Channel) (name : String) (r : Reading α) : Prop :=
  ∃ old, ch.Sent (old ++ r.published) ∧ ∃ receiver, ch.receiver? name = some receiver ∧
    receiver.next = old.length + r.passed

/-- The receiver of a name, once another has subscribed. -/
lemma receiver?_subscribe {receiver : Receiver} (h : ch.receiver? name = some receiver) :
    (ch.subscribe other).receiver? name = some receiver := by
  show List.find? _ (ch.receivers ++ _) = _
  rw [List.find?_append]
  exact Option.or_eq_some_iff.mpr (.inl h)

/-- A name that nobody has is free once it is taken. -/
lemma receiver?_subscribe_self (h : ch.receiver? name = none) :
    (ch.subscribe name).receiver? name = some ⟨name, ch.sent⟩ := by
  show List.find? _ (ch.receivers ++ _) = _
  have hnone : ch.receivers.find? (·.name == name) = none := h
  rw [List.find?_append, hnone, Option.none_or]
  exact List.find?_cons_of_pos (beq_self_eq_true name)

/-- The receiver of a name, once another one has left. -/
lemma receiver?_unsubscribe (h : other ≠ name) :
    (ch.unsubscribe other).receiver? name = ch.receiver? name := by
  show List.find? _ (List.filter _ _) = _
  rw [List.find?_filter]
  refine List.find?_congr fun r _ => ?_
  rcases hname : r.name == name
  · exact decide_eq_false fun hr => Bool.false_ne_true hr.2
  · rw [eq_of_beq hname]
    exact decide_eq_true ⟨bne_iff_ne.mpr h.symm, rfl⟩

/-- The receiver of a name, once the receivers of a name were moved. -/
lemma receiver?_advance (next : Nat) :
    (ch.advance other next).receiver? name = (ch.receiver? name).map fun r =>
      if r.name == other then { r with next } else r := by
  show List.find? _ (List.map _ _) = _
  rw [List.find?_map]
  refine congrArg _ (List.find?_congr fun r _ => ?_)
  show ((if r.name == other then { r with next } else r : Receiver).name == name) = _
  split <;> rfl

/-- A receiver is found under its name. -/
lemma name_of_receiver? {receiver : Receiver} (h : ch.receiver? name = some receiver) :
    receiver.name = name :=
  eq_of_beq (List.find?_some (p := fun r : Receiver => r.name == name) h)

/-- Another reader that asks moves nothing of this one. -/
lemma receiver?_advance_other (h : other ≠ name) (next : Nat) :
    (ch.advance other next).receiver? name = ch.receiver? name := by
  rw [receiver?_advance]
  rcases hr : ch.receiver? name with _ | receiver
  · rfl
  · rw [Option.map_some, if_neg]
    rw [name_of_receiver? hr]
    exact fun heq => h (eq_of_beq heq).symm

/-- Asking does no more than move a receiver. -/
lemma receive_eq_advance (ch : Channel) (name : String) (read : Json → Option α) :
    (ch.receive name read).2 = ch ∨ ∃ next, (ch.receive name read).2 = ch.advance name next := by
  unfold receive
  split
  · exact .inl rfl
  · split
    · exact .inr ⟨_, rfl⟩
    · exact .inr ⟨_, rfl⟩

namespace Serves

/-- Who subscribes is served from now on. -/
lemma subscribe_self {log : List Json} (hsent : ch.Sent log) (h : ch.receiver? name = none) :
    (ch.subscribe name).Serves name ({} : Reading α) := by
  refine ⟨log, ⟨?_, ?_⟩, ⟨name, ch.sent⟩, receiver?_subscribe_self h, hsent.count⟩
  · rw [List.append_nil]
    exact hsent.count
  · rw [List.append_nil]
    exact hsent.kept

/-- Others may subscribe. -/
lemma subscribe (h : ch.Serves name r) : (ch.subscribe other).Serves name r := by
  obtain ⟨old, hsent, receiver, hr, hnext⟩ := h
  exact ⟨old, ⟨hsent.count, hsent.kept⟩, receiver, receiver?_subscribe hr, hnext⟩

/-- Others may leave. -/
lemma unsubscribe (h : ch.Serves name r) (hne : other ≠ name) :
    (ch.unsubscribe other).Serves name r := by
  obtain ⟨old, hsent, receiver, hr, hnext⟩ := h
  exact ⟨old, ⟨hsent.count, hsent.kept⟩, receiver, (receiver?_unsubscribe hne).trans hr, hnext⟩

/-- What is published reaches who listens. -/
lemma publish (h : ch.Serves name r) (payload : Json) :
    (ch.publish payload).1.Serves name (r.publish payload) := by
  obtain ⟨old, hsent, receiver, hr, hnext⟩ := h
  have hsome : ch.receivers ≠ [] := List.ne_nil_of_mem (List.mem_of_find?_eq_some hr)
  refine ⟨old, ?_, receiver, ?_, hnext⟩
  · show Sent _ (old ++ (r.published ++ [payload]))
    rw [← List.append_assoc]
    exact hsent.publish hsome payload
  · unfold Channel.publish
    rw [List.isEmpty_eq_false_iff.mpr hsome]
    exact hr

/-- What a channel still has for a reader is what waits for it, by the numbers of the channel. -/
lemma backlog_eq {old : List Json} (hsent : ch.Sent (old ++ r.published)) :
    ch.backlog (old.length + r.passed) = r.waiting.map fun e => (old.length + e.1, e.2) := by
  have hfirst : max (old.length + r.passed) ((old ++ r.published).length - channelCapacity) =
      old.length + r.first := by
    unfold Reading.first
    rw [List.length_append]
    omega
  rw [hsent.backlog_eq, hfirst, List.drop_append, List.drop_eq_nil_of_le (Nat.le_add_right _ _),
    List.nil_append, Nat.add_sub_cancel_left]
  refine List.ext_getElem? fun i => ?_
  unfold Reading.waiting
  rw [List.getElem?_map, List.getElem?_mapIdx, List.getElem?_mapIdx, Option.map_map]
  refine congrArg (Option.map · _) (funext fun payload => ?_)
  exact congrArg (·, payload) (Nat.add_assoc _ _ _)

/-- A receiver that asks gets what its reader finds, and moves with it. -/
lemma receive (h : ch.Serves name r) (read : Json → Option α) :
    (ch.receive name read).1 = (r.found? read).map Prod.snd ∧
      (ch.receive name read).2.Serves name (r.ask read) := by
  obtain ⟨old, hsent, receiver, hr, hnext⟩ := h
  have hname : receiver.name == name := beq_iff_eq.mpr (name_of_receiver? hr)
  have hmoved : ∀ next, (ch.advance name next).receiver? name = some { receiver with next } := by
    intro next
    rw [receiver?_advance, hr, Option.map_some, if_pos hname]
  have hfound : ∀ g : Nat × Json → Option (Nat × α),
      (∀ e, g e = (read e.2).map fun a => (e.1, a)) →
      (ch.backlog receiver.next).findSome? g =
        (r.found? read).map fun e => (old.length + e.1, e.2) := by
    intro g hg
    rw [hnext, backlog_eq hsent, List.findSome?_map, Reading.found?, List.map_findSome?]
    refine congrArg (List.findSome? · _) (funext fun e => ?_)
    show g _ = Option.map _ (Option.map _ _)
    rw [hg, Option.map_map]
    rfl
  unfold Channel.receive Reading.ask
  rw [hr]
  dsimp only
  rw [hfound _ fun _ => rfl]
  rcases r.found? read with _ | ⟨n, a⟩
  · refine ⟨rfl, old, ⟨hsent.count, hsent.kept⟩, _, hmoved _, ?_⟩
    show ch.sent = old.length + r.published.length
    rw [hsent.count, List.length_append]
  · exact ⟨rfl, old, ⟨hsent.count, hsent.kept⟩, _, hmoved _, Nat.add_assoc _ _ _⟩

/-- Others may ask. -/
lemma receive_other (h : ch.Serves name r) (hne : other ≠ name) {β : Type}
    (read : Json → Option β) : (ch.receive other read).2.Serves name r := by
  rcases ch.receive_eq_advance other read with heq | ⟨next, heq⟩
  · rwa [heq]
  · obtain ⟨old, hsent, receiver, hr, hnext⟩ := h
    rw [heq]
    exact ⟨old, ⟨hsent.count, hsent.kept⟩, receiver,
      (receiver?_advance_other hne next).trans hr, hnext⟩

end Serves

end Channel

/-! ### What happens on a bus -/

/-- What happens on a bus: receivers subscribe and leave, payloads are published, and receivers ask
for their next event. -/
inductive BusEvent where
  | subscribe (topic : Topic) (name : String)
  | unsubscribe (name : String)
  | publish (topic : Topic) (payload : Json)
  | next (topic : Topic) (name : String)

namespace BusEvent

/-- The turn of the reader of a topic and a name, if it takes part in what happens. -/
def turn? (topic : Topic) (name : String) : BusEvent → Option Turn
  | publish t payload => if t = topic then some (.publish payload) else none
  | next t n => if t = topic ∧ n = name then some .ask else none
  | subscribe _ _ | unsubscribe _ => none

/-- Who listens to a topic behind an event, in the order of their subscriptions. -/
def listening (topic : Topic) (names : List String) : BusEvent → List String
  | subscribe t name => if t = topic then names ++ [name] else names
  | unsubscribe name => names.filter (· != name)
  | publish _ _ | next _ _ => names

/-- Who listens to a topic after some events, when nobody did before. -/
def listeners (topic : Topic) (history : List BusEvent) : List String :=
  history.foldl (listening topic) []

/-- Who listens after one more event. -/
lemma listeners_append (topic : Topic) (history : List BusEvent) (e : BusEvent) :
    listeners topic (history ++ [e]) = listening topic (listeners topic history) e := by
  unfold listeners
  rw [List.foldl_append, List.foldl_cons, List.foldl_nil]

/-- The payload that is published on a topic. -/
def published? (topic : Topic) : BusEvent → Option Json
  | publish t payload => if t = topic then some payload else none
  | next _ _ | subscribe _ _ | unsubscribe _ => none

/-- What a reader sees published is what is published on its topic. -/
lemma payload?_turn? {topic : Topic} {name : String} (e : BusEvent) :
    (e.turn? topic name).bind Turn.payload? = e.published? topic := by
  cases e with
  | publish t payload =>
    simp only [turn?, published?]
    split <;> rfl
  | next t n =>
    simp only [turn?, published?]
    split <;> rfl
  | subscribe t n => rfl
  | unsubscribe n => rfl

end BusEvent

/-- The events of a topic. -/
def Topic.Event : Topic → Type
  | ingested => KnowledgeIngested
  | changed => RecordChanged

/-- The event of a topic that a payload stands for. -/
def Topic.read : (topic : Topic) → Json → Option topic.Event
  | ingested => KnowledgeIngested.ofJson
  | changed => RecordChanged.ofJson

/-- The event that was delivered. -/
def Delivery.event? {α : Type} : Delivery α → Option α
  | event e => some e
  | idle | ended => none

namespace Reading

variable {α : Type}

/-- What a reader that asks is owed. -/
def owed (read : Json → Option α) (r : Reading α) : Delivery α :=
  match r.found? read with
  | some (_, a) => .event a
  | none => .idle

/-- What a reader is owed each time it asks. -/
def answers (read : Json → Option α) : Reading α → List Turn → List (Delivery α)
  | _, [] => []
  | r, .publish payload :: turns => answers read (r.publish payload) turns
  | r, .ask :: turns => r.owed read :: answers read (r.ask read) turns

/-- What a reader that asks may be told: the first payload of those that wait which it can read, or
that there is none. -/
def Answered (read : Json → Option α) (r : Reading α) : Delivery α → Prop
  | .event a => ∃ n payload, r.first ≤ n ∧ r.published[n]? = some payload ∧ read payload = some a ∧
      ∀ m earlier, r.first ≤ m → m < n → r.published[m]? = some earlier → read earlier = none
  | .idle => ∀ n payload, r.first ≤ n → r.published[n]? = some payload → read payload = none
  | .ended => False

/-- What a reader is owed is what it may be told. -/
lemma answered_owed (read : Json → Option α) (r : Reading α) : r.Answered read (r.owed read) := by
  unfold owed
  rcases hfound : r.found? read with _ | ⟨n, a⟩
  · exact fun n payload => unreadable_of_found?_eq_none hfound
  · obtain ⟨hn, ⟨payload, hp, hread⟩, hnone⟩ := of_found?_eq_some hfound
    exact ⟨n, payload, hn, hp, hread, hnone⟩

/-- What is delivered to a reader once it has asked. -/
lemma map_delivered_ask (read : Json → Option α) (r : Reading α) :
    (r.ask read).delivered.map Prod.snd =
      r.delivered.map Prod.snd ++ (r.owed read).event?.toList := by
  unfold ask owed
  rcases r.found? read with _ | ⟨n, a⟩
  · exact (List.append_nil _).symm
  · exact List.map_append

/-- The events that a reader is owed are what is delivered to it. -/
lemma map_delivered_foldl (read : Json → Option α) (r : Reading α) (turns : List Turn) :
    (turns.foldl (turn read) r).delivered.map Prod.snd =
      r.delivered.map Prod.snd ++ (r.answers read turns).filterMap Delivery.event? := by
  induction turns generalizing r with
  | nil => exact (List.append_nil _).symm
  | cons t turns ih =>
    rw [List.foldl_cons, ih]
    cases t with
    | publish payload => rfl
    | ask =>
      show (r.ask read).delivered.map Prod.snd ++ _ =
        _ ++ (r.owed read :: answers read (r.ask read) turns).filterMap Delivery.event?
      rw [map_delivered_ask, List.append_assoc, List.filterMap_cons]
      rcases (r.owed read).event? with _ | a <;> rfl

end Reading

namespace Channel

variable {α : Type} {read : Json → Option α} {topic : Topic} {ch : Channel}

/-- The channel of a topic behind an event. -/
def meet (read : Json → Option α) (topic : Topic) (ch : Channel) : BusEvent → Channel
  | .subscribe t name => if t = topic then ch.subscribe name else ch
  | .unsubscribe name => ch.unsubscribe name
  | .publish t payload => if t = topic then (ch.publish payload).1 else ch
  | .next t name => if t = topic then (ch.receive name read).2 else ch

/-- The names of the receivers, once receivers were moved. -/
lemma names_advance (ch : Channel) (name : String) (next : Nat) :
    (ch.advance name next).receivers.map Receiver.name = ch.receivers.map Receiver.name := by
  show (ch.receivers.map _).map _ = _
  rw [List.map_map]
  refine List.map_congr_left fun r _ => ?_
  show (if r.name == name then { r with next } else r : Receiver).name = r.name
  split <;> rfl

/-- The names of the receivers behind an event. -/
lemma names_meet (read : Json → Option α) (topic : Topic) (ch : Channel) (e : BusEvent) :
    (ch.meet read topic e).receivers.map Receiver.name =
    e.listening topic (ch.receivers.map Receiver.name) := by
  cases e with
  | subscribe t name =>
    simp only [meet, BusEvent.listening]
    split
    · exact List.map_append
    · rfl
  | unsubscribe name =>
    exact (List.filter_map (p := (· != name)) (f := Receiver.name) (l := ch.receivers)).symm
  | publish t payload =>
    simp only [meet, BusEvent.listening, publish]
    split
    · split <;> rfl
    · rfl
  | next t name =>
    simp only [meet, BusEvent.listening]
    split
    · rcases ch.receive_eq_advance name read with h | ⟨next, h⟩
      · rw [h]
      · rw [h, names_advance]
    · rfl

/-- A channel remembers the newest of what it sent, whatever happens. -/
lemma exists_sent_meet {log : List Json} (h : ch.Sent log) (e : BusEvent) :
    ∃ log, (ch.meet read topic e).Sent log := by
  cases e with
  | subscribe t name =>
    simp only [meet]
    split
    · exact ⟨log, h.count, h.kept⟩
    · exact ⟨log, h⟩
  | unsubscribe name => exact ⟨log, h.count, h.kept⟩
  | publish t payload =>
    simp only [meet]
    split
    · exact h.exists_publish payload
    · exact ⟨log, h⟩
  | next t name =>
    simp only [meet]
    split
    · rcases ch.receive_eq_advance name read with hr | ⟨next, hr⟩ <;> rw [hr]
      · exact ⟨log, h⟩
      · exact ⟨log, h.count, h.kept⟩
    · exact ⟨log, h⟩

/-- Whatever happens other than that a reader leaves keeps the reader served, and moves it by its
own turn. -/
lemma Serves.meet {name : String} {r : Reading α} (h : ch.Serves name r)
    (read : Json → Option α) (topic : Topic) {e : BusEvent} (hstays : e ≠ .unsubscribe name) :
    (ch.meet read topic e).Serves name ((e.turn? topic name).elim r (r.turn read)) := by
  cases e with
  | subscribe t other =>
    simp only [Channel.meet]
    split
    · exact h.subscribe
    · exact h
  | unsubscribe other => exact h.unsubscribe fun heq => hstays (heq ▸ rfl)
  | publish t payload =>
    simp only [Channel.meet, BusEvent.turn?]
    split
    · exact h.publish payload
    · exact h
  | next t other =>
    simp only [Channel.meet, BusEvent.turn?]
    by_cases ht : t = topic
    · rw [if_pos ht]
      by_cases hname : other = name
      · rw [if_pos ⟨ht, hname⟩, hname]
        exact (h.receive read).2
      · rw [if_neg fun h => hname h.2]
        exact h.receive_other hname read
    · rw [if_neg ht, if_neg fun h => ht h.1]
      exact h

end Channel

/-! ### Histories of a bus -/

namespace Bus

/-- The channel of a topic, once the channel of a topic was replaced. -/
lemma channel_withChannel (bus : Bus) (topic t : Topic) (ch : Channel) :
    (bus.withChannel t ch).channel topic = if t = topic then ch else bus.channel topic := by
  cases topic <;> cases t <;> rfl

end Bus

namespace Exchange

variable {α : Topic → Type} (read : ∀ topic, Json → Option (α topic))

/-- The bus behind an event. -/
def step (x : Exchange) : BusEvent → Exchange
  | .subscribe topic name => { x with bus := x.bus.subscribe topic name }
  | .unsubscribe name => { x with bus := x.bus.unsubscribe name }
  | .publish topic payload => (x.publish topic payload).1
  | .next topic name => (x.next topic name (read topic)).2

/-- The bus behind some events. -/
def behind (x : Exchange) (history : List BusEvent) : Exchange := history.foldl (step read) x

/-- What a receiver gets each time it asks. -/
def answers (topic : Topic) (name : String) : Exchange → List BusEvent → List (Delivery (α topic))
  | _, [] => []
  | x, e :: history =>
    match e.turn? topic name with
    | some .ask => (x.next topic name (read topic)).1 :: answers topic name (x.step read e) history
    | _ => answers topic name (x.step read e) history

/-- A bus on which nobody gave up and that is not closed. -/
structure Open (x : Exchange) : Prop where
  going : x.cancelled = false
  accepting : x.closed = false

variable {read} {x : Exchange} {topic : Topic} {name : String}

/-- What a receiver gets from a bus that is open. -/
lemma Open.next_fst {β : Type} (h : x.Open) (read : Json → Option β) :
    (x.next topic name read).1 = ((x.bus.channel topic).receive name read).1.elim .idle .event := by
  unfold next
  rw [h.going, h.accepting]
  unfold Bus.receive
  rcases (x.bus.channel topic).receive name read with ⟨_ | e, ch⟩ <;> rfl

/-- The bus behind a receiver that asks. -/
lemma Open.next_snd {β : Type} (h : x.Open) (read : Json → Option β) :
    (x.next topic name read).2 = { x with
      bus := x.bus.withChannel topic ((x.bus.channel topic).receive name read).2 } := by
  unfold next
  rw [h.going]
  unfold Bus.receive
  rcases (x.bus.channel topic).receive name read with ⟨_ | e, ch⟩ <;> rfl

/-- The bus behind a payload, and how many receivers it reached. -/
lemma Open.publish_eq (h : x.Open) (payload : Json) : x.publish topic payload =
    ({ x with bus := x.bus.withChannel topic ((x.bus.channel topic).publish payload).1 },
      ((x.bus.channel topic).publish payload).2) := by
  unfold publish
  rw [h.accepting]
  rfl

/-- A bus stays open. -/
lemma Open.step (h : x.Open) (e : BusEvent) : (x.step read e).Open := by
  cases e with
  | subscribe t n => exact ⟨h.going, h.accepting⟩
  | unsubscribe n => exact ⟨h.going, h.accepting⟩
  | publish t payload =>
    show (x.publish t payload).1.Open
    rw [h.publish_eq]
    exact ⟨h.going, h.accepting⟩
  | next t n =>
    show (x.next t n (read t)).2.Open
    rw [h.next_snd]
    exact ⟨h.going, h.accepting⟩

/-- The channel of a topic behind an event. -/
lemma Open.channel_step (h : x.Open) (read : ∀ topic, Json → Option (α topic)) (topic : Topic)
    (e : BusEvent) :
    (x.step read e).bus.channel topic = (x.bus.channel topic).meet (read topic) topic e := by
  cases e with
  | subscribe t n =>
    show (x.bus.withChannel t _).channel topic = if t = topic then _ else _
    rw [Bus.channel_withChannel]
    split
    · rename_i ht
      rw [ht]
    · rfl
  | unsubscribe n => cases topic <;> rfl
  | publish t payload =>
    show (x.publish t payload).1.bus.channel topic = if t = topic then _ else _
    rw [h.publish_eq, Bus.channel_withChannel]
    split
    · rename_i ht
      rw [ht]
    · rfl
  | next t n =>
    show (x.next t n (read t)).2.bus.channel topic = if t = topic then _ else _
    rw [h.next_snd, Bus.channel_withChannel]
    split
    · rename_i ht
      subst ht
      rfl
    · rfl

/-- The bus behind one more event. -/
lemma behind_append (x : Exchange) (history later : List BusEvent) :
    x.behind read (history ++ later) = (x.behind read history).behind read later :=
  List.foldl_append

/-- What holds of a bus after some events, when nobody listened before. -/
structure Tells (x : Exchange) (history : List BusEvent) : Prop where
  isOpen : x.Open
  sent : ∀ topic, ∃ log, (x.bus.channel topic).Sent log
  names : ∀ topic, (x.bus.channel topic).receivers.map Receiver.name =
    BusEvent.listeners topic history

/-- Every history ends in a bus that tells of it. -/
lemma tells (read : ∀ topic, Json → Option (α topic)) (history : List BusEvent) :
    (({} : Exchange).behind read history).Tells history := by
  induction history using List.reverseRecOn with
  | nil => exact ⟨⟨rfl, rfl⟩, fun topic => ⟨[], by cases topic <;> exact ⟨rfl, rfl⟩⟩,
      fun topic => by cases topic <;> rfl⟩
  | append_singleton history e ih =>
    rw [behind_append]
    refine ⟨ih.isOpen.step e, fun topic => ?_, fun topic => ?_⟩
    · obtain ⟨log, hlog⟩ := ih.sent topic
      show ∃ log, ((Exchange.step read _ e).bus.channel topic).Sent log
      rw [ih.isOpen.channel_step read topic]
      exact Channel.exists_sent_meet hlog e
    · show ((Exchange.step read _ e).bus.channel topic).receivers.map _ = _
      rw [ih.isOpen.channel_step read topic, Channel.names_meet, ih.names, BusEvent.listeners_append]

/-- A payload reaches everybody who listens to its topic. -/
lemma Tells.publish_snd {history : List BusEvent} (h : x.Tells history) (payload : Json) :
    (x.publish topic payload).2 = (BusEvent.listeners topic history).length := by
  rw [h.isOpen.publish_eq, ← h.names topic, List.length_map]
  unfold Channel.publish
  rcases hempty : (x.bus.channel topic).receivers with _ | ⟨r, rest⟩ <;> rfl

/-- Who subscribes under a name that nobody listens under is served from then on. -/
lemma Tells.serves_subscribe {history : List BusEvent} (h : x.Tells history)
    (read : ∀ topic, Json → Option (α topic))
    (hnew : name ∉ BusEvent.listeners topic history) :
    ((x.step read (.subscribe topic name)).bus.channel topic).Serves name
      ({} : Reading (α topic)) := by
  have hnone : (x.bus.channel topic).receiver? name = none := by
    refine List.find?_eq_none.mpr fun r hr heq => hnew ?_
    rw [← h.names topic, ← eq_of_beq heq]
    exact List.mem_map_of_mem hr
  obtain ⟨log, hlog⟩ := h.sent topic
  rw [h.isOpen.channel_step read topic]
  show (if topic = topic then _ else _ : Channel).Serves name _
  rw [if_pos rfl]
  exact .subscribe_self hlog hnone

/-- What a receiver that is served gets when it asks is what its reader is owed. -/
lemma Open.next_of_serves (h : x.Open) {r : Reading (α topic)}
    (hserves : (x.bus.channel topic).Serves name r) :
    (x.next topic name (read topic)).1 = r.owed (read topic) := by
  rw [h.next_fst, (hserves.receive (read topic)).1]
  unfold Reading.owed
  rcases r.found? (read topic) with _ | ⟨n, a⟩ <;> rfl

/-- As long as a reader stays it is served by the bus, and gets all that it is owed. -/
lemma Open.answers_of_serves (h : x.Open) {r : Reading (α topic)}
    (hserves : (x.bus.channel topic).Serves name r) {history : List BusEvent}
    (hstays : ∀ e ∈ history, e ≠ .unsubscribe name) :
    x.answers read topic name history =
        r.answers (read topic) (history.filterMap (BusEvent.turn? topic name)) ∧
      ((x.behind read history).bus.channel topic).Serves name
        ((history.filterMap (BusEvent.turn? topic name)).foldl (Reading.turn (read topic)) r) := by
  induction history generalizing x r with
  | nil => exact ⟨rfl, hserves⟩
  | cons e history ih =>
    have hserved := hserves.meet (read topic) topic (hstays e List.mem_cons_self)
    rw [← h.channel_step read topic] at hserved
    obtain ⟨hanswers, hend⟩ := ih (h.step e) hserved fun e he =>
      hstays e (List.mem_cons_of_mem _ he)
    rw [List.filterMap_cons]
    refine ⟨?_, ?_⟩
    · unfold answers
      rcases hturn : e.turn? topic name with _ | _ | _
      · rw [hturn] at hanswers
        exact hanswers
      · rw [hturn] at hanswers
        exact hanswers
      · rw [hturn] at hanswers
        exact congrArg₂ List.cons (h.next_of_serves hserves) hanswers
    · rcases hturn : e.turn? topic name with _ | t
      · rw [hturn] at hend
        exact hend
      · rw [hturn] at hend
        exact hend

variable (read) in
/-- How a receiver is served that subscribes to a topic after some events and stays for some more.
What it takes part in are the payloads that are published on its topic and its own requests; the
`Reading` after these turns says where it stands. -/
structure Served (before : List BusEvent) (topic : Topic) (name : String)
    (after : List BusEvent) : Prop where
  /-- What it gets depends on its own turns only. -/
  answers_eq : (({} : Exchange).behind read (before ++ [.subscribe topic name])).answers read topic
      name after = ({} : Reading (α topic)).answers (read topic)
        (after.filterMap (BusEvent.turn? topic name))
  /-- The events that it gets are those that are delivered to its reader. -/
  events_eq : ((({} : Exchange).behind read (before ++ [.subscribe topic name])).answers read topic
      name after).filterMap Delivery.event? = (Reading.after (read topic)
        (after.filterMap (BusEvent.turn? topic name))).delivered.map Prod.snd
  /-- What its reader sees published is what is published on its topic. -/
  published_eq : (Reading.after (read topic)
      (after.filterMap (BusEvent.turn? topic name))).published =
        after.filterMap (BusEvent.published? topic)
  /-- Its reader gets all that it has passed, in order, without what it cannot read or misses. -/
  laws : Reading.Laws (read topic) (after.filterMap (BusEvent.turn? topic name))
  /-- When it asks next it gets the first payload that it can read of those which it has not passed
  and which are among the newest. -/
  next : Reading.Answered (read topic) (Reading.after (read topic)
      (after.filterMap (BusEvent.turn? topic name)))
        ((({} : Exchange).behind read (before ++ .subscribe topic name :: after)).next topic name
          (read topic)).1

/-- Whatever happens on a bus, a payload reaches everybody who listens to its topic then, and each
receiver gets the payloads of its own topic, in order and each at most once, from its subscription
on and as long as it stays, without those that cannot be read and those that it fell behind of. -/
theorem deliveries (read : ∀ topic, Json → Option (α topic)) (history : List BusEvent) :
    (∀ topic payload, ((({} : Exchange).behind read history).publish topic payload).2 =
      (BusEvent.listeners topic history).length) ∧
    ∀ before topic name after, history = before ++ .subscribe topic name :: after →
      name ∉ BusEvent.listeners topic before → (∀ e ∈ after, e ≠ .unsubscribe name) →
      Served read before topic name after := by
  refine ⟨fun topic payload => (tells read history).publish_snd payload, ?_⟩
  rintro before topic name after rfl hnew hstays
  have hserves : ((({} : Exchange).behind read (before ++ [.subscribe topic name])).bus.channel
      topic).Serves name ({} : Reading (α topic)) := by
    rw [behind_append]
    exact (tells read before).serves_subscribe read hnew
  obtain ⟨hanswers, hend⟩ := (tells read _).isOpen.answers_of_serves hserves hstays
  rw [← behind_append, List.append_assoc, List.singleton_append] at hend
  refine ⟨hanswers, ?_, ?_, Reading.laws _ _, ?_⟩
  · rw [hanswers]
    exact (Reading.map_delivered_foldl (read topic) {} _).symm
  · rw [Reading.published_after, List.filterMap_filterMap]
    exact congrArg (List.filterMap · after) (funext BusEvent.payload?_turn?)
  · rw [(tells read _).isOpen.next_of_serves hend]
    exact Reading.answered_owed _ _

/-- A receiver of changes to which a payload that nobody can read and a change were published is
served. -/
theorem served_behind_malformed :
    "reindexer" ∉ BusEvent.listeners .changed [.publish .changed .null] ∧
    Served Topic.read [.publish .changed .null] .changed "reindexer"
      [.publish .changed (.str "nope"),
        .publish .changed (RecordChanged.toJson ⟨"acme", ⟨"account", "a1"⟩, .updated, none, none⟩),
        .next .changed "reindexer"] :=
  have hnew : "reindexer" ∉ BusEvent.listeners .changed [.publish .changed .null] :=
    List.not_mem_nil
  ⟨hnew, (deliveries Topic.read _).2 _ _ _ _ rfl hnew (by simp)⟩

end Exchange

end Dossier
