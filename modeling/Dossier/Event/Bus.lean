import Dossier.Event

/-!
# The event bus

Each topic is a channel.  A payload that is published reaches every receiver that the topic has at
that time, and nobody when there is none.  A channel keeps the newest 1024 payloads: a receiver that
has fallen further behind goes on with the oldest payload that is left.
-/

namespace Dossier

/-- How many payloads a channel keeps. -/
def channelCapacity : Nat := 1024

/-- A receiver by its name, and the number of the payload that it reads next. -/
structure Receiver where
  name : String
  next : Nat

/-- A channel: how many payloads were ever sent, the newest of them, the last one first, and the
receivers. -/
structure Channel where
  sent : Nat := 0
  kept : List Json := []
  receivers : List Receiver := []

namespace Channel

/-- The channel with one more receiver, which reads what is sent from now on. -/
def subscribe (ch : Channel) (name : String) : Channel :=
  { ch with receivers := ch.receivers ++ [⟨name, ch.sent⟩] }

/-- The channel without the receiver of a name. -/
def unsubscribe (ch : Channel) (name : String) : Channel :=
  { ch with receivers := ch.receivers.filter (·.name != name) }

/-- The receiver of a name. -/
def receiver? (ch : Channel) (name : String) : Option Receiver :=
  ch.receivers.find? (·.name == name)

/-- The channel once a payload has been sent, and how many receivers it reaches. -/
def publish (ch : Channel) (payload : Json) : Channel × Nat :=
  if ch.receivers.isEmpty then (ch, 0)
  else
    ({ ch with sent := ch.sent + 1, kept := (payload :: ch.kept).take channelCapacity },
      ch.receivers.length)

/-- The number of the oldest payload that is kept. -/
def oldest (ch : Channel) : Nat := ch.sent - ch.kept.length

/-- The payloads from a number on that are still kept, the oldest first, each with its number. -/
def backlog (ch : Channel) (next : Nat) : List (Nat × Json) :=
  let first := max next ch.oldest
  ((ch.kept.take (ch.sent - first)).reverse).mapIdx fun i payload => (first + i, payload)

/-- The channel with a receiver moved to the payload of a number. -/
def advance (ch : Channel) (name : String) (next : Nat) : Channel :=
  { ch with receivers := ch.receivers.map fun r => if r.name == name then { r with next } else r }

/-- The next payload of a receiver that can be read, if there is one, and the channel behind it.
Payloads that cannot be read are passed over. -/
def receive {α : Type} (ch : Channel) (name : String) (read : Json → Option α) :
    Option α × Channel :=
  match ch.receiver? name with
  | none => (none, ch)
  | some r =>
    match (ch.backlog r.next).findSome? fun (n, payload) => (read payload).map fun a => (n, a) with
    | some (n, a) => (some a, ch.advance name (n + 1))
    | none => (none, ch.advance name ch.sent)

/-- All payloads that wait for a receiver, and the channel behind them. -/
def drain (ch : Channel) (name : String) : List Json × Channel :=
  match ch.receiver? name with
  | none => ([], ch)
  | some r => ((ch.backlog r.next).map (·.2), ch.advance name ch.sent)

end Channel

/-- The channels of both topics. -/
structure Bus where
  ingested : Channel := {}
  changed : Channel := {}

namespace Bus

/-- The channel of a topic. -/
def channel (bus : Bus) : Topic → Channel
  | .ingested => bus.ingested
  | .changed => bus.changed

/-- The bus with the channel of a topic replaced. -/
def withChannel (bus : Bus) (topic : Topic) (ch : Channel) : Bus :=
  match topic with
  | .ingested => { bus with ingested := ch }
  | .changed => { bus with changed := ch }

/-- The bus with one more receiver of a topic. -/
def subscribe (bus : Bus) (topic : Topic) (name : String) : Bus :=
  bus.withChannel topic ((bus.channel topic).subscribe name)

/-- The bus without the receivers of a name. -/
def unsubscribe (bus : Bus) (name : String) : Bus :=
  { ingested := bus.ingested.unsubscribe name, changed := bus.changed.unsubscribe name }

/-- The bus once a payload has been published, and how many receivers it reaches. -/
def publish (bus : Bus) (topic : Topic) (payload : Json) : Bus × Nat :=
  let (ch, n) := (bus.channel topic).publish payload
  (bus.withChannel topic ch, n)

/-- The next payload of a receiver that can be read, and the bus behind it. -/
def receive {α : Type} (bus : Bus) (topic : Topic) (name : String) (read : Json → Option α) :
    Option α × Bus :=
  let (a, ch) := (bus.channel topic).receive name read
  (a, bus.withChannel topic ch)

/-- All payloads that wait for a receiver, and the bus behind them. -/
def drain (bus : Bus) (topic : Topic) (name : String) : List Json × Bus :=
  let (payloads, ch) := (bus.channel topic).drain name
  (payloads, bus.withChannel topic ch)

end Bus

end Dossier
