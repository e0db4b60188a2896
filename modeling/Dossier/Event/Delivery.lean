import Dossier.Event.Bus

/-!
# Delivery

A receiver that asks for its next event gets one, or finds nothing that it can read, or learns that
no more will come: because listening was given up, or because the bus was closed and nothing is
left.
-/

namespace Dossier

/-- What a receiver gets. -/
inductive Delivery (α : Type) where
  | event (e : α)
  | idle
  | ended

/-- A bus that listeners may give up and that may be closed. -/
structure Exchange where
  bus : Bus := {}
  cancelled : Bool := false
  closed : Bool := false

namespace Exchange

/-- Sends a payload and counts the receivers; nobody is reached once the bus is closed. -/
def publish (x : Exchange) (topic : Topic) (payload : Json) : Exchange × Nat :=
  if x.closed then (x, 0)
  else
    let (bus, n) := x.bus.publish topic payload
    ({ x with bus }, n)

/-- Sends some payloads and counts the receivers of the last one. -/
def publishAll (x : Exchange) (topic : Topic) (payloads : List Json) : Exchange × Nat :=
  payloads.foldl (fun (state : Exchange × Nat) payload => state.1.publish topic payload) (x, 0)

/-- The next event of a receiver that it can read. -/
def next {α : Type} (x : Exchange) (topic : Topic) (receiver : String) (read : Json → Option α) :
    Delivery α × Exchange :=
  if x.cancelled then (.ended, x)
  else
    match x.bus.receive topic receiver read with
    | (some e, bus) => (.event e, { x with bus })
    | (none, bus) => (if x.closed then .ended else .idle, { x with bus })

/-- Does a topic have a receiver of a name? -/
def listens (x : Exchange) (topic : Topic) (receiver : String) : Bool :=
  ((x.bus.channel topic).receiver? receiver).isSome

end Exchange

end Dossier
