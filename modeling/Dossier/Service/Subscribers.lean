import Dossier.Service.Change
import Dossier.Service.Embed

/-!
# Subscribers

Two subscribers wait for events: one embeds records that were ingested, the other handles changes of
entities.  Both go on to the next event when one fails.  The worker embeds what they have not
reached.
-/

namespace Dossier.Service

variable {σ : Type}

/-- The next event of a topic that a receiver can read. -/
def nextEvent {α : Type} (topic : Topic) (receiver : String) (read : Json → Option α) :
    Action σ (Option α) :=
  modifyGet fun w =>
    let (e, bus) := w.memory.bus.receive topic receiver read
    (e, { w with memory := { w.memory with bus } })

/-- How many payloads wait for a receiver. -/
def waiting (topic : Topic) (receiver : String) : Action σ Nat := do
  return ((← get).memory.bus.drain topic receiver).1.length

/-- Embeds the records of at most `n` events; tells whether it was given up. -/
def embedEvents (svc : Service σ) (receiver : String) : Nat → Action σ Bool
  | 0 => return false
  | n + 1 => do
    match ← nextEvent .ingested receiver KnowledgeIngested.ofJson with
    | none => return false
    | some e =>
      match ← Action.outcome (svc.embedRecord e.tenant e.record) with
      | .error .cancelled => return true
      | _ => svc.embedEvents receiver n

/-- Embeds the records of all events that wait; tells whether it was given up. -/
def runEmbedder (svc : Service σ) (receiver : String) : Action σ Bool := do
  svc.embedEvents receiver (← waiting .ingested receiver)

/-- Handles at most `n` changes. -/
def handleEvents (svc : Service σ) (receiver : String) : Nat → Action σ Unit
  | 0 => return ()
  | n + 1 => do
    match ← nextEvent .changed receiver RecordChanged.ofJson with
    | none => return ()
    | some e =>
      let _ ← Action.outcome (svc.handleChange e)
      svc.handleEvents receiver n

/-- Handles all changes that wait. -/
def runReindexer (svc : Service σ) (receiver : String) : Action σ Unit := do
  svc.handleEvents receiver (← waiting .changed receiver)

/-- Makes passes over the backlog until one is given up, at most `n` of them. -/
def runWorker (svc : Service σ) : Nat → Action σ Unit
  | 0 => return ()
  | n + 1 => do
    match ← Action.outcome svc.embedBacklog with
    | .error .cancelled => return ()
    | _ => if (← get).cancelled then return () else svc.runWorker n

end Dossier.Service
