import Dossier.Service.Subscribers

/-!
# A drill of the subscribers

Changes are published one after the other, and both subscribers work off each of them.
-/

namespace Dossier.Service

variable {σ : Type}

/-- Publishes changes one after the other and lets both subscribers work off each before the next.
An embedder that gave up does not go on, and nobody does once the operation is given up. -/
def relay (svc : Service σ) (embedder reindexer : String) : Bool → List Json → Action σ Unit
  | _, [] => return ()
  | embedding, payload :: rest => do
    publish .changed payload
    if (← get).cancelled then relay svc embedder reindexer embedding rest
    else
      svc.runReindexer reindexer
      let stopped ← if embedding then svc.runEmbedder embedder else pure true
      relay svc embedder reindexer (!stopped) rest

/-- The memory with its bus changed. -/
def onBus (change : Bus → Bus) : Action σ Unit :=
  Action.onMemory fun m => { m with bus := change m.bus }

/-- Starts both subscribers, hands some changes on to them, and counts the records that were
ingested meanwhile. -/
def runBoth (svc : Service σ) (payloads : List Json) : Action σ Nat := do
  onBus fun bus => ((bus.subscribe .ingested "embedder").subscribe .ingested "observer").subscribe
    .changed "reindexer"
  svc.relay "embedder" "reindexer" true payloads
  let seen ← waiting .ingested "observer"
  onBus fun bus => ((bus.unsubscribe "embedder").unsubscribe "observer").unsubscribe "reindexer"
  return seen

end Dossier.Service
