import Dossier.Config.Types
import Dossier.Event.Bus
import Dossier.Policy
import Dossier.Retrieval.Lexical
import Dossier.Service.Error
import Dossier.Store.Trail

/-!
# The world of a service

An operation is a function on the world: on the store, which several processes may share, and on
what one process keeps in memory.  Whoever a service works together with, such as the embedding
provider or the policy, is a field of `Service`; their own state is the type `σ`.
-/

namespace Dossier

/-- What a process keeps in memory: its two indexes, the number of the last vector that it has taken
over from the store, and its bus. -/
structure Memory where
  lexical : LexicalIndex
  vectors : VectorIndex
  watermark : Nat
  bus : Bus

/-- The memory of a process that has just started. -/
def Memory.fresh (dimension : Nat) : Memory := ⟨.empty, .empty dimension, 0, {}⟩

/-- All that an operation may see and change.  `drawn` counts the identifiers that were drawn, and
`cancelled` tells whether the operation is to be given up. -/
structure World (σ : Type) where
  store : Store
  memory : Memory
  drawn : Nat
  now : Instant
  cancelled : Bool
  outside : σ

/-- What comes of a call to the embedding provider: the vectors, what others did to the store while
the call was under way, whether the operation was given up meanwhile, and the state outside. -/
structure Call (σ : Type) where
  outcome : Except ServiceError (List Vec)
  meanwhile : Store → Store
  cancels : Bool
  outside : σ

/-- A service: its settings, its renderers, the identifiers that it draws one after the other, and
whom it works together with. -/
structure Service (σ : Type) where
  config : Config
  registry : Entity.Registry
  fresh : Nat → Id
  /-- The embedding provider. -/
  embed : List String → σ → Call σ
  /-- Which records a principal may see. -/
  permissions : Principal → σ → Except ServiceError PermissionFilter
  /-- How texts look that are handed out. -/
  redact : List RedactionItem → σ → Except ServiceError (List RedactedItem)
  /-- Whether an audit event is accepted, which then goes into the store. -/
  audit : AuditEvent → σ → Except ServiceError Unit × σ
  /-- The state of an entity of a tenant. -/
  entity : String → EntityLink → σ → Except ServiceError (Option Json) × σ
  /-- The order in which a search goes through the terms of its query, another one for every state
  outside. -/
  order : σ → TermOrder := fun _ => .asWritten

/-- An operation. -/
abbrev Action (σ α : Type) := ExceptT ServiceError (StateM (World σ)) α

namespace Action

variable {σ α : Type}

/-- Carries out work on the store. -/
def store (work : StoreAction α) : Action σ α :=
  ExceptT.mk fun w =>
    let (r, s) : Except StoreError α × Store := work.run w.store
    (r.mapError ServiceError.ofStore, { w with store := s })

/-- Changes what the process keeps in memory. -/
def onMemory (change : Memory → Memory) : Action σ Unit :=
  modify fun w => { w with memory := change w.memory }

/-- Draws an identifier. -/
def draw (fresh : Nat → Id) : Action σ Id :=
  modifyGet fun w => (fresh w.drawn, { w with drawn := w.drawn + 1 })

/-- Asks someone outside who may change the state outside. -/
def ask (question : σ → Except ServiceError α × σ) : Action σ α :=
  ExceptT.mk fun w =>
    let (r, o) := question w.outside
    (r, { w with outside := o })

/-- The outcome of an operation, which then does not fail itself. -/
def outcome (act : Action σ α) : Action σ (Except ServiceError α) :=
  ExceptT.mk fun w =>
    let (r, w) : Except ServiceError α × World σ := act.run w
    (.ok r, w)

end Action

namespace Service

variable {σ : Type}

/-- Puts an audit event on record. -/
def record (svc : Service σ) (event : AuditEvent) : Action σ Unit := do
  Action.ask (svc.audit event)
  Action.store (Store.insertAudit event)

/-- Publishes an event. -/
def publish (topic : Topic) (payload : Json) : Action σ Unit :=
  Action.onMemory fun m => { m with bus := (m.bus.publish topic payload).1 }

end Service

end Dossier
