import Mathlib.Logic.Function.Basic
import Dossier.Proofs.Service.Reachable
import Dossier.Proofs.Store.Succession

/-!
# Several processes over one store

A `Site` is a store with the memories of the processes that share it and with all that is under way
between two transactions: runs of embedding, each from the moment at which its chunks are listed,
and changes of entities whose record was looked up.  A `Site.Step` is one transaction, one reply of
the embedding provider, or something that leaves the tables alone; steps of different processes
follow each other in any order.  What others do while the provider is called is a step of its own
here.
-/

namespace Dossier

variable {σ π : Type}

/-- How far a run of embedding has come: the provider was asked, it has answered, or it was given
up. -/
inductive Phase where
  | asked
  | answered (vs : List Vec)
  | failing (e : ServiceError)

/-- A run of embedding that is under way: who runs it, the record, and the chunks that were
listed. -/
structure Flight (π : Type) where
  process : π
  tenant : String
  record : Id
  batch : List StoredChunk
  phase : Phase

/-- The texts that the provider is asked about. -/
def Flight.texts (f : Flight π) : List String := f.batch.map (·.text)

/-- A reply of the provider that was accepted, with the chunks that it was asked about. -/
structure Reply where
  batch : List StoredChunk
  vectors : List Vec

/-- A change of an entity with the live record that was found for it. -/
structure Lead where
  change : RecordChanged
  record : Record

/-- A store, the memories of the processes that share it, and what is under way.  `replies` are the
replies that were accepted so far. -/
structure Site (σ π : Type) where
  store : Store
  memory : π → Memory
  drawn : Nat
  outside : σ
  flights : List (Flight π)
  leads : List Lead
  replies : List Reply

namespace Site

/-- The world as a process sees it at some time, when its operation is to be given up or is not. -/
def view (s : Site σ π) (p : π) (now : Instant) (cancelled : Bool) : World σ :=
  ⟨s.store, s.memory p, s.drawn, now, cancelled, s.outside⟩

/-- The site with the world that a process leaves behind. -/
def after [DecidableEq π] (s : Site σ π) (p : π) (w : World σ) : Site σ π :=
  { s with
    store := w.store
    memory := Function.update s.memory p w.memory
    drawn := w.drawn
    outside := w.outside }

/-- A site at its beginning: an empty store and processes that have just started. -/
def start (svc : Service σ) (outside : σ) : Site σ π where
  store := {}
  memory := fun _ => .fresh svc.dimension
  drawn := 0
  outside
  flights := []
  leads := []
  replies := []

variable [DecidableEq π]

/-- One step of a site.  An ingest, a refresh, a retirement, a requeue, and the commitment or the
failure of a batch are one transaction each; `list` and `find` look at the store; the provider
answers or is given up; a run of embedding is dropped; and in a step `aside` processes read, bring
their indexes up to date, start anew, draw identifiers and put evidence and audits on record, and
statements are refused from now on or no longer. -/
inductive Step (svc : Service σ) : Site σ π → Site σ π → Prop
  | ingest {s : Site σ π} (p : π) (now : Instant) (cancelled : Bool) (req : IngestRequest) :
      Step svc s (s.after p (stateAfter (svc.ingest req) (s.view p now cancelled)))
  | find {s : Site σ π} {lead : Lead}
      (h : perform (Store.findLinked lead.change.tenant lead.change.link) s.store =
        (.ok (some lead.record), s.store)) :
      Step svc s { s with leads := lead :: s.leads }
  | refresh {s : Site σ π} (p : π) (now : Instant) (cancelled : Bool) {lead : Lead}
      (hlead : lead ∈ s.leads) :
      Step svc s (s.after p
        (stateAfter (svc.refresh lead.change lead.record) (s.view p now cancelled)))
  | retire {s : Site σ π} (p : π) (now : Instant) (cancelled : Bool) {lead : Lead}
      (hlead : lead ∈ s.leads) :
      Step svc s (s.after p (stateAfter (Service.retire lead.record) (s.view p now cancelled)))
  | requeue {s : Site σ π} (p : π) (now : Instant) (cancelled : Bool) :
      Step svc s (s.after p
        (stateAfter (Action.store Store.requeueFailed) (s.view p now cancelled)))
  | list {s : Site σ π} (p : π) {tenant : String} {record : Id} {batch : List StoredChunk}
      (h : perform (Store.listPending tenant record) s.store = (.ok batch, s.store))
      (hsome : batch ≠ []) :
      Step svc s { s with flights := ⟨p, tenant, record, batch, .asked⟩ :: s.flights }
  | answer {s : Site σ π} {before rest : List (Flight π)} {f : Flight π} {vs : List Vec}
      (hf : s.flights = before ++ f :: rest) (hasked : f.phase = .asked)
      (hvs : svc.checked f.texts.length (svc.embed f.texts s.outside).outcome = .ok vs) :
      Step svc s { s with
        outside := (svc.embed f.texts s.outside).outside
        flights := before ++ { f with phase := .answered vs } :: rest
        replies := ⟨f.batch, vs⟩ :: s.replies }
  | giveUp {s : Site σ π} {before rest : List (Flight π)} {f : Flight π} (e : ServiceError)
      (hf : s.flights = before ++ f :: rest) (hasked : f.phase = .asked) :
      Step svc s { s with flights := before ++ { f with phase := .failing e } :: rest }
  | commit {s : Site σ π} {before rest : List (Flight π)} {f : Flight π} {vs : List Vec}
      (now : Instant) (cancelled : Bool) (hf : s.flights = before ++ f :: rest)
      (hanswered : f.phase = .answered vs) :
      Step svc s ({ s with flights := before ++ rest }.after f.process
        (stateAfter (svc.commit f.tenant f.record f.batch vs) (s.view f.process now cancelled)))
  | fail {s : Site σ π} {before rest : List (Flight π)} {f : Flight π} {e : ServiceError}
      (now : Instant) (cancelled : Bool) (hf : s.flights = before ++ f :: rest)
      (hfailing : f.phase = .failing e) :
      Step svc s ({ s with flights := before ++ rest }.after f.process
        (stateAfter (Service.fail f.batch e) (s.view f.process now cancelled)))
  | drop {s : Site σ π} {before rest : List (Flight π)} {f : Flight π}
      (hf : s.flights = before ++ f :: rest) : Step svc s { s with flights := before ++ rest }
  | aside {s : Site σ π} {store : Store} {memory : π → Memory} {drawn : Nat} (outside : σ)
      (htables : Store.SameTables s.store store)
      (hmemory : ∀ p, (memory p).vectors.dimension = svc.dimension) (hdrawn : s.drawn ≤ drawn) :
      Step svc s { s with store, memory, drawn, outside }

/-- A run of a site. -/
abbrev Run (svc : Service σ) : Site σ π → Site σ π → Prop := Relation.ReflTransGen (Step svc)

/-- A site that a run leads to from its beginning. -/
def Reachable (svc : Service σ) (s : Site σ π) : Prop := ∃ outside, Run svc (.start svc outside) s

end Site

end Dossier
