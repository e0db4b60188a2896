import Dossier.Embedding.Hashing
import Dossier.Proofs.Service.Move

/-!
# Runs of a service

A `Step` of a service is one operation from its beginning to its end, or something that happens
between operations; a `Run` is a sequence of steps, and a world is `Reachable` when a run leads to
it from an empty store.  Every reachable store is sound, and a deleted record stays as it is.
-/

namespace Dossier

variable {σ : Type}

/-! ### Moves as changes of the store -/

namespace Store

variable {chunking : Text.Chunking} {dimension : Nat} {s : Store}

/-- The pending chunks of a live record of a tenant. -/
lemma mem_pendingOf {tenant : String} {record : Id} {c : StoredChunk}
    (hc : c ∈ s.pendingOf tenant record) :
    c ∈ s.chunks ∧ c.status = .pending ∧ c.record = record ∧
      ∃ r ∈ s.records, r.id = record ∧ r.tenant = tenant ∧ r.live := by
  unfold pendingOf inOrder at hc
  rw [List.mem_mergeSort] at hc
  obtain ⟨ctx, hctx, rfl⟩ := List.mem_map.mp hc
  obtain ⟨hlive, hwhich⟩ := List.mem_filter.mp hctx
  rw [Bool.and_eq_true, Bool.and_eq_true, beq_iff_eq, beq_iff_eq, beq_iff_eq] at hwhich
  obtain ⟨⟨hid, htenant⟩, hstatus⟩ := hwhich
  obtain ⟨c, hmem, hcontext⟩ := List.mem_filterMap.mp hlive
  unfold context? at hcontext
  split at hcontext
  · rename_i r hr
    split at hcontext
    · rename_i hrlive
      cases hcontext
      unfold record? at hr
      have hrecord := List.find?_some hr
      rw [beq_iff_eq] at hrecord
      exact ⟨hmem, hstatus, hrecord.symm.trans hid, r, List.mem_of_find?_eq_some hr, hid, htenant,
        hrlive⟩
    · cases hcontext
  · cases hcontext

/-- Whoever has just listed the pending chunks of a record knows of them. -/
lemma Keyed.knows_pendingOf (hs : s.Keyed) {tenant : String} {record : Id}
    (hsome : s.pendingOf tenant record ≠ []) :
    s.Knows tenant record (s.pendingOf tenant record) where
  place := by
    intro c hc held hheld hid
    rw [hs.chunk_eq hheld (mem_pendingOf hc).1 hid]
  own := fun c hc => (mem_pendingOf hc).2.2.1
  tenant := by
    intro r hr hid
    obtain ⟨c, hc⟩ := List.exists_mem_of_ne_nil _ hsome
    obtain ⟨-, -, -, r', hr', hid', htenant, -⟩ := mem_pendingOf hc
    rw [hs.record_eq hr hr' (hid.trans hid'.symm)]
    exact htenant

/-- Whoever has vectors for the pending chunks of a record, which were just listed, knows of the
chunks in the batch, if there are any. -/
lemma Keyed.zip_pendingOf_cases (hs : s.Keyed) (tenant : String) (record : Id) (vs : List Vec) :
    (s.pendingOf tenant record).zip vs = [] ∨
      s.Knows tenant record (((s.pendingOf tenant record).zip vs).map (·.1)) := by
  by_cases hsome : s.pendingOf tenant record = []
  · left
    rw [hsome, List.zip_nil_left]
  · right
    refine (hs.knows_pendingOf hsome).mono ?_
    intro c hc
    obtain ⟨pair, hpair, rfl⟩ := List.mem_map.mp hc
    exact (List.of_mem_zip hpair).1

/-- The commitment of a batch that has just been listed is a change. -/
lemma Sound.change_committed (hs : Sound chunking dimension s) (tenant : String) (record : Id)
    {vs : List Vec} (hdim : ∀ v ∈ vs, v.length = dimension) (version : String) (now : Instant) :
    Change chunking dimension s (s.committed tenant record version now
      ((s.pendingOf tenant record).zip vs)) := by
  rcases hs.keyed.zip_pendingOf_cases tenant record vs with hnone | hknows
  · rw [hnone]
    exact .still (.refl s)
  · exact .committed hknows (fun pair hpair => hdim pair.2 (List.of_mem_zip hpair).2) version now

end Store

namespace Service

variable (svc : Service σ)

/-- How a service cuts texts. -/
def cutting : Text.Chunking := IngestRequest.chunking svc.config.chunking

/-- The dimension of the vectors of a service. -/
def dimension : Nat := svc.config.embedding.dimensions

/-- Is a store as the service keeps it? -/
abbrev Keeps (s : Store) : Prop := s.Sound svc.cutting svc.dimension

end Service

variable {svc : Service σ} {w w' : World σ}

/-- A move for a tenant is a change of the store. -/
lemma MoveOf.change {tenant : String} (h : MoveOf svc tenant w w') (hw : svc.Keeps w.store) :
    Store.Change svc.cutting svc.dimension w.store w'.store := by
  cases h with
  | still h => exact .still h.tables
  | staged htenant hd h => exact .staged hd h
  | retired hr htenant now =>
    refine .retired ?_ now
    intro held hheld hid
    rw [hw.keyed.record_eq hheld hr hid]
  | committed record now hlength hdim =>
    exact hw.change_committed tenant record hdim svc.version now
  | failed record error => exact .failed _ error
  | followed h => exact .still (.refl _)

/-- A move of a service is a change of the store. -/
lemma Move.change (h : Move svc w w') (hw : svc.Keeps w.store) :
    Store.Change svc.cutting svc.dimension w.store w'.store := by
  cases h with
  | of tenant h => exact h.change hw
  | requeued => exact .requeued
  | rebuilt hsources hrows => exact .still (.refl _)

/-- Moves of a service keep the store sound. -/
lemma Moves.sound (h : Moves svc w w') (hw : svc.Keeps w.store) : svc.Keeps w'.store := by
  induction h with
  | refl => exact hw
  | tail _ hmove ih => exact (hmove.change ih).sound ih

/-- Moves of a service leave deleted records as they are. -/
lemma Moves.keeps_deleted (h : Moves svc w w') (hw : svc.Keeps w.store) {r : Record}
    (hr : r ∈ w.store.records) (hdead : r.live = false) : r ∈ w'.store.records := by
  induction h with
  | refl => exact hr
  | tail hmoves hmove ih =>
    have hmid := Moves.sound hmoves hw
    exact (hmove.change hmid).keeps_deleted hmid ih hdead

/-! ### Operations and steps -/

/-- The operations of a service. -/
inductive Operation where
  | ingest (req : IngestRequest)
  | embedRecord (tenant : String) (record : Id)
  | embedBacklog
  | handleChange (e : RecordChanged)
  | queueReindex (req : ReindexRequest)
  | rebuild
  | sync
  | search (tenant query : String) (limit : Nat)
  | pack (req : PackRequest)

/-- The world behind an operation, whether it succeeds or fails. -/
def Operation.run (svc : Service σ) (w : World σ) : Operation → World σ
  | ingest req => stateAfter (svc.ingest req) w
  | embedRecord tenant record => stateAfter (svc.embedRecord tenant record) w
  | embedBacklog => stateAfter svc.embedBacklog w
  | handleChange e => stateAfter (svc.handleChange e) w
  | queueReindex req => stateAfter (svc.queueReindex req) w
  | rebuild => stateAfter Service.rebuild w
  | sync => stateAfter Service.sync w
  | search tenant query limit => stateAfter (svc.hybridSearch tenant query limit) w
  | pack req => stateAfter (svc.pack req) w

/-- Every operation of a service with a quiet provider makes moves only. -/
lemma Operation.moves (hq : svc.Quiet) (op : Operation) (w : World σ) :
    Moves svc w (op.run svc w) := by
  cases op with
  | ingest req => exact (Service.drafted_ingest svc req w).movesOf.moves
  | embedRecord tenant record => exact (hq.movesOf_embedRecord tenant record w).moves
  | embedBacklog => exact hq.moves_embedBacklog w
  | handleChange e => exact (Service.movesOf_handleChange e w).moves
  | queueReindex req =>
    have hstill : Within (MovesOf svc req.tenant) (svc.queueReindex req) :=
      movesOf_of_still (svc.still_queueReindex req)
    exact (hstill w).moves
  | rebuild => exact Service.moves_rebuild w
  | sync =>
    have hsync : Within (MovesOf svc "") Service.sync := Service.movesOf_sync
    exact (hsync w).moves
  | search tenant query limit => exact (hq.movesOf_hybridSearch tenant query limit w).moves
  | pack req => exact (hq.movesOf_pack req w).moves

/-- One step of a run: an operation from its beginning to its end; or time passes, the state outside
changes, events are delivered, the operations to come are given up or not, and statements are
refused from now on or no longer; or the process is started anew over the same store. -/
inductive Step (svc : Service σ) : World σ → World σ → Prop
  | operation {w : World σ} (op : Operation) : Step svc w (op.run svc w)
  | elapse {w : World σ} (now : Instant) (cancelled : Bool) (outside : σ) (bus : Bus)
      (refused : List Statement) :
      Step svc w { w with
        store := { w.store with refused }
        memory := { w.memory with bus }
        now, cancelled, outside }
  | restart {w : World σ} : Step svc w { w with memory := .fresh svc.dimension }

/-- A run of a service. -/
abbrev Run (svc : Service σ) : World σ → World σ → Prop := Relation.ReflTransGen (Step svc)

/-- The world of a process that has just started over an empty store. -/
def World.start (svc : Service σ) (now : Instant) (outside : σ) : World σ :=
  ⟨{}, .fresh svc.dimension, 0, now, false, outside⟩

/-- A world that a run leads to from an empty store. -/
def Reachable (svc : Service σ) (w : World σ) : Prop :=
  ∃ now outside, Run svc (.start svc now outside) w

/-- A run from a reachable world leads to reachable worlds. -/
lemma Reachable.run (hw : Reachable svc w) (h : Run svc w w') : Reachable svc w' := by
  obtain ⟨now, outside, hstart⟩ := hw
  exact ⟨now, outside, hstart.trans h⟩

/-- A step keeps the store sound. -/
lemma Step.sound (hq : svc.Quiet) (h : Step svc w w') (hw : svc.Keeps w.store) :
    svc.Keeps w'.store := by
  cases h with
  | operation op => exact (op.moves hq w).sound hw
  | elapse now cancelled outside bus refused => exact hw.of_sameTables ⟨rfl, rfl, rfl, rfl⟩
  | restart => exact hw

/-- A step leaves deleted records as they are. -/
lemma Step.keeps_deleted (hq : svc.Quiet) (h : Step svc w w') (hw : svc.Keeps w.store)
    {r : Record} (hr : r ∈ w.store.records) (hdead : r.live = false) : r ∈ w'.store.records := by
  cases h with
  | operation op => exact (op.moves hq w).keeps_deleted hw hr hdead
  | elapse now cancelled outside bus refused => exact hr
  | restart => exact hr

/-- A run keeps the store sound. -/
lemma Run.sound (hq : svc.Quiet) (h : Run svc w w') (hw : svc.Keeps w.store) :
    svc.Keeps w'.store := by
  induction h with
  | refl => exact hw
  | tail _ hstep ih => exact hstep.sound hq ih

/-- A run leaves deleted records as they are. -/
lemma Run.keeps_deleted (hq : svc.Quiet) (h : Run svc w w') (hw : svc.Keeps w.store)
    {r : Record} (hr : r ∈ w.store.records) (hdead : r.live = false) : r ∈ w'.store.records := by
  induction h with
  | refl => exact hr
  | tail hrun hstep ih => exact hstep.keeps_deleted hq (Run.sound hq hrun hw) ih hdead

/-- The store of every reachable world is sound. -/
lemma Reachable.sound (hq : svc.Quiet) (hw : Reachable svc w) : svc.Keeps w.store := by
  obtain ⟨now, outside, hrun⟩ := hw
  exact Run.sound hq hrun (Store.sound_empty svc.cutting svc.dimension)

/-- Operations one after the other are a run. -/
lemma Run.operations (svc : Service σ) (ops : List Operation) (w : World σ) :
    Run svc w (ops.foldl (Operation.run svc) w) := by
  induction ops generalizing w with
  | nil => exact .refl
  | cons op rest ih =>
    rw [List.foldl_cons]
    exact (Relation.ReflTransGen.single (.operation op)).trans (ih _)

/-! ### A service on its own -/

/-- A service that embeds by hashing and follows the standard policy.  It knows nothing of entities,
and every audit event is accepted. -/
def Service.standalone (config : Config) : Service Unit where
  config
  registry := .standard
  fresh := Id.mk
  embed texts o :=
    ⟨.ok (texts.map (Embedding.hashed config.embedding.dimensions)), fun s => s, false, o⟩
  permissions p _ := .ok (Policy.standardFilter p)
  redact items _ := .ok (Policy.standardRedaction items)
  audit _ o := (.ok (), o)
  entity _ _ o := (.ok none, o)

/-- The hash of a text has as many components as it is to have. -/
lemma Embedding.length_hashed (dimension : Nat) (text : String) :
    (hashed dimension text).length = dimension := by
  unfold hashed bucketCounts
  dsimp only
  split
  · rw [List.length_map, List.length_set, List.length_map, List.length_range]
  · rw [List.length_map, List.length_map, List.length_range]

/-- The provider of a service on its own is quiet. -/
lemma Service.quiet_standalone (config : Config) : (standalone config).Quiet :=
  fun _ _ s => .refl s

/-- A configuration with vectors of two components, and with standard values where there are any. -/
def Config.small : Config where
  service := ⟨"127.0.0.1:8080", "127.0.0.1:8081", "info"⟩
  store := ⟨"sqlite::memory:", 1⟩
  embedding := ⟨"hashing", "", "", "", "terms", 2, 1000, []⟩

/-- A configuration that differs from `Config.small` in how texts are cut. -/
def Config.narrow : Config := { Config.small with chunking := ⟨3, 0⟩ }

/-- A note of a tenant about an account. -/
def IngestRequest.sampleNote (tenant title content : String) : IngestRequest where
  tenant
  sourceKind := .note
  title
  content
  entity := some ⟨"account", "a1"⟩
  metadata := none
  owner := none

/-- The world of a service on its own behind some operations. -/
def Service.standaloneAfter (ops : List Operation) : World Unit :=
  ops.foldl (Operation.run (standalone .small)) (.start (standalone .small) ⟨0⟩ ())

/-- The worlds of a service on its own are reachable. -/
lemma Service.reachable_standaloneAfter (ops : List Operation) :
    Reachable (standalone .small) (standaloneAfter ops) :=
  ⟨⟨0⟩, (), Run.operations _ ops _⟩

end Dossier
