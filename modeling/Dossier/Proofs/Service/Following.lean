import Dossier.Proofs.Service.Projection
import Dossier.Proofs.Service.Watermark

/-!
# Processes follow the store

A process whose store is written by services of its own configuration has nothing in its vector
index but chunks with a vector.  When it takes over what was written since, its index is therefore
that of the store (`Memory.Follows.mem_follow`), whatever else it did before.
-/

namespace Dossier

variable {σ : Type}

/-! ### Entries of the lexical index -/

namespace LexicalIndex

variable {index : LexicalIndex}

/-- An index that names every chunk once does so without some chunks. -/
lemma nodup_remove (h : (index.entries.map (·.chunk)).Nodup) (chunks : List Id) :
    ((index.remove chunks).entries.map (·.chunk)).Nodup :=
  h.sublist (List.filter_sublist.map _)

/-- An index that names every chunk once does so with one more chunk. -/
lemma nodup_add (h : (index.entries.map (·.chunk)).Nodup) (chunk record : Id)
    (tenant text : String) :
    ((index.add chunk record tenant text).entries.map (·.chunk)).Nodup := by
  unfold add
  rw [List.map_cons, List.nodup_cons]
  refine ⟨?_, nodup_remove h [chunk]⟩
  intro hmem
  obtain ⟨e, he, heq⟩ := List.mem_map.mp hmem
  exact (mem_remove.mp he).2 (List.mem_singleton.mpr heq)

/-- An index that names every chunk once does so with more chunks. -/
lemma nodup_foldl_add {α : Type} {chunk record : α → Id} {tenant text : α → String} {as : List α}
    (h : (index.entries.map (·.chunk)).Nodup) :
    ((as.foldl (fun index a => index.add (chunk a) (record a) (tenant a) (text a))
      index).entries.map (·.chunk)).Nodup := by
  induction as generalizing index with
  | nil => exact h
  | cons a rest ih => exact ih (nodup_add h _ _ _ _)

end LexicalIndex

/-- Every vector of a store is in an index, with the value that its text stands for. -/
def VectorIndex.Covers (index : VectorIndex) (s : Store) : Prop :=
  ∀ v ∈ s.vectors, ∃ x, Store.StoredVector.value v = .ok x ∧ (v.chunk, x) ∈ index.entries

/-! ### Following a store -/

/-- What a process has of a store: it has seen the vectors up to the number that it remembers, and
it has nothing but chunks with a vector; and the lexical index names a chunk once. -/
structure Memory.Follows (m : Memory) (dimension : Nat) (s : Store) : Prop
    extends m.Tracks s where
  dimension : m.vectors.dimension = dimension
  backed : ∀ e ∈ m.vectors.entries, ∃ v ∈ s.vectors, v.chunk = e.1
  lexical : (m.lexical.entries.map (·.chunk)).Nodup

namespace Memory.Follows

variable {chunking : Text.Chunking} {dimension : Nat} {s : Store} {m : Memory}
  {rows : List ListedVector}

/-- A process that has just started follows every keyed store. -/
lemma fresh (hs : s.Keyed) : (Memory.fresh dimension).Follows dimension s where
  toTracks := .of_unseen hs rfl rfl
  dimension := rfl
  backed := fun _ he => nomatch he
  lexical := List.nodup_nil

/-- A process follows a store still when neither its indexes nor the tables change. -/
lemma of_same {m' : Memory} {t : Store} (h : m.Follows dimension s)
    (hlexical : m'.lexical = m.lexical) (hvectors : m'.vectors = m.vectors)
    (hmark : m'.watermark = m.watermark) (hsame : Store.SameTables s t) :
    m'.Follows dimension t where
  toTracks := by
    have hensues : Store.Ensues (fun _ => False) s t := hsame.ensues
    exact (h.toTracks.of_ensues hensues).of_index hvectors hmark
  dimension := by
    rw [hvectors]
    exact h.dimension
  backed := by
    rw [hvectors, hsame.vectors]
    exact h.backed
  lexical := by
    rw [hlexical]
    exact h.lexical

/-- The vector index of a process that leaves no vector of a store out is that of the store. -/
lemma mem_of_covers (h : m.Follows dimension s) (hall : m.vectors.Covers s) {e : Id × Vec} :
    e ∈ m.vectors.entries ↔
      ∃ v ∈ s.vectors, v.chunk = e.1 ∧ Store.StoredVector.value v = .ok e.2 := by
  constructor
  · intro he
    obtain ⟨v, hv, hchunk⟩ := h.backed e he
    obtain ⟨x, hx, hin⟩ := hall v hv
    have heq : (v.chunk, x) = e := List.inj_on_of_nodup_map h.named hin he hchunk
    refine ⟨v, hv, hchunk, ?_⟩
    rw [hx, ← heq]
  · rintro ⟨v, hv, hchunk, hvalue⟩
    obtain ⟨x, hx, hin⟩ := hall v hv
    rw [hvalue] at hx
    cases hx
    rw [hchunk] at hin
    exact hin

/-- What a process has in its index when it takes over what was written since has a vector. -/
lemma backed_follow (hs : s.Keyed) (hbacked : ∀ e ∈ m.vectors.entries, ∃ v ∈ s.vectors, v.chunk = e.1)
    (hrows : s.listedAfter m.watermark = .ok rows) :
    ∀ e ∈ (m.follow rows).vectors.entries, ∃ v ∈ s.vectors, v.chunk = e.1 := by
  intro e he
  rcases (Tracks.mem_entries_follow hs hrows).mp he with ⟨row, hin, -, rfl⟩ | ⟨hold, -⟩
  · obtain ⟨v, hv, -, -, -, hchunk⟩ := (hs.mem_listedAfter hrows).mp hin
    exact ⟨v, hv, hchunk⟩
  · exact hbacked e hold

/-- A process that takes over what was written since follows the store. -/
lemma followed (h : m.Follows dimension s) (hs : s.Sound chunking dimension)
    (hrows : s.listedAfter m.watermark = .ok rows) : (m.follow rows).Follows dimension s where
  toTracks := h.toTracks.followed hs.keyed hrows
  dimension := (dimension_follow m rows).trans h.dimension
  backed := backed_follow hs.keyed h.backed hrows
  lexical := h.lexical

/-- A process that has taken over what was written since leaves no vector out. -/
lemma covers_follow (h : m.Follows dimension s) (hs : s.Sound chunking dimension)
    (hrows : s.listedAfter m.watermark = .ok rows) : (m.follow rows).vectors.Covers s := by
  intro v hv
  obtain ⟨-, -, -, -, hdim⟩ := hs.owner_of_vector hv
  exact h.toTracks.seen_follow hs.keyed hrows hv (hdim.trans h.dimension.symm)

/-- The vector index of a process that has taken over what was written since is that of the
store. -/
theorem mem_follow (h : m.Follows dimension s) (hs : s.Sound chunking dimension)
    (hrows : s.listedAfter m.watermark = .ok rows) {e : Id × Vec} :
    e ∈ (m.follow rows).vectors.entries ↔
      ∃ v ∈ s.vectors, v.chunk = e.1 ∧ Store.StoredVector.value v = .ok e.2 :=
  (h.followed hs hrows).mem_of_covers (h.covers_follow hs hrows)

/-- A process that follows a store ranks against the vectors of the store's dimension and no
others. -/
lemma rank_cases (h : m.Follows dimension s) (v : Vec) :
    (v.length = dimension ∧ ∃ hits, m.vectors.rank v = .ok hits) ∨
      v.length ≠ dimension ∧ ∃ e, m.vectors.rank v = .error e := by
  have hiff : (∃ hits, m.vectors.rank v = .ok hits) ↔ v.length = dimension := by
    rw [VectorIndex.rank_isOk_iff, h.dimension]
  rcases hrank : m.vectors.rank v with e | hits
  · refine .inr ⟨fun hlength => ?_, e, rfl⟩
    obtain ⟨hits, hhits⟩ := hiff.mpr hlength
    rw [hrank] at hhits
    cases hhits
  · exact .inl ⟨hiff.mp ⟨hits, hrank⟩, hits, rfl⟩

end Memory.Follows

/-! ### Processes at work -/

variable {svc : Service σ} {w w' : World σ}

/-- A move for a tenant keeps the dimension of the index. -/
lemma MoveOf.dimension {tenant : String} (h : MoveOf svc tenant w w') :
    w'.memory.vectors.dimension = w.memory.vectors.dimension := by
  cases h with
  | still h => rw [h.vectors]
  | staged htenant hd h => rfl
  | retired hr htenant now => rfl
  | committed record now hlength hdim => exact Memory.dimension_takingIn _ _
  | failed record error => rfl
  | followed h => exact Memory.dimension_follow _ _

/-- A process that has nothing but chunks with a vector has nothing else behind a move for a
tenant. -/
lemma MoveOf.backed {tenant : String} (h : MoveOf svc tenant w w') (hs : w.store.Keyed)
    (hw : ∀ e ∈ w.memory.vectors.entries, ∃ v ∈ w.store.vectors, v.chunk = e.1) :
    ∀ e ∈ w'.memory.vectors.entries, ∃ v ∈ w'.store.vectors, v.chunk = e.1 := by
  cases h with
  | still h =>
    rw [h.vectors, h.tables.vectors]
    exact hw
  | staged htenant hd h =>
    intro e he
    obtain ⟨hmem, hkept⟩ := VectorIndex.mem_remove.mp he
    obtain ⟨v, hv, hchunk⟩ := hw e hmem
    exact ⟨v, (Store.mem_vectors_staging h).mpr ⟨hv, by rwa [hchunk]⟩, hchunk⟩
  | retired hr htenant now =>
    intro e he
    obtain ⟨hmem, hkept⟩ := VectorIndex.mem_remove.mp he
    obtain ⟨v, hv, hchunk⟩ := hw e hmem
    exact ⟨v, Store.mem_vectorsBeside_iff.mpr ⟨hv, by rwa [hchunk]⟩, hchunk⟩
  | @committed record vs now hlength hdim =>
    rcases hs.zip_pendingOf_cases tenant record vs with hnone | hknows
    · rw [hnone]
      exact hw
    · intro e he
      change ∃ v ∈ (Store.committed _ _ _ _ _ _).vectors, _
      rw [Store.vectors_committed]
      rcases Memory.mem_takingIn he with hold | hnew
      · obtain ⟨v, hv, hchunk⟩ := hw e hold
        exact ⟨v, (hs.kept_embedAll hknows svc.version).2 v hv, hchunk⟩
      · obtain ⟨row, hrow, hwrites⟩ := Store.exists_row_of_counted hnew
        exact ⟨row, hrow, hwrites.chunk⟩
  | failed record error => exact hw
  | followed h => exact Memory.Follows.backed_follow hs hw h

/-- Behind a move for a tenant the lexical index names a chunk once if it did before. -/
lemma MoveOf.nodup_lexical {tenant : String} (h : MoveOf svc tenant w w')
    (hw : (w.memory.lexical.entries.map (·.chunk)).Nodup) :
    (w'.memory.lexical.entries.map (·.chunk)).Nodup := by
  cases h with
  | still h => rwa [h.lexical]
  | staged htenant hd h => exact LexicalIndex.nodup_foldl_add (LexicalIndex.nodup_remove hw _)
  | retired hr htenant now => exact LexicalIndex.nodup_remove hw _
  | committed record now hlength hdim => rwa [Memory.lexical_takingIn]
  | failed record error => exact hw
  | followed h => exact hw

/-- Behind a move the process follows the store. -/
lemma Move.follows (h : Move svc w w') (hs : svc.Keeps w.store)
    (hw : w.memory.Follows svc.dimension w.store) :
    w'.memory.Follows svc.dimension w'.store where
  toTracks := h.tracks hs.keyed hw.toTracks
  dimension := by
    cases h with
    | of tenant h => exact h.dimension.trans hw.dimension
    | requeued => exact hw.dimension
    | rebuilt hsources hrows => exact (Memory.dimension_rebuilt _ _ _).trans hw.dimension
  backed := by
    cases h with
    | of tenant h => exact h.backed hs.keyed hw.backed
    | requeued => exact hw.backed
    | @rebuilt sources rows hsources hrows =>
      have hcleared : ∀ e ∈ w.memory.vectors.clear.entries, ∃ v ∈ w.store.vectors, v.chunk = e.1 :=
        fun _ he => nomatch he
      exact Memory.Follows.backed_follow hs.keyed hcleared hrows
        (m := { w.memory with vectors := w.memory.vectors.clear, watermark := 0 })
  lexical := by
    cases h with
    | of tenant h => exact h.nodup_lexical hw.lexical
    | requeued => exact hw.lexical
    | rebuilt hsources hrows => exact LexicalIndex.nodup_foldl_add List.nodup_nil

/-- Moves of a service keep the process following the store. -/
lemma Moves.follows (h : Moves svc w w') (hs : svc.Keeps w.store)
    (hw : w.memory.Follows svc.dimension w.store) :
    w'.memory.Follows svc.dimension w'.store := by
  induction h with
  | refl => exact hw
  | tail hmoves hmove ih => exact hmove.follows (Moves.sound hmoves hs) ih

/-- Behind a step the process follows the store. -/
lemma Step.follows (hq : svc.Quiet) (h : Step svc w w') (hs : svc.Keeps w.store)
    (hw : w.memory.Follows svc.dimension w.store) :
    w'.memory.Follows svc.dimension w'.store := by
  cases h with
  | operation op => exact (op.moves hq w).follows hs hw
  | elapse now cancelled outside bus refused => exact hw.of_same rfl rfl rfl ⟨rfl, rfl, rfl, rfl⟩
  | restart => exact .fresh hs.keyed

/-- In every reachable world the process follows the store. -/
theorem Reachable.follows (hq : svc.Quiet) (hw : Reachable svc w) :
    w.memory.Follows svc.dimension w.store := by
  obtain ⟨now, outside, hrun⟩ := hw
  induction hrun with
  | refl => exact .fresh Store.keyed_empty
  | tail hrun hstep ih => exact hstep.follows hq (Reachable.sound hq ⟨now, outside, hrun⟩) ih

end Dossier
