import Mathlib.Logic.Relation
import Mathlib.Order.Defs.Unbundled
import Mathlib.Tactic.Common
import Dossier.Service.World

/-!
# Work on a state that may fail

Operations on a store and on the world of a service are functions on a state with an outcome.
`perform` names the pair of outcome and state that they come to, and the lemmas of this file say how
it is composed.  `Within R x` says that `x` moves every state within the relation `R`, whether it
succeeds or fails; for a preorder `R` this is kept by sequencing (`Within.bind`).
-/

namespace Dossier

variable {ε S α β : Type}

/-- What some work comes to when it is begun in a state: its outcome, and the state behind it. -/
def perform (x : ExceptT ε (StateM S) α) (s : S) : Except ε α × S := x.run s

/-- The state behind some work, whether it succeeds or fails. -/
def stateAfter (x : ExceptT ε (StateM S) α) (s : S) : S := (perform x s).2

/-! ### Sequencing -/

/-- Giving a value changes nothing. -/
@[simp] lemma perform_pure (a : α) (s : S) :
    perform (pure a : ExceptT ε (StateM S) α) s = (.ok a, s) := rfl

/-- Reading the state changes nothing. -/
@[simp] lemma perform_get (s : S) :
    perform (get : ExceptT ε (StateM S) S) s = (.ok s, s) := rfl

/-- Putting a state in place succeeds. -/
@[simp] lemma perform_set (t s : S) :
    perform (set t : ExceptT ε (StateM S) PUnit) s = (.ok ⟨⟩, t) := rfl

/-- Work in sequence: a failure of the first part is the failure of the whole. -/
lemma perform_bind (x : ExceptT ε (StateM S) α) (f : α → ExceptT ε (StateM S) β) (s : S) :
    perform (x >>= f) s = match perform x s with
      | (.ok a, t) => perform (f a) t
      | (.error e, t) => (.error e, t) := by
  change (match (x.run s : Except ε α × S) with | (a, t) => (ExceptT.bindCont f a) t) = _
  unfold perform
  rcases (x.run s : Except ε α × S) with ⟨a | a, t⟩ <;> rfl

/-- Work in sequence whose first part succeeds goes on with the second. -/
lemma perform_bind_of_ok {x : ExceptT ε (StateM S) α} {s t : S} {a : α}
    (h : perform x s = (.ok a, t)) (f : α → ExceptT ε (StateM S) β) :
    perform (x >>= f) s = perform (f a) t := by
  rw [perform_bind, h]

/-- Work in sequence whose first part fails has failed. -/
lemma perform_bind_of_error {x : ExceptT ε (StateM S) α} {s t : S} {e : ε}
    (h : perform x s = (.error e, t)) (f : α → ExceptT ε (StateM S) β) :
    perform (x >>= f) s = (.error e, t) := by
  rw [perform_bind, h]

/-- Work in sequence succeeds exactly when both parts do, one after the other. -/
lemma perform_bind_eq_ok {x : ExceptT ε (StateM S) α} {f : α → ExceptT ε (StateM S) β}
    {s u : S} {b : β} :
    perform (x >>= f) s = (.ok b, u) ↔
      ∃ a t, perform x s = (.ok a, t) ∧ perform (f a) t = (.ok b, u) := by
  rw [perform_bind]
  rcases perform x s with ⟨a | a, t⟩
  · simp
  · constructor
    · intro h
      exact ⟨a, t, rfl, h⟩
    · rintro ⟨a', t', h, h'⟩
      cases h
      exact h'

/-- The state behind work in sequence. -/
lemma stateAfter_bind (x : ExceptT ε (StateM S) α) (f : α → ExceptT ε (StateM S) β) (s : S) :
    stateAfter (x >>= f) s = match perform x s with
      | (.ok a, t) => stateAfter (f a) t
      | (.error _, t) => t := by
  unfold stateAfter
  rw [perform_bind]
  rcases perform x s with ⟨a | a, t⟩ <;> rfl

/-- The pair of an outcome and the state behind determines the latter. -/
lemma stateAfter_eq {x : ExceptT ε (StateM S) α} {s t : S} {r : Except ε α}
    (h : perform x s = (r, t)) : stateAfter x s = t := by
  unfold stateAfter
  rw [h]

/-- Failing behind some work leaves the state that the work has left. -/
lemma stateAfter_bind_throw (x : ExceptT ε (StateM S) α) (e : ε) (s : S) :
    stateAfter (x >>= fun _ => (throw e : ExceptT ε (StateM S) β)) s = stateAfter x s := by
  rw [stateAfter_bind]
  rcases h : perform x s with ⟨a | a, t⟩
  · rw [stateAfter_eq h]
  · rw [stateAfter_eq h]
    rfl

/-! ### Work within a relation -/

/-- Some work moves every state within a relation, whether it succeeds or fails. -/
def Within (R : S → S → Prop) (x : ExceptT ε (StateM S) α) : Prop := ∀ s, R s (stateAfter x s)

namespace Within

variable {R : S → S → Prop}

/-- Giving a value stays within every reflexive relation. -/
lemma pure [Std.Refl R] (a : α) : Within R (pure a : ExceptT ε (StateM S) α) :=
  fun s => refl_of R s

/-- Failing stays within every reflexive relation. -/
lemma throw [Std.Refl R] (e : ε) : Within R (throw e : ExceptT ε (StateM S) α) :=
  fun s => refl_of R s

/-- Reading the state stays within every reflexive relation. -/
lemma get [Std.Refl R] : Within R (get : ExceptT ε (StateM S) S) :=
  fun s => refl_of R s

/-- Work in sequence stays within a transitive relation if both parts do. -/
lemma bind [IsTrans S R] {x : ExceptT ε (StateM S) α} {f : α → ExceptT ε (StateM S) β}
    (hx : Within R x) (hf : ∀ a, Within R (f a)) : Within R (x >>= f) := by
  intro s
  have hs : R s (perform x s).2 := hx s
  rw [stateAfter_bind]
  rcases h : perform x s with ⟨a | a, t⟩
  · rw [h] at hs
    exact hs
  · rw [h] at hs
    exact trans_of R hs (hf a t)

/-- Work that stays within a relation stays within every weaker one. -/
lemma mono {R' : S → S → Prop} (h : ∀ s t, R s t → R' s t) {x : ExceptT ε (StateM S) α}
    (hx : Within R x) : Within R' x :=
  fun s => h s _ (hx s)

end Within

/-! ### Values that may fail -/

/-- A list of values that may fail has a value when all of them have one. -/
lemma mapM_eq_ok_iff {f : α → Except ε β} {as : List α} {bs : List β} :
    as.mapM f = .ok bs ↔ as.map f = bs.map .ok := by
  induction as generalizing bs with
  | nil =>
    cases bs with
    | nil => simp [pure, Except.pure]
    | cons b bs => simp [pure, Except.pure]
  | cons a as ih =>
    rw [List.mapM_cons, List.map_cons]
    rcases hf : f a with e | b
    · cases bs with
      | nil => simp [bind, Except.bind]
      | cons b bs => simp [bind, Except.bind]
    · cases bs with
      | nil =>
        rcases as.mapM f with e | rest <;> simp [bind, Except.bind, pure, Except.pure]
      | cons b' bs =>
        rw [List.map_cons, List.cons.injEq, ← ih]
        rcases as.mapM f with e | rest <;> simp [bind, Except.bind, pure, Except.pure]

/-- A list of values none of which fails has a value. -/
lemma exists_mapM_eq_ok {f : α → Except ε β} {as : List α} (h : ∀ a ∈ as, ∃ b, f a = .ok b) :
    ∃ bs, as.mapM f = .ok bs := by
  induction as with
  | nil => exact ⟨[], rfl⟩
  | cons a as ih =>
    obtain ⟨b, hb⟩ := h a List.mem_cons_self
    obtain ⟨bs, hbs⟩ := ih fun a' ha' => h a' (List.mem_cons_of_mem a ha')
    refine ⟨b :: bs, mapM_eq_ok_iff.mpr ?_⟩
    rw [List.map_cons, List.map_cons, hb, mapM_eq_ok_iff.mp hbs]

/-- The members of a list of values are values of the members. -/
lemma mem_of_mapM_eq_ok {f : α → Except ε β} {as : List α} {bs : List β} (h : as.mapM f = .ok bs)
    {b : β} : b ∈ bs ↔ ∃ a ∈ as, f a = .ok b := by
  have hmem : (.ok b : Except ε β) ∈ bs.map .ok ↔ b ∈ bs := by
    rw [List.mem_map]
    constructor
    · rintro ⟨b', hb', heq⟩
      cases heq
      exact hb'
    · exact fun hb => ⟨b, hb, rfl⟩
  rw [← hmem, ← mapM_eq_ok_iff.mp h, List.mem_map]

/-- What the values of a list have in common with its members stands in the same order. -/
lemma map_eq_of_mapM_eq_ok {γ : Type} {f : α → Except ε β} {as : List α} {bs : List β}
    (h : as.mapM f = .ok bs) {name : α → γ} {name' : β → γ}
    (hf : ∀ a b, f a = .ok b → name' b = name a) : bs.map name' = as.map name := by
  have hmap := mapM_eq_ok_iff.mp h
  clear h
  induction as generalizing bs with
  | nil => rw [List.map_eq_nil_iff.mp hmap.symm, List.map_nil, List.map_nil]
  | cons a as ih =>
    rcases bs with _ | ⟨b, bs⟩
    · cases hmap
    · rw [List.map_cons, List.map_cons, List.cons.injEq] at hmap
      rw [List.map_cons, List.map_cons, hf a b hmap.1, ih hmap.2]

/-! ### Rows that are looked up -/

/-- What is taken out of a list that names nothing twice names nothing twice. -/
lemma nodup_map_filterMap {γ : Type} {l : List α} {f : α → Option β} {name : α → γ}
    {name' : β → γ} (h : (l.map name).Nodup) (hf : ∀ a b, f a = some b → name' b = name a) :
    ((l.filterMap f).map name').Nodup := by
  have hnames : l.Pairwise fun a a' => name a ≠ name a' := List.pairwise_map.mp h
  refine List.pairwise_map.mpr (hnames.filterMap f ?_)
  intro a a' haa' b hb b' hb'
  rw [hf a b hb, hf a' b' hb']
  exact haa'

/-- A row that alone meets a condition is found by it. -/
lemma find?_eq_some_of_unique {α : Type} {rows : List α} {which : α → Bool} {row : α}
    (hrow : row ∈ rows) (hwhich : which row)
    (hunique : ∀ other ∈ rows, which other → other = row) : rows.find? which = some row := by
  rcases hfind : rows.find? which with _ | found
  · rw [List.find?_eq_none] at hfind
    exact absurd hwhich (hfind row hrow)
  · rw [hunique found (List.mem_of_find?_eq_some hfind) (List.find?_some hfind)]

/-! ### Work on the world -/

section

variable {σ : Type}

/-- Work on the store as an operation: the rest of the world stays as it is. -/
lemma perform_store (work : StoreAction α) (w : World σ) :
    perform (Action.store work) w =
      ((perform work w.store).1.mapError ServiceError.ofStore,
        { w with store := (perform work w.store).2 }) := rfl

/-- An operation whose work on the store succeeds. -/
lemma perform_store_of_ok {work : StoreAction α} {w : World σ} {a : α} {s : Store}
    (h : perform work w.store = (.ok a, s)) :
    perform (Action.store work) w = (.ok a, { w with store := s }) := by
  rw [perform_store, h]
  rfl

/-- An operation whose work on the store succeeds without a change. -/
lemma perform_store_of_ok_same {work : StoreAction α} {w : World σ} {a : α}
    (h : perform work w.store = (.ok a, w.store)) :
    perform (Action.store work) w = (.ok a, w) :=
  perform_store_of_ok h

/-- An operation whose work on the store fails. -/
lemma perform_store_of_error {work : StoreAction α} {w : World σ} {e : StoreError} {s : Store}
    (h : perform work w.store = (.error e, s)) :
    perform (Action.store work : Action σ α) w = (.error (.ofStore e), { w with store := s }) := by
  rw [perform_store, h]
  rfl

/-- An operation that is work on the store succeeds exactly when the work does. -/
lemma perform_store_eq_ok {work : StoreAction α} {w w' : World σ} {a : α} :
    perform (Action.store work) w = (.ok a, w') ↔
      ∃ s, perform work w.store = (.ok a, s) ∧ w' = { w with store := s } := by
  rcases h : perform work w.store with ⟨e | b, t⟩
  · rw [perform_store_of_error h]
    simp
  · rw [perform_store_of_ok h]
    constructor
    · intro heq
      cases heq
      exact ⟨t, rfl, rfl⟩
    · rintro ⟨s, hs, rfl⟩
      cases hs
      rfl

/-- A change to the memory of the process succeeds. -/
@[simp] lemma perform_onMemory (change : Memory → Memory) (w : World σ) :
    perform (Action.onMemory change : Action σ Unit) w =
      (.ok (), { w with memory := change w.memory }) := rfl

/-- Drawing an identifier succeeds. -/
@[simp] lemma perform_draw (fresh : Nat → Id) (w : World σ) :
    perform (Action.draw fresh : Action σ Id) w =
      (.ok (fresh w.drawn), { w with drawn := w.drawn + 1 }) := rfl

/-- Asking someone outside changes the state outside. -/
@[simp] lemma perform_ask (question : σ → Except ServiceError α × σ) (w : World σ) :
    perform (Action.ask question) w =
      ((question w.outside).1, { w with outside := (question w.outside).2 }) := rfl

/-- The outcome of an operation is its value, and the world behind it is the same. -/
@[simp] lemma perform_outcome (act : Action σ α) (w : World σ) :
    perform act.outcome w = (.ok (perform act w).1, (perform act w).2) := rfl

end

end Dossier
