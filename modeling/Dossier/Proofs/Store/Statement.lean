import Dossier.Proofs.Work
import Dossier.Store.Chunks

/-!
# What statements and transactions come to

A statement that succeeds was not refused, and it does what its function says; a statement or a
transaction that fails leaves the store as it was.  Chunks are added a batch after the other, which
comes to the same as adding all of them at once.
-/

namespace Dossier.Store

variable {α : Type} {s t : Store}

/-! ### Statements -/

/-- What a statement comes to. -/
lemma perform_statement (st : Statement) (run : Store → Except StoreError (α × Store)) (s : Store) :
    perform (statement st run) s =
      if st ∈ s.refused then (.error (.refused st), s)
      else match run s with
        | .ok (a, s) => (.ok a, s)
        | .error e => (.error e, s) := rfl

/-- A statement succeeds exactly when it is not refused and its function succeeds. -/
lemma perform_statement_eq_ok {st : Statement} {run : Store → Except StoreError (α × Store)}
    {a : α} :
    perform (statement st run) s = (.ok a, t) ↔ st ∉ s.refused ∧ run s = .ok (a, t) := by
  rw [perform_statement]
  split
  · simp [*]
  · rcases run s with e | ⟨b, u⟩
    · simp
    · constructor
      · intro h
        cases h
        exact ⟨‹_›, rfl⟩
      · rintro ⟨-, h⟩
        cases h
        rfl

/-- A statement that fails changes nothing. -/
lemma perform_statement_error {st : Statement} {run : Store → Except StoreError (α × Store)}
    {e : StoreError} (h : perform (statement st run) s = (.error e, t)) : t = s := by
  rw [perform_statement] at h
  split at h
  · cases h
    rfl
  · rcases hr : run s with e' | ⟨b, u⟩
    · rw [hr] at h
      cases h
      rfl
    · rw [hr] at h
      cases h

/-- A statement that reads succeeds exactly when it is not refused, and changes nothing. -/
lemma perform_reading_eq_ok {st : Statement} {read : Store → α} {a : α} :
    perform (reading st read) s = (.ok a, t) ↔ st ∉ s.refused ∧ read s = a ∧ t = s := by
  unfold reading
  rw [perform_statement_eq_ok]
  constructor
  · rintro ⟨hst, h⟩
    cases h
    exact ⟨hst, rfl, rfl⟩
  · rintro ⟨hst, rfl, rfl⟩
    exact ⟨hst, rfl⟩

/-- A statement that writes succeeds exactly when it is not refused. -/
lemma perform_writing_eq_ok {st : Statement} {write : Store → α × Store} {a : α} :
    perform (writing st write) s = (.ok a, t) ↔ st ∉ s.refused ∧ write s = (a, t) := by
  unfold writing
  rw [perform_statement_eq_ok, Except.ok.injEq]

/-- A statement that reads and fails changes nothing. -/
lemma perform_reading_error {st : Statement} {read : Store → α} {e : StoreError}
    (h : perform (reading st read) s = (.error e, t)) : t = s :=
  perform_statement_error h

/-- A statement that writes and fails changes nothing. -/
lemma perform_writing_error {st : Statement} {write : Store → α × Store} {e : StoreError}
    (h : perform (writing st write) s = (.error e, t)) : t = s :=
  perform_statement_error h

/-- A statement that reads changes nothing. -/
@[simp] lemma stateAfter_reading (st : Statement) (read : Store → α) (s : Store) :
    stateAfter (reading st read) s = s := by
  rcases h : perform (reading st read) s with ⟨e | a, t⟩
  · rw [stateAfter_eq h, perform_statement_error h]
  · rw [stateAfter_eq h, (perform_reading_eq_ok.mp h).2.2]

/-! ### Transactions -/

/-- What a transaction comes to. -/
lemma perform_transaction (work : StoreAction α) (s : Store) :
    perform (transaction work) s = match perform work s with
      | (.ok a, s') => if .commit ∈ s'.refused then (.error (.refused .commit), s) else (.ok a, s')
      | (.error e, _) => (.error e, s) := rfl

/-- A transaction succeeds exactly when its work does and its end is not refused. -/
lemma perform_transaction_eq_ok {work : StoreAction α} {a : α} :
    perform (transaction work) s = (.ok a, t) ↔
      perform work s = (.ok a, t) ∧ .commit ∉ t.refused := by
  rw [perform_transaction]
  rcases perform work s with ⟨e | b, u⟩
  · simp
  · dsimp only
    split
    · constructor
      · intro h
        cases h
      · rintro ⟨h, hc⟩
        cases h
        exact absurd ‹_› hc
    · constructor
      · intro h
        cases h
        exact ⟨rfl, ‹_›⟩
      · rintro ⟨h, -⟩
        cases h
        rfl

/-- A transaction that fails changes nothing. -/
lemma perform_transaction_error {work : StoreAction α} {e : StoreError}
    (h : perform (transaction work) s = (.error e, t)) : t = s := by
  rw [perform_transaction] at h
  rcases hw : perform work s with ⟨e' | b, u⟩
  · rw [hw] at h
    cases h
    rfl
  · rw [hw] at h
    dsimp only at h
    split at h
    · cases h
      rfl
    · cases h

/-! ### Batches -/

/-- The batches of a list in sequence are the list. -/
@[simp] lemma flatten_batches {β : Type} (size : Nat) (items : List β) :
    (batches size items).flatten = items := by
  induction items using (batches.induct size) with
  | case1 => simp [batches]
  | case2 a rest ih =>
    rw [batches, List.flatten_cons, ih, List.cons_append, List.take_append_drop]

end Dossier.Store
