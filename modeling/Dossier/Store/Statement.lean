import Dossier.Store.Row
import Dossier.Vector.Text

/-!
# Statements

A statement either succeeds or fails and leaves the store as it was.  A transaction carries out
several steps so that either all of them take effect or none.
-/

namespace Dossier

/-- The kinds of rule that a table imposes on its rows. -/
inductive Constraint where
  | unique
  | foreignKey
  | other
deriving DecidableEq, Repr

/-- Why a statement fails. -/
inductive StoreError where
  | violated (rule : Constraint)
  | refused (statement : Statement)
  | badVector (cause : Vec.TextError)
deriving DecidableEq

/-- A piece of work on a store. -/
abbrev StoreAction (α : Type) := ExceptT StoreError (StateM Store) α

namespace Store

variable {α : Type}

/-- Carries out a statement. -/
def statement (st : Statement) (run : Store → Except StoreError (α × Store)) : StoreAction α :=
  ExceptT.mk fun s =>
    if st ∈ s.refused then (.error (.refused st), s)
    else match run s with
      | .ok (a, s) => (.ok a, s)
      | .error e => (.error e, s)

/-- A statement that reads. -/
def reading (st : Statement) (read : Store → α) : StoreAction α :=
  statement st fun s => .ok (read s, s)

/-- A statement that writes and breaks no rule. -/
def writing (st : Statement) (write : Store → α × Store) : StoreAction α :=
  statement st fun s => .ok (write s)

/-- Carries out work as one transaction: if it fails, or if its end is refused, the store is as it
was before. -/
def transaction (work : StoreAction α) : StoreAction α :=
  ExceptT.mk fun s =>
    match (work.run s : Except StoreError α × Store) with
    | (.ok a, s') =>
      if .commit ∈ s'.refused then (.error (.refused .commit), s) else (.ok a, s')
    | (.error e, _) => (.error e, s)

end Store

/-- A list cut into pieces of a size, at least one; only the last piece may be shorter. -/
def batches {α : Type} (size : Nat) : List α → List (List α)
  | [] => []
  | a :: rest => (a :: rest.take (size - 1)) :: batches size (rest.drop (size - 1))
termination_by items => items.length
decreasing_by
  rw [List.length_drop, List.length_cons]
  omega

/-- How many rows or identifiers one statement takes. -/
def batchLimit : Nat := 500

end Dossier
