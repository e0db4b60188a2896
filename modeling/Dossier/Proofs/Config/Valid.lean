import Mathlib.Tactic.Common
import Dossier.Config.Check

/-!
# Valid configurations

A configuration that is read from a file passes every check, and its numbers have the width with
which they are read.
-/

namespace Dossier

namespace Json

/-- A number that is read lies below its bound. -/
lemma lt_of_asNat {bound n : Nat} {j : Json} (h : j.asNat bound = some n) : n < bound := by
  unfold asNat at h
  split at h
  · split at h
    · cases h
      omega
    · cases h
  · cases h

/-- What a field is read as satisfies what the reader ensures, if the value that stands for a
missing one does. -/
lemma Slot.of_orElse {α : Type} {read : Json → Option α} {standard a : α} {slot : Slot}
    {P : α → Prop} (hread : ∀ j a, read j = some a → P a) (hstandard : P standard)
    (h : slot.orElse read standard = some a) : P a := by
  cases slot with
  | given value => exact hread value a h
  | unnamed =>
    cases h
    exact hstandard
  | beyond =>
    cases h
    exact hstandard

end Json

namespace Config

/-- A configuration that passes every check and whose constant of fusion is a word. -/
structure Valid (cfg : Config) : Prop where
  faultless : cfg.fault? = none
  fusion : cfg.search.rrfK < twoTo 32

/-- The constant of fusion is read as a word. -/
lemma rrfK_lt_of_readSearch {j : Json} {search : SearchConfig} (h : readSearch j = some search) :
    search.rrfK < twoTo 32 := by
  unfold readSearch at h
  obtain ⟨slots, -, h⟩ := Option.bind_eq_some_iff.mp h
  split at h
  · obtain ⟨lexical, -, h⟩ := Option.bind_eq_some_iff.mp h
    obtain ⟨vector, -, h⟩ := Option.bind_eq_some_iff.mp h
    obtain ⟨rrf, hrrf, h⟩ := Option.bind_eq_some_iff.mp h
    obtain ⟨chunks, -, h⟩ := Option.bind_eq_some_iff.mp h
    cases h
    exact Json.Slot.of_orElse (P := fun n => n < twoTo 32) (fun _ _ => Json.lt_of_asNat) (by decide)
      hrrf
  · cases h

/-- The constant of fusion of a configuration is read as a word. -/
lemma rrfK_lt_of_ofJson {j : Json} {cfg : Config} (h : ofJson j = some cfg) :
    cfg.search.rrfK < twoTo 32 := by
  unfold ofJson at h
  obtain ⟨slots, -, h⟩ := Option.bind_eq_some_iff.mp h
  split at h
  · obtain ⟨service, -, h⟩ := Option.bind_eq_some_iff.mp h
    obtain ⟨store, -, h⟩ := Option.bind_eq_some_iff.mp h
    obtain ⟨embedding, -, h⟩ := Option.bind_eq_some_iff.mp h
    obtain ⟨chunking, -, h⟩ := Option.bind_eq_some_iff.mp h
    obtain ⟨embedder, -, h⟩ := Option.bind_eq_some_iff.mp h
    obtain ⟨search, hsearch, h⟩ := Option.bind_eq_some_iff.mp h
    obtain ⟨evidence, -, h⟩ := Option.bind_eq_some_iff.mp h
    obtain ⟨reindex, -, h⟩ := Option.bind_eq_some_iff.mp h
    obtain ⟨security, -, h⟩ := Option.bind_eq_some_iff.mp h
    cases h
    exact Json.Slot.of_orElse (P := fun search => search.rrfK < twoTo 32)
      (fun _ _ => rrfK_lt_of_readSearch) (by decide) hsearch
  · cases h

/-- A file is read as the normal form, free of faults, of what its text stands for. -/
lemma exists_read_of_parse {path text : String} {cfg : Config} (h : parse path text = .ok cfg) :
    ∃ j read, ofJson j = some read ∧ cfg = read.normal ∧ cfg.fault? = none := by
  unfold parse at h
  split at h
  · cases h
  · rename_i read hread
    split at h
    · cases h
    · rename_i hfault
      cases h
      obtain ⟨j, -, hjson⟩ := Option.bind_eq_some_iff.mp hread
      exact ⟨j, read, hjson, rfl, hfault⟩

/-- A configuration that is read from the text of a file is valid. -/
theorem valid_of_parse {path text : String} {cfg : Config} (h : parse path text = .ok cfg) :
    cfg.Valid := by
  obtain ⟨j, read, hjson, rfl, hfault⟩ := exists_read_of_parse h
  -- The normal form has the same settings for searches.
  have hrrf : read.search.rrfK < twoTo 32 := rrfK_lt_of_ofJson hjson
  exact ⟨hfault, hrrf⟩

namespace Valid

variable {cfg : Config}

/-- No check of a valid configuration fails. -/
lemma passes (h : cfg.Valid) {check : ConfigFault × Bool} (hcheck : check ∈ cfg.checks) :
    check.2 = false := by
  have hnone := Option.map_eq_none_iff.mp h.faultless
  exact Bool.eq_false_iff.mpr (List.find?_eq_none.mp hnone check hcheck)

/-- A number that is checked not to be zero is positive. -/
lemma pos_of_check (h : cfg.Valid) (fault : ConfigFault) {n : ℕ}
    (hcheck : (fault, n == 0) ∈ cfg.checks) : 1 ≤ n :=
  Nat.pos_of_ne_zero (beq_eq_false_iff_ne.mp (h.passes hcheck))

/-- A record may have a source. -/
lemma maxSourcesPerRecord_pos (h : cfg.Valid) : 0 < cfg.evidence.maxSourcesPerRecord :=
  h.pos_of_check .noSourcesPerRecord (by simp [checks])

end Valid

end Config

end Dossier
