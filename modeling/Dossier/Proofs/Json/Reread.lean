import Mathlib.Tactic.Common
import Dossier.Json.Parse
import Dossier.Store.Row

/-!
# Values that are read back

A value that is written and read back need not be the same value, because a double is read in
several roundings.  Its kind stays: an object is read back as an object (`Json.exists_reread_obj`),
so that what was accepted as the metadata of a record is accepted again.
-/

namespace Dossier.Json

variable {v : Json} {rest cs : List Char}

/-- What is read behind the beginning of an object is an object. -/
lemma exists_fields_of_readFields {fuel depth : Nat} {acc : List (String × Json)}
    (h : readFields fuel depth acc cs = some (v, rest)) : ∃ fields, v = .obj fields := by
  induction fuel generalizing acc cs with
  | zero => simp [readFields] at h
  | succ fuel ih =>
    unfold readFields at h
    split at h
    · obtain ⟨⟨name, behind⟩, -, hname⟩ := Option.bind_eq_some_iff.mp h
      dsimp only at hname
      split at hname
      · obtain ⟨⟨value, behind⟩, -, hvalue⟩ := Option.bind_eq_some_iff.mp hname
        dsimp only at hvalue
        split at hvalue
        · exact ih hvalue
        · cases hvalue
          exact ⟨_, rfl⟩
        · cases hvalue
      · cases hname
    · cases h

/-- What is read from an opening brace on is an object. -/
lemma exists_fields_of_readValue {fuel depth : Nat}
    (h : readValue fuel depth ('\x7b' :: cs) = some (v, rest)) : ∃ fields, v = .obj fields := by
  cases fuel with
  | zero => simp [readValue] at h
  | succ fuel =>
    unfold readValue at h
    rw [if_neg (by decide), if_neg (by decide), if_pos rfl] at h
    split at h
    · cases h
    · split at h
      · cases h
        exact ⟨_, rfl⟩
      · exact exists_fields_of_readFields h

/-- The text of an object begins with a brace. -/
lemma exists_toList_print_obj (fields : List (String × Json)) :
    ∃ cs, (print (.obj fields)).toList = '\x7b' :: cs := by
  refine ⟨(",".intercalate (printFields fields)).toList ++ "\x7d".toList, ?_⟩
  rw [print, String.toList_append, String.toList_append]
  rfl

/-- An object is read back as an object. -/
theorem exists_reread_obj (fields : List (String × Json)) :
    ∃ again, (Json.obj fields).reread = .obj again := by
  obtain ⟨cs, hcs⟩ := exists_toList_print_obj fields
  unfold reread parse
  dsimp only
  have hblank : skipBlanks ('\x7b' :: cs) = '\x7b' :: cs := by
    unfold skipBlanks
    rw [List.dropWhile_cons_of_neg (by decide)]
  rw [hcs, hblank]
  rcases hread : readValue (('\x7b' :: cs).length + 1) 127 ('\x7b' :: cs) with _ | ⟨value, rest⟩
  · exact ⟨fields, rfl⟩
  · dsimp only
    split
    · obtain ⟨inner, rfl⟩ := exists_fields_of_readValue hread
      exact ⟨canonicalFields inner [], by simp [canonical]⟩
    · exact ⟨fields, rfl⟩

end Dossier.Json
