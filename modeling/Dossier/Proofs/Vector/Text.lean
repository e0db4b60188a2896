import Dossier.Proofs.Number.Written
import Dossier.Proofs.Work
import Dossier.Vector.Text

/-!
# Stored vectors are read back

The text of a vector reads as the vector that it was written from (`Vec.parse_text`): framing the
components by brackets and commas loses nothing, and neither does writing a component in the fewest
digits that read back.
-/

namespace Dossier

open Unicode

/-- A text without blanks has none at its ends. -/
lemma Text.trim_of_compact {cs : List Char} (h : ∀ c ∈ cs, isBlank c = false) : trim cs = cs := by
  have hdrop : ∀ ds : List Char, (∀ c ∈ ds, isBlank c = false) → ds.dropWhile isBlank = ds := by
    intro ds hds
    rw [List.dropWhile_eq_self_iff]
    intro hlength
    rw [hds _ (List.getElem_mem hlength)]
    exact Bool.false_ne_true
  unfold trim
  rw [hdrop cs h, hdrop cs.reverse fun c hc => h c (List.mem_reverse.mp hc), List.reverse_reverse]

namespace Vec

/-- A text without commas is one part. -/
lemma splitCommas_of_not_mem {part : List Char} (h : ',' ∉ part) : splitCommas part = [part] := by
  induction part with
  | nil => rfl
  | cons c rest ih =>
    rw [List.mem_cons, not_or] at h
    rw [splitCommas, if_neg fun heq => h.1 heq.symm, ih h.2]

/-- A part ends where the first comma stands. -/
lemma splitCommas_append_cons {part : List Char} (h : ',' ∉ part) (rest : List Char) :
    splitCommas (part ++ ',' :: rest) = part :: splitCommas rest := by
  induction part with
  | nil => exact if_pos rfl
  | cons c more ih =>
    rw [List.mem_cons, not_or] at h
    rw [List.cons_append, splitCommas, if_neg fun heq => h.1 heq.symm, ih h.2]

/-- Parts that are joined by commas are found again. -/
lemma splitCommas_intercalate {parts : List (List Char)} (hne : parts ≠ [])
    (h : ∀ part ∈ parts, ',' ∉ part) : splitCommas ([','].intercalate parts) = parts := by
  induction parts with
  | nil => exact absurd rfl hne
  | cons part rest ih =>
    have hpart := h part List.mem_cons_self
    rcases rest with _ | ⟨next, rest⟩
    · rw [List.intercalate_singleton, splitCommas_of_not_mem hpart]
    · rw [List.intercalate_cons_cons, List.append_assoc, List.singleton_append,
        splitCommas_append_cons hpart,
        ih (List.cons_ne_nil next rest) fun p hp => h p (List.mem_cons_of_mem part hp)]

/-- The characters of parts that are joined by commas. -/
lemma mem_intercalate {parts : List (List Char)} {c : Char} (h : c ∈ [','].intercalate parts) :
    c = ',' ∨ ∃ part ∈ parts, c ∈ part := by
  induction parts with
  | nil => cases h
  | cons part rest ih =>
    rcases rest with _ | ⟨next, rest⟩
    · rw [List.intercalate_singleton] at h
      exact .inr ⟨part, List.mem_singleton_self part, h⟩
    · rw [List.intercalate_cons_cons, List.append_assoc, List.mem_append] at h
      rcases h with hfirst | hmore
      · exact .inr ⟨part, List.mem_cons_self, hfirst⟩
      rcases List.mem_append.mp hmore with hcomma | hlater
      · exact .inl (List.mem_singleton.mp hcomma)
      rcases ih hlater with hcomma | ⟨other, hother, hmem⟩
      · exact .inl hcomma
      · exact .inr ⟨other, List.mem_cons_of_mem part hother, hmem⟩

/-- What stands between brackets is found again. -/
lemma unbracket?_bracketed (inner : List Char) :
    unbracket? ('[' :: (inner ++ [']'])) = some inner := by
  change (if (inner ++ [']']).getLast? = some ']' then some (inner ++ [']']).dropLast else none) = _
  rw [List.getLast?_concat, if_pos rfl, List.dropLast_concat]

/-- The components of a vector as they are written. -/
def parts (v : Vec) : List (List Char) := v.map fun x => x.positional.toList

/-- The text of a vector are its components between brackets, joined by commas. -/
lemma toList_text (v : Vec) : v.text.toList = '[' :: ([','].intercalate v.parts ++ [']']) := by
  unfold text parts
  rw [String.toList_append, String.toList_append, String.toList_intercalate, List.map_map]
  rfl

/-- Every component of a vector is read as it is written. -/
lemma readsAs_of_mem_parts {v : Vec} {part : List Char} (h : part ∈ v.parts) :
    ∃ x ∈ v, Binary.ReadsAs part x.written := by
  obtain ⟨x, hx, rfl⟩ := List.mem_map.mp h
  exact ⟨x, hx, Binary.readsAs_positional BinaryFormat.balanced_single x⟩

/-- No blank is between the brackets of a vector. -/
lemma isBlank_of_mem_components {v : Vec} {c : Char} (hc : c ∈ [','].intercalate v.parts) :
    isBlank c = false := by
  rcases mem_intercalate hc with rfl | ⟨part, hpart, hmem⟩
  · decide
  · obtain ⟨x, -, hform⟩ := readsAs_of_mem_parts hpart
    exact (hform.compact c hmem).2

/-- Trimming the text of a vector leaves it as it is. -/
lemma trim_text (v : Vec) :
    Text.trim v.text.toList = '[' :: ([','].intercalate v.parts ++ [']']) := by
  rw [toList_text, Text.trim_of_compact]
  intro c hc
  rcases List.mem_cons.mp hc with rfl | hmem
  · decide
  rcases List.mem_append.mp hmem with hinner | hlast
  · exact isBlank_of_mem_components hinner
  · rw [List.mem_singleton.mp hlast]
    decide

/-- A component is read as it is written. -/
lemma readComponent_positional (x : Single) :
    readComponent x.positional.toList = .ok x.written := by
  have hform := Binary.readsAs_positional BinaryFormat.balanced_single x
  unfold readComponent
  rw [Text.trim_of_compact fun c hc => (hform.compact c hc).2, hform.read]

/-- Something is between the brackets of a vector with a component. -/
lemma components_ne_nil (first : Single) (rest : Vec) :
    [','].intercalate (parts (first :: rest)) ≠ [] := by
  obtain ⟨c, more, hfirst⟩ := List.exists_cons_of_ne_nil
    (Binary.readsAs_positional BinaryFormat.balanced_single first).ne_nil
  have hcons : parts (first :: rest) = (c :: more) :: parts rest := by
    rw [← hfirst]
    rfl
  rw [hcons]
  rcases parts rest with _ | ⟨next, others⟩
  · rw [List.intercalate_singleton]
    exact List.cons_ne_nil _ _
  · rw [List.intercalate_cons_cons]
    exact List.cons_ne_nil _ _

/-- The text of a vector reads as the components as they are written. -/
theorem parse_text (v : Vec) : parse v.text = .ok (v.map Binary.written) := by
  unfold parse
  dsimp only
  rw [trim_text, unbracket?_bracketed]
  dsimp only
  rw [Text.trim_of_compact fun c hc => isBlank_of_mem_components hc]
  rcases v with _ | ⟨first, rest⟩
  · rfl
  · have hnotEmpty : ¬ ([','].intercalate (parts (first :: rest))).isEmpty = true :=
      fun hempty => components_ne_nil first rest (List.isEmpty_iff.mp hempty)
    have hcommas : ∀ part ∈ parts (first :: rest), ',' ∉ part := by
      intro part hpart hcomma
      obtain ⟨x, -, hform⟩ := readsAs_of_mem_parts hpart
      exact (hform.compact ',' hcomma).1 rfl
    have hne : parts (first :: rest) ≠ [] := List.cons_ne_nil _ _
    rw [if_neg hnotEmpty, splitCommas_intercalate hne hcommas, mapM_eq_ok_iff]
    unfold parts
    rw [List.map_map, List.map_map]
    exact List.map_congr_left fun x _ => readComponent_positional x

/-- Numbers are written as they are. -/
lemma map_written {v : Vec} (h : ∀ x ∈ v, x.isNaN = false) : v.map Binary.written = v := by
  refine (List.map_congr_left fun x hx => ?_).trans (List.map_id v)
  cases x with
  | nan s => cases h _ hx
  | infinite s => rfl
  | finite s r => rfl

end Vec

end Dossier
