import Mathlib.Data.List.Basic
import Mathlib.Tactic.Common
import Dossier.Json.Value

/-!
# Values as they are stored

The stored form of a value has the fields of every object in increasing order of their names, each
name once.  A value of this form is stored as it is (`canonicalFields_of_ordered`), so that storing
a value a second time changes nothing (`canonical_canonical`).
-/

namespace Dossier.Json

variable {fields acc : List (String × Json)} {name : String} {value : Json}

/-- Fields as they are stored: in increasing order of their names, each in its stored form. -/
structure Ordered (fields : List (String × Json)) : Prop where
  ascending : fields.Pairwise fun f g => f.1 < g.1
  stored : ∀ f ∈ fields, f.2.canonical = f.2

/-! ### One more field -/

/-- A field of some fields, once one more was put into its place, is that field or was there. -/
lemma mem_of_mem_insertField {f : String × Json} (h : f ∈ insertField name value fields) :
    f = (name, value) ∨ f ∈ fields := by
  induction fields with
  | nil => exact .inl (List.mem_singleton.mp h)
  | cons other rest ih =>
    unfold insertField at h
    split at h
    · exact List.mem_cons.mp h
    · split at h
      · exact (List.mem_cons.mp h).imp_right (List.mem_cons_of_mem _)
      · rcases List.mem_cons.mp h with rfl | h
        · exact .inr List.mem_cons_self
        · exact (ih h).imp_right (List.mem_cons_of_mem _)

/-- Fields in increasing order stay so with one more field in its place. -/
lemma ascending_insertField (h : fields.Pairwise fun f g => f.1 < g.1) :
    (insertField name value fields).Pairwise fun f g => f.1 < g.1 := by
  induction fields with
  | nil => exact List.pairwise_singleton _ _
  | cons other rest ih =>
    obtain ⟨hfirst, hrest⟩ := List.pairwise_cons.mp h
    unfold insertField
    split
    · rename_i hlt
      refine List.pairwise_cons.mpr ⟨fun f hf => ?_, h⟩
      rcases List.mem_cons.mp hf with rfl | hf
      · exact hlt
      · exact String.lt_trans hlt (hfirst f hf)
    · rename_i hnot
      split
      · rename_i hname
        refine List.pairwise_cons.mpr ⟨fun f hf => ?_, hrest⟩
        rw [hname]
        exact hfirst f hf
      · rename_i hne
        refine List.pairwise_cons.mpr ⟨fun f hf => ?_, ih hrest⟩
        rcases mem_of_mem_insertField hf with rfl | hf
        · exact Std.lt_of_le_of_ne (String.not_lt.mp hnot) (Ne.symm hne)
        · exact hfirst f hf

/-- Fields as they are stored stay so with one more field in its place. -/
lemma Ordered.insertField (h : Ordered fields) (hvalue : value.canonical = value) :
    Ordered (insertField name value fields) where
  ascending := ascending_insertField h.ascending
  stored := by
    intro f hf
    rcases mem_of_mem_insertField hf with rfl | hf
    · exact hvalue
    · exact h.stored f hf

/-- A field behind all others is put at the end. -/
lemma insertField_of_last (h : ∀ f ∈ acc, f.1 < name) :
    insertField name value acc = acc ++ [(name, value)] := by
  induction acc with
  | nil => rfl
  | cons other rest ih =>
    obtain ⟨hfirst, hrest⟩ := List.forall_mem_cons.mp h
    unfold Json.insertField
    rw [if_neg (String.lt_asymm hfirst), if_neg, ih hrest, List.cons_append]
    rintro rfl
    exact String.lt_irrefl _ hfirst

/-! ### Whole values -/

/-- Nothing but null is stored as null. -/
lemma canonical_ne_null (h : value ≠ .null) : value.canonical ≠ .null := by
  cases value with
  | null => exact absurd rfl h
  | bool _ | num _ | str _ | arr _ | obj _ => simp [canonical]

/-- Fields as they are stored come behind those that are there already. -/
lemma canonicalFields_append (h : Ordered fields) (hbehind : ∀ f ∈ acc, ∀ g ∈ fields, f.1 < g.1) :
    canonicalFields fields acc = acc ++ fields := by
  induction fields generalizing acc with
  | nil => simp [canonicalFields]
  | cons field rest ih =>
    obtain ⟨hfirst, hrest⟩ := List.pairwise_cons.mp h.ascending
    obtain ⟨hstored, hlater⟩ := List.forall_mem_cons.mp h.stored
    have hput : insertField field.1 field.2 acc = acc ++ [field] :=
      insertField_of_last fun f hf => hbehind f hf field List.mem_cons_self
    rw [canonicalFields, hstored, hput, ih ⟨hrest, hlater⟩, List.append_assoc,
      List.singleton_append]
    intro f hf g hg
    rcases List.mem_append.mp hf with hf | hf
    · exact hbehind f hf g (List.mem_cons_of_mem _ hg)
    · rw [List.mem_singleton.mp hf]
      exact hfirst g hg

/-- Fields as they are stored are stored as they are. -/
lemma canonicalFields_of_ordered (h : Ordered fields) : canonicalFields fields [] = fields :=
  canonicalFields_append h fun _ hf => absurd hf List.not_mem_nil

mutual

/-- A stored value is stored as it is. -/
theorem canonical_canonical : ∀ j : Json, j.canonical.canonical = j.canonical
  | null => by simp only [canonical]
  | bool _ => by simp only [canonical]
  | num _ => by simp only [canonical]
  | str _ => by simp only [canonical]
  | arr items => by
    simp only [canonical]
    rw [canonicalItems_canonicalItems items]
  | obj fields => by
    simp only [canonical]
    rw [canonicalFields_of_ordered (ordered_canonicalFields fields [] ⟨.nil, by simp⟩)]

/-- Stored items are stored as they are. -/
lemma canonicalItems_canonicalItems : ∀ items : List Json,
    canonicalItems (canonicalItems items) = canonicalItems items
  | [] => by simp only [canonicalItems]
  | item :: rest => by
    simp only [canonicalItems]
    rw [canonical_canonical item, canonicalItems_canonicalItems rest]

/-- The stored fields of an object are ordered. -/
lemma ordered_canonicalFields : ∀ fields acc : List (String × Json), Ordered acc →
    Ordered (canonicalFields fields acc)
  | [], _, h => by simpa only [canonicalFields] using h
  | (name, value) :: rest, acc, h => by
    simp only [canonicalFields]
    exact ordered_canonicalFields rest _ (h.insertField (canonical_canonical value))

end

end Dossier.Json
