import Dossier.Proofs.Pii.Parts

/-!
# Which characters of a text are hidden

A character is hidden if it belongs to a part that is masked.  A rule hides further characters:
those that are hidden stay so, a value that is masked stays one value, and every value that a rule
masks had been shown before.
-/

namespace Dossier.Pii

/-- Which characters of a text are hidden. -/
def cover (ps : List Part) : List Bool :=
  ps.flatMap fun x => List.replicate x.chars.length x.isMasked

/-- A character of a text is hidden. -/
def Hidden (ps : List Part) (i : ℕ) : Prop := (cover ps)[i]? = some true

/-- A character of a text is shown. -/
def Shown (ps : List Part) (i : ℕ) : Prop := (cover ps)[i]? = some false

instance {ps : List Part} {i : ℕ} : Decidable (Hidden ps i) :=
  inferInstanceAs (Decidable ((cover ps)[i]? = some true))

/-- The characters from one place up to another are masked as one value. -/
inductive Masked : List Part → ℕ → ℕ → Prop
  | here (kind : Kind) (value : List Char) (ps : List Part) :
      Masked (.masked kind value :: ps) 0 value.length
  | later {ps : List Part} {a e : ℕ} (x : Part) (h : Masked ps a e) :
      Masked (x :: ps) (x.chars.length + a) (x.chars.length + e)

section

variable {ps ps' : List Part} {x : Part} {m : List Char} {i a e : ℕ}

/-! ### Parts one behind the other -/

lemma getElem?_cover_cons : (cover (x :: ps))[i]? =
    if i < x.chars.length then some x.isMasked else (cover ps)[i - x.chars.length]? := by
  unfold cover
  rw [List.flatMap_cons, List.getElem?_append, List.length_replicate]
  split
  · rename_i hi
    exact List.getElem?_replicate_of_lt hi
  · rfl

/-- A character of the first part is hidden if this part is masked, and any other one if it is
hidden among the other parts. -/
lemma hidden_cons : Hidden (x :: ps) i ↔
    i < x.chars.length ∧ x.isMasked ∨ x.chars.length ≤ i ∧ Hidden ps (i - x.chars.length) := by
  unfold Hidden
  rw [getElem?_cover_cons]
  split
  · rename_i hi
    simp [hi]
  · rename_i hi
    simp [hi, Nat.le_of_not_lt hi]

lemma shown_cons : Shown (x :: ps) i ↔ i < x.chars.length ∧ x.isMasked = false ∨
    x.chars.length ≤ i ∧ Shown ps (i - x.chars.length) := by
  unfold Shown
  rw [getElem?_cover_cons]
  split
  · rename_i hi
    simp [hi]
  · rename_i hi
    simp [hi, Nat.le_of_not_lt hi]

/-- What the parts behind some others cover. -/
lemma getElem?_cover_append : (cover (ps ++ ps'))[(ps.flatMap Part.chars).length + i]? =
    (cover ps')[i]? := by
  have hlength : (cover ps).length = (ps.flatMap Part.chars).length := by
    unfold cover
    rw [List.length_flatMap, List.length_flatMap]
    simp only [List.length_replicate]
  have happend : cover (ps ++ ps') = cover ps ++ cover ps' := List.flatMap_append
  rw [happend, ← hlength, List.getElem?_append_right (Nat.le_add_right _ _), Nat.add_sub_cancel_left]

lemma hidden_append : Hidden (ps ++ ps') ((ps.flatMap Part.chars).length + i) ↔ Hidden ps' i := by
  unfold Hidden
  rw [getElem?_cover_append]

lemma shown_append : Shown (ps ++ ps') ((ps.flatMap Part.chars).length + i) ↔ Shown ps' i := by
  unfold Shown
  rw [getElem?_cover_append]

/-- A character behind some that are kept is hidden if it is among the other parts. -/
lemma hidden_kept_append : Hidden (m.map .kept ++ ps) i ↔ m.length ≤ i ∧ Hidden ps (i - m.length) := by
  induction m generalizing i with
  | nil => simp
  | cons c m ih =>
    have hchars : (Part.kept c).chars.length = 1 := rfl
    rw [List.map_cons, List.cons_append, hidden_cons, ih, hchars, List.length_cons, Nat.sub_sub,
      Nat.add_comm 1]
    constructor
    · rintro (⟨-, hmasked⟩ | ⟨hpos, hle, hhidden⟩)
      · cases hmasked
      · exact ⟨by omega, hhidden⟩
    · rintro ⟨hle, hhidden⟩
      exact .inr ⟨by omega, by omega, hhidden⟩

lemma shown_kept_append : Shown (m.map .kept ++ ps) i ↔
    i < m.length ∨ m.length ≤ i ∧ Shown ps (i - m.length) := by
  induction m generalizing i with
  | nil => simp
  | cons c m ih =>
    have hchars : (Part.kept c).chars.length = 1 := rfl
    rw [List.map_cons, List.cons_append, shown_cons, ih, hchars, List.length_cons, Nat.sub_sub,
      Nat.add_comm 1]
    constructor
    · rintro (⟨hlt, -⟩ | ⟨hpos, hlt | ⟨hle, hshown⟩⟩)
      · exact .inl (by omega)
      · exact .inl (by omega)
      · exact .inr ⟨by omega, hshown⟩
    · rintro (hlt | ⟨hle, hshown⟩)
      · by_cases hi : i = 0
        · exact .inl ⟨by omega, rfl⟩
        · exact .inr ⟨by omega, .inl (by omega)⟩
      · exact .inr ⟨by omega, .inr ⟨by omega, hshown⟩⟩

/-- A value that is masked behind some characters that are kept is masked among the other parts. -/
lemma masked_kept_append : Masked (m.map .kept ++ ps) a e ↔
    ∃ a' e', a = m.length + a' ∧ e = m.length + e' ∧ Masked ps a' e' := by
  induction m generalizing a e with
  | nil => simp
  | cons c m ih =>
    have hplace : ∀ k, (c :: m).length + k = (Part.kept c).chars.length + (m.length + k) := by
      intro k
      have hchars : (Part.kept c).chars.length = 1 := rfl
      rw [hchars, List.length_cons]
      omega
    constructor
    · intro h
      cases h with
      | later _ h =>
        obtain ⟨a', e', rfl, rfl, hmasked⟩ := ih.mp h
        exact ⟨a', e', (hplace a').symm, (hplace e').symm, hmasked⟩
    · rintro ⟨a', e', rfl, rfl, hmasked⟩
      rw [hplace, hplace]
      exact .later (.kept c) (ih.mpr ⟨a', e', rfl, rfl, hmasked⟩)

/-- The characters of a value that is masked are hidden. -/
lemma Masked.hidden (h : Masked ps a e) (ha : a ≤ i) (he : i < e) : Hidden ps i := by
  induction h generalizing i with
  | here kind value ps => exact hidden_cons.mpr (.inl ⟨he, rfl⟩)
  | later x _ ih => exact hidden_cons.mpr (.inr ⟨by omega, ih (by omega) (by omega)⟩)

end

/-! ### What a rule does to them -/

namespace Passes

variable {kind : Kind} {before : Option Char} {ps ps' : List Part} {i a e : ℕ}

/-- What is hidden stays hidden. -/
lemma hidden (h : Passes kind before ps ps') (hi : Hidden ps i) : Hidden ps' i := by
  induction h generalizing i with
  | nil => exact hi
  | keep _ _ ih =>
    rw [hidden_cons] at hi ⊢
    exact hi.imp_right (And.imp_right ih)
  | @hide _ m ps ps' _ _ _ ih =>
    obtain ⟨hle, hrest⟩ := hidden_kept_append.mp hi
    exact hidden_cons.mpr (.inr ⟨hle, ih hrest⟩)

/-- What is still shown was shown before. -/
lemma shown (h : Passes kind before ps ps') (hi : Shown ps' i) : Shown ps i := by
  induction h generalizing i with
  | nil => exact hi
  | keep _ _ ih =>
    rw [shown_cons] at hi ⊢
    exact hi.imp_right (And.imp_right ih)
  | @hide _ m ps ps' _ _ _ ih =>
    rcases shown_cons.mp hi with ⟨-, hmasked⟩ | ⟨hle, hrest⟩
    · cases hmasked
    · exact shown_kept_append.mpr (.inr ⟨hle, ih hrest⟩)

/-- A value that is masked stays one value. -/
lemma masked (h : Passes kind before ps ps') (hvalue : Masked ps a e) : Masked ps' a e := by
  induction h generalizing a e with
  | nil => exact hvalue
  | @keep _ x ps ps' _ _ ih =>
    cases hvalue with
    | here kind' value _ => exact .here kind' value ps'
    | later _ hrest => exact .later x (ih hrest)
  | @hide _ m ps ps' _ _ _ ih =>
    obtain ⟨a, e, rfl, rfl, hrest⟩ := masked_kept_append.mp hvalue
    exact .later (.masked kind m) (ih hrest)

/-- A value that is masked has been so before, or all its characters had been shown. -/
lemma masked_or_shown (h : Passes kind before ps ps') (hvalue : Masked ps' a e) :
    Masked ps a e ∨ ∀ i, a ≤ i → i < e → Shown ps i := by
  induction h generalizing a e with
  | nil => exact .inl hvalue
  | @keep _ x ps ps' _ _ ih =>
    cases hvalue with
    | here kind' value _ => exact .inl (.here kind' value ps)
    | @later _ a e _ hrest =>
      refine (ih hrest).imp (Masked.later x) fun hshown i ha he => ?_
      exact shown_cons.mpr (.inr ⟨by omega, hshown _ (by omega) (by omega)⟩)
  | @hide _ m ps ps' _ _ _ ih =>
    cases hvalue with
    | here _ _ _ => exact .inr fun i _ he => shown_kept_append.mpr (.inl he)
    | @later _ a e _ hrest =>
      have hchars : (Part.masked kind m).chars.length = m.length := rfl
      rw [hchars]
      refine (ih hrest).imp (fun hold => ?_) fun hshown i ha he => ?_
      · exact masked_kept_append.mpr ⟨a, e, rfl, rfl, hold⟩
      · exact shown_kept_append.mpr (.inr ⟨by omega, hshown _ (by omega) (by omega)⟩)

end Passes

end Dossier.Pii
