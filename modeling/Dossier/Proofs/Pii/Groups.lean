import Mathlib.Algebra.GroupWithZero.Nat
import Mathlib.Data.List.Basic
import Mathlib.Tactic.Common
import Dossier.Unicode.Word

/-!
# Digits in groups

Two strings of characters that begin at the same place and end in digits are the same if they have
equally many digits, and a character that is no digit splits a string between two of its groups of
digits (`Groups.split`).  So the sizes of the groups tell where another string can end
(`Groups.eq_or_mem_cuts`).
-/

namespace Dossier.Pii

open Unicode

/-! ### Groups of digits -/

/-- Some characters hold decimal digits in groups of these sizes. -/
inductive Groups : List ℕ → List Char → Prop
  | nil : Groups [] []
  | skip {ns : List ℕ} {cs : List Char} {c : Char} (hc : isDecimal c = false) (h : Groups ns cs) :
      Groups ns (c :: cs)
  | group {ns : List ℕ} {cs ds : List Char} (hds : ∀ c ∈ ds, isDecimal c) (h : Groups ns cs) :
      Groups (ds.length :: ns) (ds ++ cs)

/-- The sums of the groups before each of them. -/
def cuts : List ℕ → List ℕ
  | [] => []
  | n :: ns => 0 :: (cuts ns).map (n + ·)

section

variable {ns ms : List ℕ} {cs ds l r x y : List Char} {c : Char}

/-- Groups that others follow add up to a cut. -/
lemma sum_mem_cuts (hms : ms ≠ []) : ns.sum ∈ cuts (ns ++ ms) := by
  induction ns with
  | nil =>
    obtain ⟨m, ms, rfl⟩ := List.exists_cons_of_ne_nil hms
    exact List.mem_cons_self
  | cons n ns ih =>
    rw [List.sum_cons]
    exact List.mem_cons_of_mem _ (List.mem_map_of_mem ih)

/-- Some characters end in a decimal digit. -/
def EndsInDigit (cs : List Char) : Prop := ∃ l c, cs = l ++ [c] ∧ isDecimal c

lemma EndsInDigit.append (h : EndsInDigit cs) (l : List Char) : EndsInDigit (l ++ cs) := by
  obtain ⟨l', c, rfl, hc⟩ := h
  exact ⟨l ++ l', c, (List.append_assoc _ _ _).symm, hc⟩

lemma EndsInDigit.of_append (h : EndsInDigit (l ++ r)) (hr : r ≠ []) : EndsInDigit r := by
  obtain ⟨r, d, rfl⟩ := (List.eq_nil_or_concat' r).resolve_left hr
  obtain ⟨l', c, heq, hc⟩ := h
  rw [← List.append_assoc] at heq
  obtain ⟨-, hlast⟩ := List.append_inj' heq rfl
  obtain rfl : d = c := List.singleton_inj.mp hlast
  exact ⟨r, d, rfl, hc⟩

/-- Who ends in a digit has one. -/
lemma EndsInDigit.countP_pos (h : EndsInDigit cs) : 0 < cs.countP isDecimal := by
  obtain ⟨l, c, rfl, hc⟩ := h
  exact List.countP_pos_iff.mpr ⟨c, List.mem_append_right _ List.mem_cons_self, hc⟩

/-- Characters that begin at one place and end in digits are the same if they have equally many. -/
lemma eq_of_countP_eq (h : cs ++ x = ds ++ y) (hcs : EndsInDigit cs) (hds : EndsInDigit ds)
    (hcount : cs.countP isDecimal = ds.countP isDecimal) : cs = ds := by
  rcases List.append_eq_append_iff.mp h with ⟨z, rfl, -⟩ | ⟨z, rfl, -⟩
  · by_cases hz : z = []
    · rw [hz, List.append_nil]
    · have hmore := (hds.of_append hz).countP_pos
      rw [List.countP_append] at hcount
      omega
  · by_cases hz : z = []
    · rw [hz, List.append_nil]
    · have hmore := (hcs.of_append hz).countP_pos
      rw [List.countP_append] at hcount
      omega

namespace Groups

/-- The groups make up the digits. -/
lemma countP_eq (h : Groups ns cs) : cs.countP isDecimal = ns.sum := by
  induction h with
  | nil => rfl
  | skip hc _ ih =>
    rw [List.countP_cons_of_neg (Bool.eq_false_iff.mp hc), ih]
  | group hds _ ih =>
    rw [List.countP_append, List.countP_eq_length.mpr hds, ih, List.sum_cons]

/-- Characters other than digits before groups. -/
lemma skips (hl : ∀ c ∈ l, isDecimal c = false) (h : Groups ns cs) : Groups ns (l ++ cs) := by
  induction l with
  | nil => exact h
  | cons c l ih =>
    obtain ⟨hc, hl⟩ := List.forall_mem_cons.mp hl
    exact .skip hc (ih hl)

/-- A character other than a digit stands between two groups. -/
lemma split (h : Groups ns (l ++ c :: r)) (hc : isDecimal c = false) :
    ∃ ns₁ ns₂, ns = ns₁ ++ ns₂ ∧ Groups ns₁ l ∧ Groups ns₂ r := by
  generalize htotal : l ++ c :: r = total at h
  induction h generalizing l with
  | nil => cases (List.append_eq_nil_iff.mp htotal).2
  | @skip ns cs d hd hrest ih =>
    rcases l with _ | ⟨e, l⟩
    · obtain ⟨-, rfl⟩ := List.cons.inj htotal
      exact ⟨[], ns, rfl, .nil, hrest⟩
    · obtain ⟨rfl, htail⟩ := List.cons.inj htotal
      obtain ⟨ns₁, ns₂, rfl, hl, hr⟩ := ih htail
      exact ⟨ns₁, ns₂, rfl, .skip hd hl, hr⟩
  | @group ns cs ds hds _ ih =>
    obtain ⟨l', rfl, htail⟩ : ∃ l', l = ds ++ l' ∧ cs = l' ++ c :: r := by
      rcases List.append_eq_append_iff.mp htotal with ⟨z, hz, hcs⟩ | ⟨l', hl, htail⟩
      · rcases z with _ | ⟨e, z⟩
        · rw [List.append_nil] at hz
          exact ⟨[], by rw [hz, List.append_nil], hcs.symm⟩
        · obtain ⟨rfl, -⟩ := List.cons.inj hcs
          have hdigit := hds c (hz ▸ List.mem_append_right _ List.mem_cons_self)
          rw [hc] at hdigit
          cases hdigit
      · exact ⟨l', hl, htail⟩
    obtain ⟨ns₁, ns₂, rfl, hl, hr⟩ := ih htail.symm
    exact ⟨ds.length :: ns₁, ns₂, rfl, .group hds hl, hr⟩

/-- Groups that end before a digit of others do so at a cut of these. -/
lemma sum_mem_cuts (hcs : Groups ns cs) (hds : Groups ms (cs ++ c :: r)) (hc : isDecimal c = false)
    (hend : EndsInDigit (cs ++ c :: r)) : ns.sum ∈ cuts ms := by
  obtain ⟨ms₁, ms₂, rfl, hfirst, hlater⟩ := hds.split hc
  rw [← hcs.countP_eq, hfirst.countP_eq]
  refine Pii.sum_mem_cuts ?_
  rintro rfl
  have hr : r ≠ [] := by
    rintro rfl
    obtain ⟨l, d, heq, hd⟩ := hend
    obtain ⟨-, hlast⟩ := List.append_inj' heq rfl
    rw [← List.singleton_inj.mp hlast, hc] at hd
    cases hd
  have hcons : cs ++ c :: r = (cs ++ [c]) ++ r := by rw [List.append_assoc, List.singleton_append]
  rw [hcons] at hend
  have hpos := (hend.of_append hr).countP_pos
  rw [hlater.countP_eq] at hpos
  exact absurd hpos (Nat.lt_irrefl 0)

/-- Groups that begin at one place are the same, or one of them end at a cut of the others. -/
lemma eq_or_mem_cuts (hcs : Groups ns cs) (hds : Groups ms ds) (h : cs ++ x = ds ++ y)
    (hcsend : EndsInDigit cs) (hdsend : EndsInDigit ds) (hx : ∀ c ∈ x.head?, isDecimal c = false)
    (hy : ∀ c ∈ y.head?, isDecimal c = false) :
    cs = ds ∨ ns.sum ∈ cuts ms ∨ ms.sum ∈ cuts ns := by
  rcases List.append_eq_append_iff.mp h with ⟨z, rfl, rfl⟩ | ⟨z, rfl, rfl⟩
  · rcases z with _ | ⟨c, z⟩
    · exact .inl (List.append_nil _).symm
    · exact .inr (.inl (hcs.sum_mem_cuts hds (hx c rfl) hdsend))
  · rcases z with _ | ⟨c, z⟩
    · exact .inl (List.append_nil _)
    · exact .inr (.inr (hds.sum_mem_cuts hcs (hy c rfl) hcsend))

end Groups

end

end Dossier.Pii
