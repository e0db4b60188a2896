import Mathlib.Tactic.Common
import Dossier.Proofs.Pii.Groups
import Dossier.Proofs.Pii.Rules

/-!
# Telephone numbers

A telephone number with its optional parts: what characters it is written with, and the groups that
its digits form.
-/

namespace Dossier.Pii

open Unicode Pattern

/-! ### The parts of a number -/

/-- Decimal digits, at least and at most so many. -/
structure Digits (least most : ℕ) where
  chars : List Char
  decimal : ∀ c ∈ chars, isDecimal c
  least_le : least ≤ chars.length
  le_most : chars.length ≤ most

/-- A separator or nothing. -/
structure Gap where
  chars : List Char
  separates : ∀ c ∈ chars, isSeparator c
  short : chars.length ≤ 1

/-- Digits that have been checked. -/
def Digits.ofChars {least most : ℕ} (cs : List Char) (hall : cs.all isDecimal)
    (hleast : least ≤ cs.length) (hmost : cs.length ≤ most) : Digits least most where
  chars := cs
  decimal := List.all_eq_true.mp hall
  least_le := hleast
  le_most := hmost

/-- No separator. -/
def Gap.none : Gap where
  chars := []
  separates := List.forall_mem_nil _
  short := Nat.zero_le 1

/-- One separator. -/
def Gap.single (c : Char) (h : isSeparator c) : Gap where
  chars := [c]
  separates := List.forall_mem_singleton.mpr h
  short := le_rfl

/-- A telephone number: a plus sign with a country code or nothing, a separator or nothing, an area
code that may be in parentheses, and two further groups of digits, each behind a separator or
nothing. -/
structure Telephone where
  country : Option (Digits 1 2)
  lead : Gap
  enclosed : Bool
  area : Digits 3 3
  first : Gap
  exchange : Digits 3 3
  second : Gap
  line : Digits 4 4

namespace Telephone

/-- The country code with its plus sign. -/
def prefixed (t : Telephone) : List Char := t.country.elim [] fun ds => '+' :: ds.chars

/-- The area code, in parentheses or bare. -/
def areaChars (t : Telephone) : List Char :=
  if t.enclosed then '(' :: (t.area.chars ++ [')']) else t.area.chars

/-- What follows the area code. -/
def tail (t : Telephone) : List Char :=
  t.first.chars ++ (t.exchange.chars ++ (t.second.chars ++ t.line.chars))

/-- The characters of a number. -/
def chars (t : Telephone) : List Char :=
  t.prefixed ++ (t.lead.chars ++ (t.areaChars ++ t.tail))

/-- The country code is joined to a bare area code. -/
def Joined (t : Telephone) : Prop :=
  t.country.isSome ∧ t.lead.chars = [] ∧ t.enclosed = false

instance (t : Telephone) : Decidable t.Joined :=
  inferInstanceAs (Decidable (t.country.isSome ∧ t.lead.chars = [] ∧ t.enclosed = false))

/-- The sizes of the groups of digits. -/
def sizes (t : Telephone) : List ℕ :=
  (t.country.elim [] fun ds => [ds.chars.length]) ++ [3, 3, 4]

end Telephone

section

variable {before after : Option Char} {m l r rest : List Char} {c : Char} {t t' : Telephone}
  {least most : ℕ}

/-! ### Characters -/

/-- A separator is no word character. -/
lemma isWord_of_isSeparator (h : isSeparator c) : isWord c = false := by
  unfold isSeparator at h
  rw [Bool.or_eq_true, Bool.or_eq_true, beq_iff_eq, beq_iff_eq] at h
  rcases h with (hblank | rfl) | rfl
  · exact isWord_of_isBlank hblank
  · decide +kernel
  · decide +kernel

/-- What is no word character is no digit. -/
lemma isDecimal_of_not_isWord (h : isWord c = false) : isDecimal c = false := by
  rw [Bool.eq_false_iff] at h ⊢
  exact fun hc => h (isWord_of_isDecimal hc)

lemma Gap.isDecimal_eq_false (gap : Gap) (hc : c ∈ gap.chars) : isDecimal c = false :=
  isDecimal_of_not_isWord (isWord_of_isSeparator (gap.separates c hc))

/-- The last of at least one digit. -/
lemma Digits.endsInDigit (ds : Digits least most) (hleast : 0 < least) : EndsInDigit ds.chars := by
  rcases List.eq_nil_or_concat' ds.chars with hnil | ⟨l, c, hconcat⟩
  · have hlength := ds.least_le
    rw [hnil, List.length_nil] at hlength
    omega
  · refine ⟨l, c, hconcat, ds.decimal c ?_⟩
    rw [hconcat]
    exact List.mem_append_right _ List.mem_cons_self

/-- The first of at least one digit. -/
lemma Digits.exists_cons (ds : Digits least most) (hleast : 0 < least) :
    ∃ c l, ds.chars = c :: l ∧ isDecimal c := by
  rcases hds : ds.chars with _ | ⟨c, l⟩
  · have hlength := ds.least_le
    rw [hds, List.length_nil] at hlength
    omega
  · exact ⟨c, l, rfl, ds.decimal c (hds ▸ List.mem_cons_self)⟩

lemma Digits.groups (ds : Digits least most) {ns : List ℕ} (h : Groups ns rest) :
    Groups (ds.chars.length :: ns) (ds.chars ++ rest) :=
  .group ds.decimal h

lemma Gap.groups (gap : Gap) {ns : List ℕ} (h : Groups ns rest) : Groups ns (gap.chars ++ rest) :=
  .skips (fun _ hc => gap.isDecimal_eq_false hc) h

lemma Digits.length_eq {n : ℕ} (ds : Digits n n) : ds.chars.length = n :=
  Nat.le_antisymm ds.le_most ds.least_le

/-- A country code has one or two digits. -/
lemma Digits.length_cases (ds : Digits 1 2) : ds.chars.length = 1 ∨ ds.chars.length = 2 := by
  have hleast := ds.least_le
  have hmost := ds.le_most
  omega

namespace Telephone

/-- What follows the area code holds two groups of digits. -/
lemma groups_tail (t : Telephone) : Groups [3, 4] t.tail := by
  have hline := t.second.groups (t.line.groups .nil)
  rw [List.append_nil] at hline
  have htail := t.first.groups (t.exchange.groups hline)
  rw [t.exchange.length_eq, t.line.length_eq] at htail
  exact htail

/-- The area code is a group of digits. -/
lemma groups_area (t : Telephone) : Groups [3, 3, 4] (t.areaChars ++ t.tail) := by
  unfold areaChars
  split
  · have hclose := t.area.groups (Groups.skip (c := ')') (by decide) t.groups_tail)
    rw [t.area.length_eq] at hclose
    rw [List.cons_append, List.append_assoc, List.singleton_append]
    exact .skip (by decide) hclose
  · have harea := t.area.groups t.groups_tail
    rwa [t.area.length_eq] at harea

/-- The digits of a number are in groups. -/
lemma groups (t : Telephone) : Groups t.sizes t.chars := by
  have hlead := t.lead.groups t.groups_area
  unfold sizes chars prefixed
  rcases t.country with _ | ds
  · exact hlead
  · exact .skip (by decide) (ds.groups hlead)

/-- A number ends in a digit. -/
lemma endsInDigit (t : Telephone) : EndsInDigit t.chars := by
  have hline := t.line.endsInDigit (by decide)
  exact (((((hline.append _).append _).append _).append _).append _).append _

lemma sizes_of_none (h : t.country = none) : t.sizes = [3, 3, 4] := by
  unfold sizes
  rw [h]
  rfl

/-- There are three or four groups. -/
lemma sizes_cases (t : Telephone) :
    t.country = none ∧ t.sizes = [3, 3, 4] ∨ t.country.isSome ∧ t.sizes = [1, 3, 3, 4] ∨
      t.country.isSome ∧ t.sizes = [2, 3, 3, 4] := by
  unfold sizes
  rcases t.country with _ | ds
  · exact .inl ⟨rfl, rfl⟩
  · rcases ds.length_cases with hlength | hlength
    · rw [Option.elim_some, hlength]
      exact .inr (.inl ⟨rfl, rfl⟩)
    · rw [Option.elim_some, hlength]
      exact .inr (.inr ⟨rfl, rfl⟩)

/-- Numbers that begin at one place are the same if their groups have the same sizes. -/
lemma chars_eq_of_sizes {x y : List Char} (h : t.chars ++ x = t'.chars ++ y)
    (hsizes : t.sizes = t'.sizes) : t.chars = t'.chars := by
  refine eq_of_countP_eq h t.endsInDigit t'.endsInDigit ?_
  rw [t.groups.countP_eq, t'.groups.countP_eq, hsizes]

/-! ### Which characters a number holds -/

/-- A number holds a plus sign in front only, and no other characters than these. -/
lemma mem_body (t : Telephone) (hc : c ∈ t.lead.chars ++ (t.areaChars ++ t.tail)) :
    isDecimal c ∨ isSeparator c ∨ c = '(' ∨ c = ')' := by
  unfold areaChars tail at hc
  simp only [List.mem_append] at hc
  rcases hc with hc | hc | hc | hc | hc | hc
  · exact .inr (.inl (t.lead.separates c hc))
  · split at hc
    · rw [List.mem_cons, List.mem_append, List.mem_singleton] at hc
      rcases hc with rfl | hc | rfl
      · exact .inr (.inr (.inl rfl))
      · exact .inl (t.area.decimal c hc)
      · exact .inr (.inr (.inr rfl))
    · exact .inl (t.area.decimal c hc)
  · exact .inr (.inl (t.first.separates c hc))
  · exact .inl (t.exchange.decimal c hc)
  · exact .inr (.inl (t.second.separates c hc))
  · exact .inl (t.line.decimal c hc)

/-- A number has a plus sign in front if it has a country code. -/
lemma chars_cases (t : Telephone) :
    (t.country = none ∧ t.chars = t.lead.chars ++ (t.areaChars ++ t.tail)) ∨
      ∃ ds, t.country = some ds ∧
        t.chars = '+' :: (ds.chars ++ (t.lead.chars ++ (t.areaChars ++ t.tail))) := by
  unfold chars prefixed
  rcases t.country with _ | ds
  · exact .inl ⟨rfl, rfl⟩
  · exact .inr ⟨ds, rfl, rfl⟩

/-- The characters of a number. -/
lemma mem_chars (t : Telephone) (hc : c ∈ t.chars) :
    c = '+' ∨ isDecimal c ∨ isSeparator c ∨ c = '(' ∨ c = ')' := by
  rcases t.chars_cases with ⟨-, hchars⟩ | ⟨ds, -, hchars⟩
  · rw [hchars] at hc
    exact .inr (t.mem_body hc)
  · rw [hchars, List.mem_cons, List.mem_append] at hc
    rcases hc with rfl | hc | hc
    · exact .inl rfl
    · exact .inr (.inl (ds.decimal c hc))
    · exact .inr (t.mem_body hc)

/-- A plus sign is nowhere but in front. -/
lemma plus_notMem (t : Telephone) (h : t.chars = l ++ r) (hl : l ≠ []) : '+' ∉ r := by
  have hbody : '+' ∉ t.lead.chars ++ (t.areaChars ++ t.tail) := by
    intro hplus
    rcases t.mem_body hplus with hc | hc | hc | hc <;> exact absurd hc (by decide)
  rcases t.chars_cases with ⟨-, hchars⟩ | ⟨ds, -, hchars⟩
  · rw [← hchars, h] at hbody
    exact fun hplus => hbody (List.mem_append_right _ hplus)
  · obtain ⟨c, l, rfl⟩ := List.exists_cons_of_ne_nil hl
    rw [hchars, List.cons_append] at h
    obtain ⟨-, htail⟩ := List.cons.inj h
    intro hplus
    have hmem : '+' ∈ ds.chars ++ (t.lead.chars ++ (t.areaChars ++ t.tail)) :=
      htail ▸ List.mem_append_right _ hplus
    rcases List.mem_append.mp hmem with hdigit | hplus
    · exact absurd (ds.decimal _ hdigit) (by decide)
    · exact hbody hplus

/-- The area code begins with a parenthesis or a digit. -/
lemma exists_area_cons (t : Telephone) : ∃ c r, t.areaChars ++ t.tail = c :: r ∧
    (t.enclosed ∧ c = '(' ∨ t.enclosed = false ∧ isDecimal c) := by
  unfold areaChars
  split
  · rename_i henclosed
    exact ⟨'(', _, rfl, .inl ⟨henclosed, rfl⟩⟩
  · rename_i henclosed
    obtain ⟨c, l, harea, hc⟩ := t.area.exists_cons (by decide)
    rw [harea]
    exact ⟨c, _, rfl, .inr ⟨Bool.eq_false_iff.mpr henclosed, hc⟩⟩

namespace Joined

/-- The digits of the area code follow those of the country code. -/
lemma exists_country (h : t.Joined) : ∃ ds, t.country = some ds ∧
    t.chars = '+' :: ((ds.chars ++ t.area.chars) ++ t.tail) := by
  obtain ⟨hcountry, hlead, henclosed⟩ := h
  obtain ⟨ds, hds⟩ := Option.isSome_iff_exists.mp hcountry
  refine ⟨ds, hds, ?_⟩
  unfold chars prefixed areaChars
  rw [hds, hlead, henclosed]
  simp

/-- The first group of digits is longer. -/
lemma groups (h : t.Joined) : Groups [4, 3, 4] t.chars ∨ Groups [5, 3, 4] t.chars := by
  obtain ⟨ds, -, hchars⟩ := h.exists_country
  have hgroups : Groups [(ds.chars ++ t.area.chars).length, 3, 4] t.chars := by
    rw [hchars]
    exact .skip (by decide)
      (.group (List.forall_mem_append.mpr ⟨ds.decimal, t.area.decimal⟩) t.groups_tail)
  rw [List.length_append, t.area.length_eq] at hgroups
  rcases ds.length_cases with hlength | hlength
  · rw [hlength] at hgroups
    exact .inl hgroups
  · rw [hlength] at hgroups
    exact .inr hgroups

/-- There are no parentheses. -/
lemma parenthesis_notMem (h : t.Joined) : '(' ∉ t.chars := by
  obtain ⟨ds, -, hchars⟩ := h.exists_country
  rw [hchars]
  unfold tail
  intro hopen
  rw [List.mem_cons, List.mem_append] at hopen
  simp only [List.mem_append] at hopen
  rcases hopen with hplus | (hc | hc) | hc | hc | hc | hc
  · cases hplus
  · exact absurd (ds.decimal _ hc) (by decide)
  · exact absurd (t.area.decimal _ hc) (by decide)
  · exact absurd (t.first.separates _ hc) (by decide)
  · exact absurd (t.exchange.decimal _ hc) (by decide)
  · exact absurd (t.second.separates _ hc) (by decide)
  · exact absurd (t.line.decimal _ hc) (by decide)

end Joined

end Telephone

end

end Dossier.Pii
