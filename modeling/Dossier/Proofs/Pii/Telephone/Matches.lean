import Mathlib.Data.List.Infix
import Dossier.Proofs.Pii.Pieces
import Dossier.Proofs.Pii.Telephone.Form

/-!
# What the rule for telephone numbers matches

The rule matches the numbers that no word character follows, unless their country code is joined to
the area code; without a country code a number begins with the area code, in parentheses or behind
no word character (`spans_phone_iff`).  Digits tell where a match ends: a match that begins at a
number is the number, a match that reaches into a number from before ends where the number does, and
no match begins in a number whose country code is joined to the area code.
-/

namespace Dossier.Pii

open Unicode Pattern

variable {before after : Option Char} {m l r rest : List Char} {c : Char} {t t' : Telephone}
  {least : ℕ}

/-! ### What the rule matches -/

/-- What a class of digits spans. -/
lemma spans_digits_iff {extra : ℕ} : (repeated isDecimal least (some extra)).Spans before m after ↔
    ∃ ds : Digits least (least + extra), m = ds.chars := by
  constructor
  · rintro ⟨hall, hleast, hmost⟩
    exact ⟨⟨m, hall, hleast, hmost extra rfl⟩, rfl⟩
  · rintro ⟨ds, rfl⟩
    refine ⟨ds.decimal, ds.least_le, fun e he => ?_⟩
    cases he
    exact ds.le_most

lemma spans_separator_iff : separator.Spans before m after ↔ ∃ gap : Gap, m = gap.chars := by
  constructor
  · rintro (⟨c, rfl, hc⟩ | rfl)
    · exact ⟨.single c hc, rfl⟩
    · exact ⟨.none, rfl⟩
  · rintro ⟨gap, rfl⟩
    have hshort := gap.short
    rcases hgap : gap.chars with _ | ⟨c, cs⟩
    · exact .inr rfl
    · rw [hgap, List.length_cons] at hshort
      obtain rfl : cs = [] := List.eq_nil_of_length_eq_zero (by omega)
      exact .inl ⟨c, rfl, gap.separates c (hgap ▸ List.mem_cons_self)⟩

/-- What the country code spans. -/
lemma spans_country_iff : countryCode.Spans before m after ↔
    ∃ (ds : Digits 1 2) (gap : Gap), m = '+' :: (ds.chars ++ gap.chars) := by
  constructor
  · rintro ⟨plus, r, rfl, ⟨c, rfl, hc⟩, l, r, rfl, hdigits, hgap⟩
    obtain ⟨ds, rfl⟩ := spans_digits_iff.mp hdigits
    obtain ⟨gap, rfl⟩ := spans_separator_iff.mp hgap
    rw [beq_iff_eq.mp hc]
    exact ⟨ds, gap, rfl⟩
  · rintro ⟨ds, gap, rfl⟩
    exact ⟨['+'], _, rfl, ⟨'+', rfl, rfl⟩, _, _, rfl, spans_digits_iff.mpr ⟨ds, rfl⟩,
      spans_separator_iff.mpr ⟨gap, rfl⟩⟩

/-- What the area code spans. -/
lemma spans_area_iff : areaCode.Spans before m after ↔ ∃ ds : Digits 3 3,
    m = '(' :: (ds.chars ++ [')']) ∨ m = ds.chars ∧ before.any isWord = false := by
  have hboundary : ∀ ds : Digits 3 3, isBoundary before (ahead ds.chars after) ↔
      before.any isWord = false := by
    intro ds
    obtain ⟨c, l, hds, hc⟩ := ds.exists_cons (by decide)
    unfold isBoundary
    rw [hds, ahead_cons, Option.any_some, isWord_of_isDecimal hc, Bool.bne_true, Bool.not_eq_true']
  constructor
  · rintro (⟨x, r, rfl, ⟨c, rfl, hc⟩, l, r, rfl, hdigits, ⟨d, rfl, hd⟩⟩ |
      ⟨x, r, rfl, ⟨rfl, hbefore⟩, hdigits⟩)
    · obtain ⟨ds, rfl⟩ := spans_digits_iff.mp hdigits
      rw [beq_iff_eq.mp hc, beq_iff_eq.mp hd]
      exact ⟨ds, .inl rfl⟩
    · obtain ⟨ds, rfl⟩ := spans_digits_iff.mp hdigits
      exact ⟨ds, .inr ⟨rfl, (hboundary ds).mp hbefore⟩⟩
  · rintro ⟨ds, rfl | ⟨rfl, hbefore⟩⟩
    · exact .inl ⟨['('], _, rfl, ⟨'(', rfl, rfl⟩, _, _, rfl, spans_digits_iff.mpr ⟨ds, rfl⟩,
        ⟨')', rfl, rfl⟩⟩
    · exact .inr ⟨[], _, rfl, ⟨rfl, (hboundary ds).mpr hbefore⟩, spans_digits_iff.mpr ⟨ds, rfl⟩⟩

/-- What the rule spans behind the area code. -/
lemma spans_tail_iff :
    (sequence [separator, digits 3, separator, digits 4, boundary]).Spans before m after ↔
      after.any isWord = false ∧ ∃ (first : Gap) (exchange : Digits 3 3) (second : Gap)
        (line : Digits 4 4),
        m = first.chars ++ (exchange.chars ++ (second.chars ++ line.chars)) := by
  have hboundary : ∀ (line : Digits 4 4) (b : Option Char), isBoundary (behind b line.chars) after ↔
      after.any isWord = false := by
    intro line b
    obtain ⟨l, c, hline, hc⟩ := line.endsInDigit (by decide)
    unfold isBoundary
    rw [hline, behind_concat, Option.any_some, isWord_of_isDecimal hc, Bool.true_bne,
      Bool.not_eq_true']
  constructor
  · rintro ⟨_, r, rfl, hfirst, _, r, rfl, hexchange, _, r, rfl, hsecond, _, r, rfl, hline, rfl, hafter⟩
    obtain ⟨first, rfl⟩ := spans_separator_iff.mp hfirst
    obtain ⟨exchange, rfl⟩ := spans_digits_iff.mp hexchange
    obtain ⟨second, rfl⟩ := spans_separator_iff.mp hsecond
    obtain ⟨line, rfl⟩ := spans_digits_iff.mp hline
    refine ⟨(hboundary line _).mp hafter, first, exchange, second, line, ?_⟩
    rw [List.append_nil]
  · rintro ⟨hafter, first, exchange, second, line, rfl⟩
    refine ⟨_, _, rfl, spans_separator_iff.mpr ⟨first, rfl⟩, _, _, rfl,
      spans_digits_iff.mpr ⟨exchange, rfl⟩, _, _, rfl, spans_separator_iff.mpr ⟨second, rfl⟩, _, _,
      (List.append_nil _).symm, spans_digits_iff.mpr ⟨line, rfl⟩, rfl, (hboundary line _).mpr hafter⟩

/-- A number that the rule can match behind a character: no country code is joined to its area code,
and without a country code it begins with the area code, in parentheses or behind no word
character. -/
structure Telephone.Matches (t : Telephone) (before : Option Char) : Prop where
  apart : ¬ t.Joined
  plain : t.country = none → t.lead.chars = [] ∧ (t.enclosed ∨ before.any isWord = false)

/-- What the rule spans is a number that it can match, and no word character follows. -/
lemma exists_of_spans_phone (h : phonePattern.Spans before m after) :
    after.any isWord = false ∧ ∃ t : Telephone, m = t.chars ∧ t.Matches before := by
  obtain ⟨code, r, rfl, hcountry, area, rest, rfl, harea, htail⟩ := h
  obtain ⟨hafter, first, exchange, second, line, rfl⟩ := spans_tail_iff.mp htail
  refine ⟨hafter, ?_⟩
  obtain ⟨ds, harea⟩ := spans_area_iff.mp harea
  rcases hcountry with hcountry | rfl
  · obtain ⟨country, lead, rfl⟩ := spans_country_iff.mp hcountry
    rcases harea with rfl | ⟨rfl, hbefore⟩
    · refine ⟨⟨some country, lead, true, ds, first, exchange, second, line⟩, ?_, ?_, nofun⟩
      · simp [Telephone.chars, Telephone.prefixed, Telephone.areaChars, Telephone.tail]
      · rintro ⟨-, -, henclosed⟩
        cases henclosed
    · refine ⟨⟨some country, lead, false, ds, first, exchange, second, line⟩, ?_, ?_, nofun⟩
      · simp [Telephone.chars, Telephone.prefixed, Telephone.areaChars, Telephone.tail]
      · rintro ⟨-, hlead, -⟩
        obtain ⟨l, c, hcountry, hc⟩ := country.endsInDigit (by decide)
        have hlead : lead.chars = [] := hlead
        rw [hlead, hcountry, List.append_nil, behind_cons, behind_concat, Option.any_some,
          isWord_of_isDecimal hc] at hbefore
        cases hbefore
  · rcases harea with rfl | ⟨rfl, hbefore⟩
    · refine ⟨⟨none, .none, true, ds, first, exchange, second, line⟩, rfl, ?_,
        fun _ => ⟨rfl, .inl rfl⟩⟩
      rintro ⟨hsome, -, -⟩
      cases hsome
    · refine ⟨⟨none, .none, false, ds, first, exchange, second, line⟩, rfl, ?_,
        fun _ => ⟨rfl, .inr hbefore⟩⟩
      rintro ⟨hsome, -, -⟩
      cases hsome

/-- The rule spans every number that it can match and that no word character follows. -/
lemma Telephone.Matches.spans (h : t.Matches before) (hafter : after.any isWord = false) :
    phonePattern.Spans before t.chars after := by
  have htail : ∀ b, (sequence [separator, digits 3, separator, digits 4, boundary]).Spans b
      t.tail after :=
    fun b => spans_tail_iff.mpr ⟨hafter, _, _, _, _, rfl⟩
  have harea : ∀ b a, (t.enclosed ∨ b.any isWord = false) → areaCode.Spans b t.areaChars a := by
    intro b a hb
    refine spans_area_iff.mpr ⟨t.area, ?_⟩
    unfold Telephone.areaChars
    split
    · exact .inl rfl
    · rename_i hbare
      exact .inr ⟨rfl, hb.resolve_left hbare⟩
  rcases t.chars_cases with ⟨hnone, hchars⟩ | ⟨country, hcountry, hchars⟩
  · obtain ⟨hlead, hbefore⟩ := h.plain hnone
    rw [hchars, hlead, List.nil_append]
    exact ⟨[], _, rfl, .inr rfl, t.areaChars, t.tail, rfl, harea _ _ hbefore, htail _⟩
  · have hassoc : t.chars = ('+' :: (country.chars ++ t.lead.chars)) ++ (t.areaChars ++ t.tail) := by
      rw [hchars, List.cons_append, List.append_assoc]
    rw [hassoc]
    refine ⟨_, _, rfl, .inl (spans_country_iff.mpr ⟨country, t.lead, rfl⟩), t.areaChars, t.tail,
      rfl, harea _ _ ?_, htail _⟩
    -- A bare area code has a separator before it.
    rw [or_iff_not_imp_left, Bool.not_eq_true]
    intro hbare
    have hlead : t.lead.chars ≠ [] := fun hlead =>
      h.apart ⟨hcountry ▸ rfl, hlead, hbare⟩
    obtain ⟨l, c, hconcat⟩ := (List.eq_nil_or_concat' _).resolve_left hlead
    have hc := t.lead.separates c (hconcat ▸ List.mem_append_right _ List.mem_cons_self)
    rw [hconcat, behind_cons, ← List.append_assoc, behind_concat]
    exact isWord_of_isSeparator hc

/-- The rule spans the numbers that it can match and that no word character follows. -/
theorem spans_phone_iff : phonePattern.Spans before m after ↔
    after.any isWord = false ∧ ∃ t : Telephone, m = t.chars ∧ t.Matches before := by
  refine ⟨exists_of_spans_phone, ?_⟩
  rintro ⟨hafter, t, rfl, hmatches⟩
  exact hmatches.spans hafter

/-! ### Where a match begins and ends -/

namespace Telephone

variable {x y w : List Char} {before' : Option Char}

/-- A number that the rule can match begins with a plus sign if it has a country code, and otherwise
with a parenthesis or a digit. -/
lemma Matches.head_cases (h : t.Matches before) (hcons : t.chars = c :: r) :
    t.country.isSome ∧ c = '+' ∨
      t.country = none ∧ c ≠ '+' ∧ (c = '(' ∨ t.enclosed = false ∧ isDecimal c) := by
  rcases t.chars_cases with ⟨hnone, hchars⟩ | ⟨ds, hsome, hchars⟩
  · right
    obtain ⟨d, r', harea, hd⟩ := t.exists_area_cons
    rw [hchars, (h.plain hnone).1, List.nil_append, harea] at hcons
    obtain ⟨rfl, -⟩ := List.cons.inj hcons
    rcases hd with ⟨-, rfl⟩ | ⟨hbare, hdigit⟩
    · exact ⟨hnone, by decide, .inl rfl⟩
    · refine ⟨hnone, ?_, .inr ⟨hbare, hdigit⟩⟩
      rintro rfl
      exact absurd hdigit (by decide)
  · rw [hchars] at hcons
    exact .inl ⟨hsome ▸ rfl, (List.cons.inj hcons).1.symm⟩

lemma exists_cons (t : Telephone) : ∃ c r, t.chars = c :: r :=
  List.exists_cons_of_ne_nil fun hnil => by
    obtain ⟨l, c, hconcat, -⟩ := t.endsInDigit
    rw [hnil] at hconcat
    exact absurd hconcat.symm (by simp)

/-- The first character tells whether there is a country code. -/
lemma Matches.country_isSome_iff (h : t.Matches before) (hcons : t.chars = c :: r) :
    t.country.isSome ↔ c = '+' := by
  rcases h.head_cases hcons with ⟨hsome, rfl⟩ | ⟨hnone, hc, -⟩
  · exact iff_of_true hsome rfl
  · rw [hnone]
    exact iff_of_false Bool.false_ne_true hc

/-- No digit stands behind the country code of a number that is not joined. -/
lemma takeWhile_country {ds : Digits 1 2} (hds : t.country = some ds) (h : ¬ t.Joined)
    (x : List Char) :
    (ds.chars ++ (t.lead.chars ++ (t.areaChars ++ t.tail)) ++ x).takeWhile isDecimal = ds.chars := by
  rw [List.append_assoc, List.takeWhile_append_of_pos ds.decimal]
  rcases hlead : t.lead.chars with _ | ⟨c, l⟩
  · obtain ⟨c, r, harea, ⟨-, rfl⟩ | ⟨hbare, -⟩⟩ := t.exists_area_cons
    · rw [harea, List.nil_append, List.cons_append, List.takeWhile_cons_of_neg (by decide),
        List.append_nil]
    · exact absurd ⟨hds ▸ rfl, hlead, hbare⟩ h
  · have hc := t.lead.isDecimal_eq_false (hlead ▸ List.mem_cons_self : c ∈ t.lead.chars)
    rw [List.cons_append, List.cons_append, List.takeWhile_cons_of_neg (Bool.eq_false_iff.mp hc),
      List.append_nil]

/-- A match that begins where a number does is the number. -/
lemma Matches.chars_eq (h : t.Matches before) (h' : t'.Matches before')
    (heq : t.chars ++ x = t'.chars ++ y) : t.chars = t'.chars := by
  refine chars_eq_of_sizes heq ?_
  have hcountry : t.country.isSome ↔ t'.country.isSome := by
    obtain ⟨c, r, hcons⟩ := t.exists_cons
    obtain ⟨c', r', hcons'⟩ := t'.exists_cons
    rw [h.country_isSome_iff hcons, h'.country_isSome_iff hcons']
    rw [hcons, hcons'] at heq
    rw [(List.cons.inj heq).1]
  rcases t.chars_cases with ⟨hnone, -⟩ | ⟨ds, hsome, hchars⟩
  · rw [hnone] at hcountry
    have hnone' : t'.country = none := by
      rw [← Option.not_isSome_iff_eq_none, ← hcountry]
      exact Bool.false_ne_true
    unfold sizes
    rw [hnone, hnone']
  · obtain ⟨ds', hsome'⟩ := Option.isSome_iff_exists.mp (hcountry.mp (hsome ▸ rfl))
    have hdigits : ds.chars = ds'.chars := by
      rw [← takeWhile_country hsome h.apart x, ← takeWhile_country hsome' h'.apart y]
      rcases t'.chars_cases with ⟨hnone', -⟩ | ⟨ds'', hsome'', hchars'⟩
      · rw [hnone'] at hsome'
        cases hsome'
      · rw [hsome', Option.some.injEq] at hsome''
        rw [hchars, hchars', ← hsome''] at heq
        exact congrArg (List.takeWhile isDecimal) (List.cons.inj heq).2
    unfold sizes
    rw [hsome, hsome', Option.elim_some, Option.elim_some, hdigits]

/-- A match that covers the blank character before a number ends where the number does. -/
lemma eq_of_covers {b : Char} (h : t'.chars = w ++ b :: x) (hb : isBlank b) (hx : x ≠ [])
    (heq : x ++ y = t.chars ++ rest) (hy : ∀ c ∈ y.head?, isDecimal c = false)
    (hrest : ∀ c ∈ rest.head?, isDecimal c = false) : t.country = none ∧ x = t.chars := by
  have hcons : t'.chars = (w ++ [b]) ++ x := by rw [h, List.append_assoc, List.singleton_append]
  have hend : EndsInDigit x := by
    have hend := t'.endsInDigit
    rw [hcons] at hend
    exact hend.of_append hx
  have hgroups := t'.groups
  rw [h] at hgroups
  obtain ⟨ns₁, ns₂, hsizes, -, hx'⟩ := hgroups.split (isDecimal_of_isBlank hb)
  have hsum : ns₂.sum ≠ 0 := by
    have hpos := hend.countP_pos
    rw [hx'.countP_eq] at hpos
    omega
  -- The plus sign of a country code would stand inside the match.
  have hcountry : t.country = none ∧ t.sizes = [3, 3, 4] := by
    rcases t.sizes_cases with hnone | ⟨hsome, -⟩ | ⟨hsome, -⟩
    · exact hnone
    all_goals
      rcases t.chars_cases with ⟨hnone, -⟩ | ⟨ds, -, hchars⟩
      · rw [hnone] at hsome
        cases hsome
      · obtain ⟨c, x, rfl⟩ := List.exists_cons_of_ne_nil hx
        rw [hchars] at heq
        obtain ⟨rfl, -⟩ := List.cons.inj heq
        exact absurd List.mem_cons_self (t'.plus_notMem hcons (by simp))
  refine ⟨hcountry.1, ?_⟩
  have hchars := t.groups
  rw [hcountry.2] at hchars
  have hcuts : ∀ sizes ∈ [[3, 3, 4], [1, 3, 3, 4], [2, 3, 3, 4]], ∀ ns ∈ List.tails sizes,
      ns.sum ≠ 0 → ns.sum ∉ cuts [3, 3, 4] ∧ [3, 3, 4].sum ∉ cuts ns := by
    decide
  have hmem : ns₂ ∈ t'.sizes.tails := (List.mem_tails _ _).mpr ⟨ns₁, hsizes.symm⟩
  have hform : t'.sizes ∈ [[3, 3, 4], [1, 3, 3, 4], [2, 3, 3, 4]] := by
    rcases t'.sizes_cases with ⟨-, hform⟩ | ⟨-, hform⟩ | ⟨-, hform⟩ <;> rw [hform] <;> decide
  obtain ⟨hcut, hcut'⟩ := hcuts _ hform ns₂ hmem hsum
  exact (hx'.eq_or_mem_cuts hchars heq hend t.endsInDigit hy hrest).resolve_right
    (not_or.mpr ⟨hcut, hcut'⟩)

/-- No match begins in a number whose country code is joined to the area code. -/
lemma Joined.not_begins (h : t.Joined) (hlr : t.chars = l ++ r) (hr : r ≠ [])
    (hrest : ∀ c ∈ rest.head?, isDecimal c = false) :
    ¬ phonePattern.Begins (behind before l) (r ++ rest) := by
  rintro ⟨m, after, heq, hspans⟩
  obtain ⟨hafter, t', rfl, hmatches⟩ := spans_phone_iff.mp hspans
  obtain ⟨c, r', hcons⟩ := t'.exists_cons
  by_cases hl : l = []
  · -- The country code of a match would have more than two digits.
    obtain ⟨ds, -, hchars⟩ := h.exists_country
    rw [hl, List.nil_append] at hlr
    rw [← hlr, hchars] at heq
    have hsome : t'.country.isSome := by
      rw [hmatches.country_isSome_iff hcons]
      rw [hcons] at heq
      exact (List.cons.inj heq).1.symm
    rcases t'.chars_cases with ⟨hnone, -⟩ | ⟨ds', hsome', hchars'⟩
    · rw [hnone] at hsome
      cases hsome
    · rw [hchars', List.cons_append, List.cons_append] at heq
      have hrun := congrArg (List.takeWhile isDecimal) (List.cons.inj heq).2
      have hdecimal : ∀ c ∈ ds.chars ++ t.area.chars, isDecimal c :=
        List.forall_mem_append.mpr ⟨ds.decimal, t.area.decimal⟩
      rw [takeWhile_country hsome' hmatches.apart, List.append_assoc,
        List.takeWhile_append_of_pos hdecimal] at hrun
      have hlength := congrArg List.length hrun
      rw [List.length_append, List.length_append, t.area.length_eq] at hlength
      have hleast := ds.least_le
      have hmost := ds'.le_most
      omega
  · obtain ⟨d, r, rfl⟩ := List.exists_cons_of_ne_nil hr
    obtain rfl : d = c := by
      rw [hcons] at heq
      exact (List.cons.inj heq).1
    obtain ⟨hnone, hbefore⟩ : t'.country = none ∧ (behind before l).any isWord = false := by
      rcases hmatches.head_cases hcons with ⟨-, rfl⟩ | ⟨hnone, -, rfl | ⟨hbare, -⟩⟩
      · exact absurd List.mem_cons_self (t.plus_notMem hlr hl)
      · exact absurd (hlr ▸ List.mem_append_right _ List.mem_cons_self) h.parenthesis_notMem
      · refine ⟨hnone, (hmatches.plain hnone).2.resolve_left ?_⟩
        rw [hbare]
        exact Bool.false_ne_true
    obtain ⟨l, e, rfl⟩ := (List.eq_nil_or_concat' l).resolve_left hl
    rw [behind_concat, Option.any_some] at hbefore
    have he := isDecimal_of_not_isWord hbefore
    have hend : EndsInDigit (d :: r) := by
      have hend := t.endsInDigit
      rw [hlr] at hend
      exact hend.of_append hr
    -- No groups behind a separator have as many digits as a match.
    have hcuts : ∀ sizes ∈ [[4, 3, 4], [5, 3, 4]], ∀ ns ∈ List.tails sizes, ns.sum ≠ 0 →
        ns.sum ≠ 10 ∧ ns.sum ∉ cuts [3, 3, 4] ∧ [3, 3, 4].sum ∉ cuts ns := by
      decide
    obtain ⟨sizes, hsizes, hgroups⟩ : ∃ sizes ∈ [[4, 3, 4], [5, 3, 4]], Groups sizes t.chars := by
      rcases h.groups with hgroups | hgroups
      · exact ⟨_, List.mem_cons_self, hgroups⟩
      · exact ⟨_, List.mem_cons_of_mem _ List.mem_cons_self, hgroups⟩
    rw [hlr, List.append_assoc, List.singleton_append] at hgroups
    obtain ⟨ns₁, ns₂, rfl, -, hlater⟩ := hgroups.split he
    have hsum : ns₂.sum ≠ 0 := by
      have hpos := hend.countP_pos
      rw [hlater.countP_eq] at hpos
      omega
    obtain ⟨hten, hcut, hcut'⟩ :=
      hcuts _ hsizes ns₂ ((List.mem_tails _ _).mpr (List.suffix_append _ _)) hsum
    have hgroups' := t'.groups
    rw [sizes_of_none hnone] at hgroups'
    have hafter : ∀ c ∈ after.head?, isDecimal c = false := by
      intro c hc
      rw [Option.mem_def.mp hc] at hafter
      exact isDecimal_of_not_isWord hafter
    rcases hlater.eq_or_mem_cuts hgroups' heq hend t'.endsInDigit hrest hafter with
      hsame | hmem | hmem
    · refine hten ?_
      rw [← hlater.countP_eq, hsame, hgroups'.countP_eq]
      rfl
    · exact hcut hmem
    · exact hcut' hmem

end Telephone

/-- No match begins at a separator. -/
lemma not_begins_separator (hc : isSeparator c) : ¬ phonePattern.Begins before (c :: rest) := by
  rintro ⟨m, after, heq, hspans⟩
  obtain ⟨-, t, rfl, hmatches⟩ := spans_phone_iff.mp hspans
  obtain ⟨d, r, hcons⟩ := t.exists_cons
  obtain rfl : c = d := by
    rw [hcons] at heq
    exact (List.cons.inj heq).1
  rcases hmatches.head_cases hcons with ⟨-, rfl⟩ | ⟨-, -, rfl | ⟨-, hdigit⟩⟩
  · exact absurd hc (by decide)
  · exact absurd hc (by decide)
  · rw [isDecimal_of_not_isWord (isWord_of_isSeparator hc)] at hdigit
    cases hdigit

end Dossier.Pii
