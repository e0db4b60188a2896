import Dossier.Pii.Rule
import Dossier.Proofs.Pii.Spans
import Dossier.Proofs.Unicode.Word

/-!
# What the rules have in common

The three rules for personal data span other characters, but redaction relies on four properties
that all of them have (`Pattern.Rule`): a match ends in a word character with none behind it; it
begins at a word boundary, or with a character that is no word character and then wherever it
stands; it holds no bracket; and it begins with a decimal digit if it holds word characters only.
-/

namespace Dossier.Pii

open Unicode Pattern

/-- What redaction relies on in a rule. -/
structure Pattern.Rule (p : Pattern) : Prop where
  last : ∀ {before m after}, p.Spans before m after →
    ∃ l c, m = l ++ [c] ∧ isWord c ∧ after.any isWord = false
  first : ∀ {before c m after}, p.Spans before (c :: m) after →
    isBoundary before (some c) ∨ isWord c = false ∧ ∀ before', p.Spans before' (c :: m) after
  bare : ∀ {before m after}, p.Spans before m after → '[' ∉ m ∧ ']' ∉ m
  digit : ∀ {before c m after}, p.Spans before (c :: m) after → (∀ d ∈ c :: m, isWord d) →
    isDecimal c

/-- The letters of an address are word characters. -/
lemma isWord_of_isLatin {c : Char} (h : isLatin c) : isWord c := by
  unfold isLatin at h
  rw [Bool.or_eq_true, Bool.or_eq_true, beq_iff_eq, beq_iff_eq] at h
  rcases h with (halpha | rfl) | rfl
  · exact isWord_of_isAlpha halpha
  · exact isWord_longS
  · exact isWord_kelvin

namespace Pattern

variable {p q first second : Pattern} {rest : List Pattern} {before after : Option Char}
  {m : List Char} {c : Char}

/-! ### Characters that a pattern reads, and those that it needs -/

/-- Can a pattern read a character? -/
def reads (c : Char) : Pattern → Bool
  | one cls => cls c
  | boundary => false
  | repeated cls _ _ => cls c
  | andThen first second => reads c first || reads c second
  | orElse first second => reads c first || reads c second
  | optionally inner => reads c inner

/-- A pattern spans only characters that it can read. -/
lemma Spans.reads_of_mem (h : p.Spans before m after) (hc : c ∈ m) : p.reads c := by
  induction p generalizing before m after with
  | one cls =>
    obtain ⟨d, rfl, hd⟩ := h
    rw [List.mem_singleton.mp hc]
    exact hd
  | boundary =>
    rw [h.1] at hc
    cases hc
  | repeated cls least extra => exact h.1 c hc
  | andThen first second ihfirst ihsecond =>
    obtain ⟨l, r, rfl, hfirst, hsecond⟩ := h
    rw [reads, Bool.or_eq_true]
    exact (List.mem_append.mp hc).imp (ihfirst hfirst) (ihsecond hsecond)
  | orElse first second ihfirst ihsecond =>
    rw [reads, Bool.or_eq_true]
    exact h.imp (fun hfirst => ihfirst hfirst hc) fun hsecond => ihsecond hsecond hc
  | optionally inner ih =>
    rcases h with hinner | rfl
    · exact ih hinner hc
    · cases hc

/-- A pattern that can read no bracket spans none. -/
lemma bare_of_reads (hopen : p.reads '[' = false) (hclose : p.reads ']' = false)
    (h : p.Spans before m after) : '[' ∉ m ∧ ']' ∉ m :=
  ⟨fun hmem => Bool.eq_false_iff.mp hopen (h.reads_of_mem hmem),
    fun hmem => Bool.eq_false_iff.mp hclose (h.reads_of_mem hmem)⟩

/-- Every match of a pattern holds a character. -/
def Needs (c : Char) (p : Pattern) : Prop :=
  ∀ before m after, p.Spans before m after → c ∈ m

/-- A match of a character holds it. -/
lemma needs_literal (c : Char) : (literal c).Needs c := by
  rintro before m after ⟨d, rfl, hd⟩
  rw [beq_iff_eq.mp hd]
  exact List.mem_singleton_self c

/-- What the first of two patterns needs, both need. -/
lemma Needs.andThen_left (h : first.Needs c) : (andThen first second).Needs c := by
  rintro before m after ⟨l, r, rfl, hfirst, -⟩
  exact List.mem_append_left _ (h _ _ _ hfirst)

/-- What the second of two patterns needs, both need. -/
lemma Needs.andThen_right (h : second.Needs c) : (andThen first second).Needs c := by
  rintro before m after ⟨l, r, rfl, -, hsecond⟩
  exact List.mem_append_right _ (h _ _ _ hsecond)

/-! ### How a match ends -/

/-- Every match of a pattern ends in a word character with none behind it. -/
def EndsInWord (p : Pattern) : Prop := ∀ before m after, p.Spans before m after →
  ∃ l c, m = l ++ [c] ∧ isWord c ∧ after.any isWord = false

/-- Word characters in front of a boundary end in one. -/
lemma endsInWord_repeated {cls : Char → Bool} {least : Nat} {extra : Option Nat}
    (hcls : ∀ c, cls c → isWord c) (hleast : 0 < least) :
    (andThen (repeated cls least extra) boundary).EndsInWord := by
  rintro before m after ⟨l, r, rfl, ⟨hall, hlength, -⟩, rfl, hboundary⟩
  rcases List.eq_nil_or_concat' l with rfl | ⟨l, c, rfl⟩
  · exact absurd (hleast.trans_le hlength) (Nat.lt_irrefl 0)
  · have hc := hcls c (hall c (List.mem_append_right _ (List.mem_singleton_self c)))
    unfold isBoundary at hboundary
    rw [behind_concat, Option.any_some, hc, bne_iff_ne] at hboundary
    refine ⟨l, c, List.append_nil _, hc, ?_⟩
    exact Bool.eq_false_iff.mpr (Ne.symm hboundary)

/-- Two patterns one behind the other end as the second does. -/
lemma EndsInWord.andThen (h : second.EndsInWord) : (andThen first second).EndsInWord := by
  rintro before m after ⟨l, r, rfl, -, hsecond⟩
  obtain ⟨r, c, rfl, hc, hafter⟩ := h _ _ _ hsecond
  exact ⟨l ++ r, c, (List.append_assoc _ _ _).symm, hc, hafter⟩

/-! ### How a match begins -/

/-- A pattern behind a boundary begins at one. -/
lemma isBoundary_of_spans (h : (andThen boundary q).Spans before (c :: m) after) :
    isBoundary before (some c) := by
  obtain ⟨l, r, hm, ⟨rfl, hboundary⟩, -⟩ := h
  rw [List.nil_append] at hm
  rw [← hm, ahead_cons] at hboundary
  exact hboundary

/-- A pattern behind a character does not depend on what stands before this character, which is the
first of every match. -/
lemma spans_literal_andThen {d : Char} :
    (andThen (literal d) q).Spans before (c :: m) after ↔ c = d ∧ q.Spans (some d) m after := by
  constructor
  · rintro ⟨l, r, hm, ⟨e, rfl, he⟩, hsecond⟩
    rw [beq_iff_eq] at he
    obtain ⟨rfl, rfl⟩ := List.cons.inj hm
    rw [he] at hsecond ⊢
    exact ⟨rfl, hsecond⟩
  · rintro ⟨rfl, hsecond⟩
    exact ⟨[c], m, rfl, ⟨c, rfl, beq_self_eq_true c⟩, hsecond⟩

end Pattern

/-! ### The three rules -/

/-- The rule for email addresses. -/
lemma rule_email : emailPattern.Rule where
  last h := by
    have hend : (andThen (repeated isLatin 2 none) boundary).EndsInWord :=
      endsInWord_repeated (fun _ => isWord_of_isLatin) (by decide)
    exact hend.andThen.andThen.andThen.andThen.andThen _ _ _ h
  first h := .inl (isBoundary_of_spans h)
  bare h := bare_of_reads (by decide +kernel) (by decide +kernel) h
  digit h hall := by
    have hneeds : emailPattern.Needs '@' := 
      (needs_literal '@').andThen_left.andThen_right.andThen_right
    have hword := hall '@' (hneeds _ _ _ h)
    exact absurd hword (by decide +kernel)

/-- The rule for social security numbers. -/
lemma rule_ssn : ssnPattern.Rule where
  last h := by
    have hend : (andThen (digits 4) boundary).EndsInWord :=
      endsInWord_repeated (fun _ => isWord_of_isDecimal) (by decide)
    exact hend.andThen.andThen.andThen.andThen.andThen _ _ _ h
  first h := .inl (isBoundary_of_spans h)
  bare h := bare_of_reads (by decide +kernel) (by decide +kernel) h
  digit h hall := by
    have hneeds : ssnPattern.Needs '-' := 
      (needs_literal '-').andThen_left.andThen_right.andThen_right
    have hword := hall '-' (hneeds _ _ _ h)
    exact absurd hword (by decide +kernel)

/-- A telephone number begins with a plus sign or a parenthesis, wherever it stands, or with a
decimal digit at a word boundary. -/
lemma first_of_spans_phone {before after : Option Char} {c : Char} {m : List Char}
    (h : phonePattern.Spans before (c :: m) after) :
    (isWord c = false ∧ ∀ before', phonePattern.Spans before' (c :: m) after) ∨
      isBoundary before (some c) ∧ isDecimal c := by
  obtain ⟨l, r, hm, hcountry, htail⟩ := h
  rcases hcountry with hcountry | rfl
  · -- With a country code.
    rcases l with _ | ⟨d, l⟩
    · exact absurd ((needs_literal '+').andThen_left _ _ _ hcountry) List.not_mem_nil
    obtain ⟨rfl, hrest⟩ := spans_literal_andThen.mp hcountry
    obtain ⟨rfl, rfl⟩ := List.cons.inj hm
    refine .inl ⟨by decide +kernel, fun before' => ⟨'+' :: l, r, rfl, .inl ?_, ?_⟩⟩
    · exact spans_literal_andThen.mpr ⟨rfl, hrest⟩
    · rw [behind_cons] at htail ⊢
      exact htail
  obtain ⟨area, r', rfl, harea, htail⟩ := htail
  rw [List.nil_append] at hm
  rcases harea with hparens | hdigits
  · -- With an area code in parentheses.
    rcases area with _ | ⟨d, area⟩
    · exact absurd ((needs_literal '(').andThen_left _ _ _ hparens) List.not_mem_nil
    obtain ⟨rfl, hrest⟩ := spans_literal_andThen.mp hparens
    obtain ⟨rfl, rfl⟩ := List.cons.inj hm
    refine .inl ⟨by decide +kernel, fun before' =>
      ⟨[], _, rfl, .inr rfl, '(' :: area, r', rfl, .inl ?_, ?_⟩⟩
    · exact spans_literal_andThen.mpr ⟨rfl, hrest⟩
    · rw [behind_nil, behind_cons] at htail ⊢
      exact htail
  · -- With an area code at a boundary.
    right
    have hall : ∀ d ∈ area, isDecimal d := by
      obtain ⟨l, r, rfl, ⟨rfl, -⟩, hall, -⟩ := hdigits
      exact hall
    rcases area with _ | ⟨d, area⟩
    · obtain ⟨l, r, hnil, -, -, hlength, -⟩ := hdigits
      rw [(List.append_eq_nil_iff.mp hnil.symm).2] at hlength
      cases hlength
    obtain ⟨rfl, -⟩ := List.cons.inj hm
    exact ⟨isBoundary_of_spans hdigits, hall _ List.mem_cons_self⟩

/-- The rule for telephone numbers. -/
lemma rule_phone : phonePattern.Rule where
  last h := by
    have hend : (andThen (digits 4) boundary).EndsInWord :=
      endsInWord_repeated (fun _ => isWord_of_isDecimal) (by decide)
    exact hend.andThen.andThen.andThen.andThen.andThen _ _ _ h
  first h := (first_of_spans_phone h).symm.imp_left And.left
  bare h := bare_of_reads (by decide +kernel) (by decide +kernel) h
  digit h hall := by
    rcases first_of_spans_phone h with ⟨hplain, -⟩ | ⟨-, hdecimal⟩
    · exact absurd (hall _ List.mem_cons_self) (Bool.eq_false_iff.mp hplain)
    · exact hdecimal

/-- The pattern of every kind is a rule. -/
theorem Kind.rule (kind : Kind) : kind.pattern.Rule := by
  cases kind with
  | email => exact rule_email
  | ssn => exact rule_ssn
  | phone => exact rule_phone

end Dossier.Pii
