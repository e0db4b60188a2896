import Dossier.Proofs.Pii.Cover
import Dossier.Proofs.Pii.Passing
import Dossier.Proofs.Pii.Redaction
import Dossier.Proofs.Pii.Telephone.Matches

/-!
# Telephone numbers in a redacted text

A telephone number between blank characters is masked, whatever of its optional parts it has, unless
its country code is joined to an area code without parentheses: then nothing of it is masked
(`redact_telephone`).  The rules that run first find nothing in a number, since it holds no at sign
and no group of two digits but its first.
-/

namespace Dossier.Pii

open Unicode Pattern

variable {before after : Option Char} {m l r rest : List Char} {c : Char} {t t' : Telephone}
  {kind : Kind}

/-! ### The other rules -/

/-- A match of a pattern that reads no blank character ends before the next one. -/
lemma exists_of_begins {p : Pattern} (hblank : ∀ c, isBlank c → p.reads c = false)
    (h : p.Begins before (r ++ rest)) (hrest : ∀ c ∈ rest.head?, isBlank c) :
    ∃ m z after, r = m ++ z ∧ p.Spans before m after := by
  obtain ⟨m, after, heq, hspans⟩ := h
  rcases List.append_eq_append_iff.mp heq with ⟨z, rfl, hz⟩ | ⟨z, rfl, -⟩
  · rcases z with _ | ⟨c, z⟩
    · exact ⟨r, [], _, (List.append_nil r).symm, List.append_nil r ▸ hspans⟩
    · rw [hz] at hrest
      have hreads := hspans.reads_of_mem (List.mem_append_right r List.mem_cons_self)
      rw [hblank c (hrest c rfl)] at hreads
      cases hreads
  · exact ⟨m, z, _, rfl, hspans⟩

/-- The rules for addresses and social security numbers read no blank character. -/
lemma reads_of_isBlank (hkind : kind ≠ .phone) (hc : isBlank c) : kind.pattern.reads c = false := by
  have hword : ∀ {d}, isWord d → c ≠ d := by
    rintro d hd rfl
    rw [isWord_of_isBlank hc] at hd
    cases hd
  have hlatin : isLatin c = false := Bool.eq_false_iff.mpr fun h => hword (isWord_of_isLatin h) rfl
  have hdecimal : isDecimal c = false := isDecimal_of_isBlank hc
  have hdigit : c.isDigit = false := Bool.eq_false_iff.mpr fun h => by
    rw [isDecimal_of_isDigit h] at hdecimal
    cases hdecimal
  have hother : ∀ d, isBlank d = false → (c == d) = false := by
    rintro d hd
    rw [beq_eq_false_iff_ne]
    rintro rfl
    rw [hc] at hd
    cases hd
  have hlocal : "._%+-".toList.contains c = false := by
    rw [← Bool.not_eq_true, List.contains_iff_mem]
    intro hmem
    have hall : "._%+-".toList.all (fun d => !isBlank d) := by decide +kernel
    have hplain := List.all_eq_true.mp hall c hmem
    rw [hc] at hplain
    cases hplain
  cases kind with
  | email =>
    simp only [Kind.pattern, emailPattern, sequence, reads, literal, isLocalPart, isDomainPart, hlatin,
      hdigit, hlocal, hother '@' (by decide), hother '.' (by decide), hother '-' (by decide),
      Bool.or_self]
  | ssn =>
    simp only [Kind.pattern, ssnPattern, sequence, reads, literal, digits, hdecimal,
      hother '-' (by decide), Bool.or_self]
  | phone => exact absurd rfl hkind

namespace Telephone

/-- No address begins in a number. -/
lemma not_begins_email (hlr : t.chars = l ++ r) (hrest : ∀ c ∈ rest.head?, isBlank c) :
    ¬ emailPattern.Begins before (r ++ rest) := by
  intro h
  have hkind : Kind.email ≠ .phone := nofun
  obtain ⟨m, z, after, rfl, hspans⟩ := exists_of_begins (fun c => reads_of_isBlank hkind) h hrest
  have hneeds : emailPattern.Needs '@' :=
    (needs_literal '@').andThen_left.andThen_right.andThen_right
  have hmem : '@' ∈ t.chars := by
    rw [hlr]
    exact List.mem_append_right _ (List.mem_append_left _ (hneeds _ _ _ hspans))
  rcases t.mem_chars hmem with hc | hc | hc | hc | hc <;> exact absurd hc (by decide)

/-- No social security number begins in a number: it has a group of two digits behind another
one. -/
lemma not_begins_ssn (hlr : t.chars = l ++ r) (hrest : ∀ c ∈ rest.head?, isBlank c) :
    ¬ ssnPattern.Begins before (r ++ rest) := by
  intro h
  have hkind : Kind.ssn ≠ .phone := nofun
  obtain ⟨m, z, after, rfl, hspans⟩ := exists_of_begins (fun c => reads_of_isBlank hkind) h hrest
  obtain ⟨_, _, rfl, ⟨rfl, -⟩, d₁, _, rfl, hd₁, _, _, rfl, ⟨e, rfl, he⟩, d₂, _, rfl, hd₂, _, more,
    rfl, ⟨f, rfl, hf⟩, -⟩ := hspans
  obtain ⟨d₁, rfl⟩ := spans_digits_iff.mp hd₁
  obtain ⟨d₂, rfl⟩ := spans_digits_iff.mp hd₂
  obtain rfl : e = '-' := beq_iff_eq.mp he
  obtain rfl : f = '-' := beq_iff_eq.mp hf
  have hgroups := t.groups
  have hfirst : t.chars = (l ++ d₁.chars) ++ '-' :: (d₂.chars ++ '-' :: (more ++ z)) := by
    rw [hlr]
    simp only [List.nil_append, List.cons_append, List.append_assoc]
  rw [hfirst] at hgroups
  obtain ⟨ns₁, ns, hsizes, hbefore, hrest⟩ := hgroups.split (by decide)
  obtain ⟨ns₂, ns₃, rfl, htwo, -⟩ := hrest.split (by decide)
  have hsum : ns₂.sum = 2 := by
    rw [← htwo.countP_eq, List.countP_eq_length.mpr d₂.decimal, d₂.length_eq]
  have hne : ns₁ ≠ [] := by
    rintro rfl
    have hpos := ((d₁.endsInDigit (by decide)).append l).countP_pos
    rw [hbefore.countP_eq] at hpos
    exact absurd hpos (Nat.lt_irrefl 0)
  obtain ⟨n, ns₁, rfl⟩ := List.exists_cons_of_ne_nil hne
  have hsuffix : ns₂ ++ ns₃ <:+ [3, 3, 4] := by
    have htail : ns₂ ++ ns₃ <:+ t.sizes.tail := by
      rw [hsizes]
      exact List.suffix_append ns₁ _
    refine htail.trans ?_
    rcases t.sizes_cases with ⟨-, hform⟩ | ⟨-, hform⟩ | ⟨-, hform⟩ <;> rw [hform] <;> decide
  have htwice : ∀ ns ∈ List.tails [3, 3, 4], ∀ ms ∈ List.inits ns, ms.sum ≠ 2 := by decide
  exact htwice _ ((List.mem_tails _ _).mpr hsuffix) ns₂
    ((List.mem_inits _ _).mpr (List.prefix_append _ _)) hsum

end Telephone

/-! ### The rule for telephone numbers -/

/-- Behind a separator that is no part of it, a number is one that the rule can match, unless its
country code is joined to the area code. -/
lemma Telephone.exists_matches (h : ¬ t.Joined) (hbefore : before.any isWord = false) :
    ∃ (l : List Char) (t₀ : Telephone), t.chars = l ++ t₀.chars ∧ (∀ c ∈ l, isSeparator c) ∧
      t₀.Matches (behind before l) := by
  rcases t.chars_cases with ⟨hnone, hchars⟩ | ⟨ds, hsome, -⟩
  · refine ⟨t.lead.chars, { t with lead := .none }, ?_,
      t.lead.separates, ?_, fun _ => ⟨rfl, .inr ?_⟩⟩
    · rw [hchars]
      unfold Telephone.chars Telephone.prefixed
      rw [hnone]
      rfl
    · rintro ⟨hsome, -, -⟩
      rw [hnone] at hsome
      cases hsome
    · rcases List.eq_nil_or_concat' t.lead.chars with hnil | ⟨l, c, hconcat⟩
      · rw [hnil]
        exact hbefore
      · rw [hconcat, behind_concat]
        exact isWord_of_isSeparator
          (t.lead.separates c (hconcat ▸ List.mem_append_right _ List.mem_cons_self))
  · refine ⟨[], t, rfl, by simp, h, fun hnone => ?_⟩
    rw [hnone] at hsome
    cases hsome

variable {ps out right : List Part} {u v : List Char} {i : ℕ}

/-- The rule masks a number at which it comes, apart from a separator in front of it. -/
lemma Passes.hides_telephone (h : Passes .phone before (t.chars.map .kept ++ right) out)
    (hbefore : before.any isWord = false) (hright : (faces right).head?.any isWord = false)
    (hapart : ¬ t.Joined) : ∃ l m out', out = l.map .kept ++ .masked .phone m :: out' ∧
      t.chars = l ++ m ∧ ∀ c ∈ l, isSeparator c := by
  obtain ⟨l, t₀, hchars, hl, hmatches⟩ := Telephone.exists_matches hapart hbefore
  rw [hchars, List.map_append, List.append_assoc] at h
  obtain ⟨out', rfl, hrest⟩ := h.keeps fun l₁ r hlr hr => by
    obtain ⟨c, r, rfl⟩ := List.exists_cons_of_ne_nil hr
    exact not_begins_separator (hl c (hlr ▸ List.mem_append_right _ List.mem_cons_self))
  have hspans : phonePattern.Spans (behind before l) t₀.chars (faces right).head? :=
    spans_phone_iff.mpr ⟨hright, t₀, rfl, hmatches⟩
  have hsome : phonePattern.matchLength? ⟨behind before l, t₀.chars ++ faces right⟩ =
      some t₀.chars.length := by
    rcases rule_phone.matchLength?_cases (behind before l) (t₀.chars ++ faces right) with
      ⟨-, hnone⟩ | ⟨m, after, heq, -, hspans', hsome⟩
    · exact absurd ⟨t₀.chars, faces right, rfl, hspans⟩ hnone
    · obtain ⟨-, t₁, rfl, hmatches'⟩ := spans_phone_iff.mp hspans'
      rw [hsome, hmatches.chars_eq hmatches' heq]
  obtain ⟨out'', rfl⟩ := hrest.hides (rule_phone.ne_nil hspans) hsome
  exact ⟨l, t₀.chars, out'', rfl, hchars, hl⟩

/-- The digits of a number at which the rule comes are hidden. -/
lemma Passes.hidden_telephone (h : Passes .phone before (t.chars.map .kept ++ right) out)
    (hbefore : before.any isWord = false) (hright : (faces right).head?.any isWord = false)
    (hapart : ¬ t.Joined) (hi : t.chars[i]? = some c) (hc : isDecimal c) : Hidden out i := by
  obtain ⟨l, m, out, rfl, hlm, hl⟩ := h.hides_telephone hbefore hright hapart
  have hle : l.length ≤ i := by
    by_contra hlt
    rw [Nat.not_le] at hlt
    rw [hlm, List.getElem?_append_left hlt] at hi
    rw [isDecimal_of_not_isWord (isWord_of_isSeparator (hl c (List.mem_of_getElem? hi)))] at hc
    cases hc
  obtain ⟨hlt, -⟩ := List.getElem?_eq_some_iff.mp hi
  rw [hlm, List.length_append] at hlt
  exact hidden_kept_append.mpr ⟨hle, hidden_cons.mpr (.inl ⟨Nat.sub_lt_left_of_lt_add hle hlt, rfl⟩)⟩

/-- A match that begins before a number and reaches into it ends where the number does, and the
number has no country code. -/
lemma eq_of_covers {w x : List Char} {qs : List Part} (hw : w ≠ [])
    (hblank : ∀ c ∈ w.getLast?, isBlank c) (hx : x ≠ [])
    (heq : t.chars.map .kept ++ right = x.map .kept ++ qs)
    (hright : ∀ c ∈ (faces right).head?, isBlank c)
    (hspans : phonePattern.Spans before (w ++ x) (faces qs).head?) :
    t.country = none ∧ x = t.chars := by
  obtain ⟨hafter, t', hchars, -⟩ := spans_phone_iff.mp hspans
  obtain ⟨w, b, rfl⟩ := (List.eq_nil_or_concat' w).resolve_left hw
  rw [List.append_assoc, List.singleton_append] at hchars
  have hfaces := congrArg faces heq
  rw [faces_append, faces_kept, faces_append, faces_kept] at hfaces
  refine Telephone.eq_of_covers hchars.symm (hblank b List.getLast?_concat) hx hfaces.symm ?_
    fun c hc => isDecimal_of_isBlank (hright c hc)
  intro c hc
  rw [Option.mem_def.mp hc] at hafter
  exact isDecimal_of_not_isWord hafter

/-- What the rule leaves of a number between blank characters: nothing is masked of a number whose
country code is joined to the area code, and otherwise all digits are. -/
lemma Between.pass_phone (h : Between u t.chars ps) :
    (¬ t.Joined → ∀ i c, t.chars[i]? = some c → isDecimal c →
      Hidden (Dossier.Pii.pass .phone none ps) (u.length + i)) ∧
    (t.Joined → ∀ i < t.chars.length, Shown (Dossier.Pii.pass .phone none ps) (u.length + i)) := by
  obtain ⟨left, right, rfl, rfl, hleft, hright⟩ := h
  have hpasses := passes_pass .phone none (left ++ t.chars.map .kept ++ right)
  generalize Dossier.Pii.pass .phone none (left ++ t.chars.map .kept ++ right) = out at hpasses ⊢
  have hblank : ∀ c ∈ (faces right).head?, isBlank c := faces_head_isBlank hright
  rw [List.append_assoc] at hpasses
  rcases hpasses.append_cases with ⟨left', out, rfl, hchars, hreached⟩ |
    ⟨ps₁, w, x, qs, ps', qs', b, hw, hx, rfl, hqs, hspans, rfl, hchars⟩
  · -- The rule comes to the number.
    rw [← hchars]
    constructor
    · intro hapart i c hi hc
      have hbefore := any_isWord_of_isBlank (behind_faces_isBlank hleft)
      have hafter := any_isWord_of_isBlank hblank
      exact hidden_append.mpr (hreached.hidden_telephone hbefore hafter hapart hi hc)
    · intro hjoined i hi
      obtain ⟨out, rfl, -⟩ := hreached.keeps fun l r hlr hr =>
        hjoined.not_begins hlr hr fun c hc => isDecimal_of_isBlank (hblank c hc)
      exact shown_append.mpr (shown_kept_append.mpr (.inl hi))
  · -- A match covers the beginning of the number.
    have hlast : ∀ c ∈ w.getLast?, isBlank c := by
      intro c hc
      have hmem : Part.kept c ∈ (ps₁ ++ w.map Part.kept).getLast? := by
        rw [List.getLast?_append, List.getLast?_map, Option.mem_def.mp hc]
        rfl
      obtain ⟨d, hd, hblank⟩ := hleft _ hmem
      exact Part.kept.inj hd ▸ hblank
    obtain ⟨hnone, rfl⟩ := eq_of_covers hw hlast hx hqs hblank hspans
    constructor
    · intro _ i c hi _
      obtain ⟨hlt, -⟩ := List.getElem?_eq_some_iff.mp hi
      rw [List.flatMap_append, flatMap_chars_kept, List.length_append, ← hchars, Nat.add_assoc,
        hidden_append]
      have hlength : (Part.masked .phone (w ++ t.chars)).chars.length =
          w.length + t.chars.length := List.length_append
      exact hidden_cons.mpr (.inl ⟨by omega, rfl⟩)
    · rintro ⟨hsome, -, -⟩
      rw [hnone] at hsome
      cases hsome

/-- Redaction masks the digits of a telephone number between blank characters or the ends of a text,
for every combination of its optional parts but one: of a number whose country code is joined to an
area code without parentheses, every character stays. -/
theorem redact_telephone (hu : ∀ c ∈ u.getLast?, isBlank c) (hv : ∀ c ∈ v.head?, isBlank c)
    (t : Telephone) :
    let text := u ++ t.chars ++ v
    (∀ s : Session, (s.redact text).2.Shows (parts text)) ∧
      (parts text).flatMap Part.chars = text ∧
      (¬ t.Joined → contains text ∧ ∀ i c, t.chars[i]? = some c → isDecimal c →
        Hidden (parts text) (u.length + i)) ∧
      (t.Joined → ∀ i < t.chars.length, Shown (parts text) (u.length + i)) := by
  intro text
  have hother : ∀ kind ≠ .phone, (∀ l r rest before, t.chars = l ++ r → r ≠ [] →
      (∀ c ∈ rest.head?, isBlank c) → ¬ kind.pattern.Begins before (r ++ rest)) →
      ∀ ps, Between u t.chars ps → Between u t.chars (pass kind none ps) :=
    fun kind hkind hbegins ps h => h.pass (fun c => reads_of_isBlank hkind) hbegins
  have hemail := hother .email nofun
    (fun l r rest before hlr _ hrest => Telephone.not_begins_email hlr hrest) _ (Between.of_text hu hv)
  have hssn := hother .ssn nofun
    (fun l r rest before hlr _ hrest => Telephone.not_begins_ssn hlr hrest) _ hemail
  obtain ⟨hhidden, hshown⟩ := hssn.pass_phone
  have hhidden : ¬ t.Joined → ∀ i c, t.chars[i]? = some c → isDecimal c →
      Hidden (parts text) (u.length + i) := hhidden
  refine ⟨fun s => s.shows_redact text, flatMap_chars_parts text, fun hapart => ?_, hshown⟩
  refine ⟨?_, hhidden hapart⟩
  by_contra hclean
  obtain ⟨l, c, hconcat, hc⟩ := t.endsInDigit
  have hlast : t.chars[l.length]? = some c := by
    rw [hconcat, List.getElem?_concat_length]
  have hnone := hhidden hapart l.length c hlast hc
  rw [parts_of_clean (Bool.eq_false_iff.mpr hclean), ← List.append_nil (text.map Part.kept),
    hidden_kept_append] at hnone
  cases hnone.2

/-- A number with a country code, in one of the ways in which it can be written. -/
def officeLine (lead first second : Gap) (enclosed : Bool) : Telephone where
  country := some (.ofChars ['1'] (by decide +kernel) (by decide) (by decide))
  lead := lead
  enclosed := enclosed
  area := .ofChars ['4', '1', '5'] (by decide +kernel) (by decide) (by decide)
  first := first
  exchange := .ofChars ['5', '5', '5'] (by decide +kernel) (by decide) (by decide)
  second := second
  line := .ofChars ['0', '1', '0', '0'] (by decide +kernel) (by decide) (by decide)

/-- A number with all its optional parts inside a sentence. -/
theorem redact_telephone_office :
    let space := Gap.single ' ' (by decide +kernel)
    let t := officeLine space space (.single '-' (by decide +kernel)) true
    let u := ['C', 'a', 'l', 'l', ' ']
    let v := [' ', 'n', 'o', 'w', '.']
    (∀ c ∈ u.getLast?, isBlank c) ∧ (∀ c ∈ v.head?, isBlank c) ∧ ¬ t.Joined ∧
      u ++ t.chars ++ v = "Call +1 (415) 555-0100 now.".toList ∧ contains (u ++ t.chars ++ v) ∧
      ∀ i c, t.chars[i]? = some c → isDecimal c →
        Hidden (parts (u ++ t.chars ++ v)) (u.length + i) := by
  intro space t u v
  have hspace : ∀ c ∈ some ' ', isBlank c := by
    rintro c ⟨⟩
    decide +kernel
  have hu : ∀ c ∈ u.getLast?, isBlank c := hspace
  have hv : ∀ c ∈ v.head?, isBlank c := hspace
  have hapart : ¬ t.Joined := by decide +kernel
  obtain ⟨-, -, hmasked, -⟩ := redact_telephone hu hv t
  obtain ⟨hcontains, hhidden⟩ := hmasked hapart
  exact ⟨hu, hv, hapart, by decide +kernel, hcontains, hhidden⟩

/-- The same number without separators and parentheses contains nothing that redaction replaces. -/
theorem redact_misses_joined_telephone :
    let t := officeLine .none .none .none false
    t.chars = "+14155550100".toList ∧ contains t.chars = false ∧
      ∀ s : Session, (s.redact t.chars).2 = ⟨t.chars, 0⟩ := by
  intro t
  have hclean : contains t.chars = false := by decide +kernel
  exact ⟨by decide +kernel, hclean, fun s => s.redact_of_clean hclean⟩

end Dossier.Pii
