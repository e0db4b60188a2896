import Mathlib.Data.List.Infix
import Mathlib.Tactic.Common
import Dossier.Text.Masking

/-!
# What is kept of an error text

A word that names a credential is cut at its first equals sign, or at its first colon if there is
none (`Text.maskWord_of_names`), and every other word behind the word `bearer` is masked as a whole.
So two things are kept that may belong to a credential: what stands in front of the separator in a
word behind `bearer`, and what stands between a colon behind the name and an equals sign that comes
later.
-/

namespace Dossier.Text

variable {word before key between value cs part : List Char} {ws : List (List Char)}
  {hidden : Bool} {sep : Char} {i : ℕ}

/-! ### Names of credentials -/

/-- A word names a credential: some part of it is such a name in lower case. -/
def Names (word : List Char) : Prop :=
  ∃ before key after, word = before ++ key ++ after ∧ lowerAscii key ∈ credentialNames

/-- A text is looked for at every place of another. -/
lemma containsText_iff : containsText part cs ↔ part <:+: cs := by
  induction cs with
  | nil =>
    unfold containsText
    rw [List.isEmpty_iff, List.infix_nil]
  | cons c cs ih =>
    unfold containsText
    rw [Bool.or_eq_true, ih, List.isPrefixOf_iff_prefix, List.infix_cons_iff]

/-- The names are looked for in the word in lower case. -/
lemma namesCredential_iff : namesCredential word ↔ Names word := by
  unfold namesCredential Names
  rw [List.any_eq_true]
  simp only [containsText_iff]
  constructor
  · rintro ⟨name, hname, s, t, hword⟩
    unfold lowerAscii at hword
    obtain ⟨front, after, rfl, hfront, rfl⟩ := List.map_eq_append_iff.mp hword.symm
    obtain ⟨before, key, rfl, rfl, rfl⟩ := List.map_eq_append_iff.mp hfront
    exact ⟨before, key, after, rfl, hname⟩
  · rintro ⟨before, key, after, rfl, hkey⟩
    refine ⟨lowerAscii key, hkey, lowerAscii before, lowerAscii after, ?_⟩
    unfold lowerAscii
    rw [List.map_append, List.map_append]

/-- No name holds an equals sign. -/
lemma not_mem_of_name (h : lowerAscii key ∈ credentialNames) : '=' ∉ key := by
  have hnames : ∀ name ∈ credentialNames, '=' ∉ name := by decide
  exact fun hmem => hnames _ h (List.mem_map_of_mem (f := Char.toLower) hmem)

/-! ### The separator -/

/-- A word holds a separator. -/
def Separated (word : List Char) : Prop := '=' ∈ word ∨ ':' ∈ word

/-- The separator is an equals sign if there is one. -/
lemma separator?_of_mem (h : '=' ∈ word) : separator? word = some '=' := by
  unfold separator?
  rw [if_pos (List.contains_iff_mem.mpr h)]

/-- The separator is a colon if there is one and no equals sign. -/
lemma separator?_of_not_mem (h : '=' ∉ word) (hcolon : ':' ∈ word) : separator? word = some ':' := by
  unfold separator?
  rw [if_neg (mt List.contains_iff_mem.mp h), if_pos (List.contains_iff_mem.mpr hcolon)]

/-- There is a separator if the word holds one. -/
lemma separator?_eq_none_iff : separator? word = none ↔ ¬ Separated word := by
  unfold separator? Separated
  by_cases hequals : '=' ∈ word
  · simp [hequals]
  · by_cases hcolon : ':' ∈ word
    · simp [hequals, hcolon]
    · simp [hequals, hcolon]

/-- What stands in front of the first of some equal characters, with this character, stands in front
of any of them. -/
lemma takeWhile_isPrefix (before value : List Char) (sep : Char) :
    (before ++ sep :: value).takeWhile (· ≠ sep) ++ [sep] <+: before ++ [sep] := by
  induction before with
  | nil => simp
  | cons c before ih =>
    rw [List.cons_append, List.takeWhile_cons]
    by_cases hc : c = sep
    · subst hc
      simp
    · rw [if_pos (by simpa using hc), List.cons_append, List.cons_append, List.cons_prefix_cons]
      exact ⟨rfl, ih⟩

/-- Characters without the separator stand in front of it. -/
lemma takeWhile_ne_append (h : sep ∉ before) :
    (before ++ cs).takeWhile (· ≠ sep) = before ++ cs.takeWhile (· ≠ sep) := by
  refine List.takeWhile_append_of_pos fun c hc => ?_
  rw [decide_eq_true_eq]
  exact fun heq => h (heq ▸ hc)

/-! ### Words -/

/-- A word of which some value is masked is not masked as a whole. -/
lemma cut_ne_mask (front : List Char) (sep : Char) : front ++ sep :: mask ≠ mask := by
  intro h
  have hlength := congrArg List.length h
  rw [List.length_append, List.length_cons] at hlength
  omega

/-- A word that names a credential is cut at its separator. -/
lemma maskWord_of_names (hnames : Names word) (hsep : separator? word = some sep) :
    maskWord hidden word = word.takeWhile (· ≠ sep) ++ sep :: mask := by
  unfold maskWord
  rw [hsep]
  dsimp only
  rw [if_pos (namesCredential_iff.mpr hnames)]

/-- Any other word is kept or masked as a whole. -/
lemma maskWord_of_not (h : ¬ (Names word ∧ Separated word)) :
    maskWord hidden word = if hidden then mask else word := by
  unfold maskWord
  rcases hsep : separator? word with _ | sep
  · rfl
  · have hnames : ¬ namesCredential word := by
      rw [namesCredential_iff]
      intro hnames
      refine h ⟨hnames, not_not.mp fun hnone => ?_⟩
      rw [separator?_eq_none_iff.mpr hnone] at hsep
      cases hsep
    dsimp only
    rw [if_neg hnames]

/-- A word in which the name of a credential is followed by a separator, the first one behind it. -/
structure Assigns (word before key between : List Char) (sep : Char) (value : List Char) : Prop where
  word_eq : word = before ++ key ++ between ++ sep :: value
  name : lowerAscii key ∈ credentialNames
  separator : sep = '=' ∨ sep = ':'
  first : ¬ Separated between

/-- A colon behind the name of a credential is overlooked: an equals sign comes later, and none
before. -/
def Overlooked (before : List Char) (sep : Char) (value : List Char) : Prop :=
  sep = ':' ∧ '=' ∉ before ∧ '=' ∈ value

/-- What is kept of a word, given whether the word in front of it announces a credential. -/
structure Conceals (hidden : Bool) (word out : List Char) : Prop where
  announced : hidden → (out = mask ↔ ¬ (Names word ∧ Separated word))
  equals : Names word → '=' ∈ word → out = word.takeWhile (· ≠ '=') ++ '=' :: mask
  colon : Names word → '=' ∉ word → ':' ∈ word → out = word.takeWhile (· ≠ ':') ++ ':' :: mask
  value : ∀ before key between sep value, Assigns word before key between sep value →
    ((∃ front, front <+: before ++ key ++ between ++ [sep] ∧ out = front ++ mask) ↔
      ¬ Overlooked before sep value) ∧
    (Overlooked before sep value →
      out = before ++ key ++ between ++ ':' :: value.takeWhile (· ≠ '=') ++ '=' :: mask)
  plain : hidden = false → ¬ (Names word ∧ Separated word) → out = word

namespace Assigns

/-- The word names a credential. -/
lemma names (h : Assigns word before key between sep value) : Names word :=
  ⟨before, key, between ++ sep :: value, by rw [h.word_eq, List.append_assoc], h.name⟩

/-- A colon that is overlooked is kept, and what stands behind it up to the equals sign. -/
lemma maskWord_of_overlooked (h : Assigns word before key between sep value)
    (hover : Overlooked before sep value) : maskWord hidden word =
      before ++ key ++ between ++ ':' :: value.takeWhile (· ≠ '=') ++ '=' :: mask := by
  obtain ⟨rfl, hbefore, hvalue⟩ := hover
  have hfront : '=' ∉ before ++ key ++ between := by
    rw [List.mem_append, List.mem_append, not_or, not_or]
    exact ⟨⟨hbefore, not_mem_of_name h.name⟩, fun hmem => h.first (.inl hmem)⟩
  have hword : '=' ∈ word := by
    rw [h.word_eq]
    exact List.mem_append_right _ (List.mem_cons_of_mem _ hvalue)
  rw [maskWord_of_names h.names (separator?_of_mem hword), h.word_eq, takeWhile_ne_append hfront,
    List.takeWhile_cons_of_pos (by decide)]

/-- Otherwise nothing behind the separator is kept. -/
lemma exists_front_of_not_overlooked (h : Assigns word before key between sep value)
    (hover : ¬ Overlooked before sep value) :
    ∃ front, front <+: before ++ key ++ between ++ [sep] ∧ maskWord hidden word = front ++ mask := by
  have hcut : ∀ sep' front value', word = front ++ sep' :: value' →
      separator? word = some sep' → front ++ [sep'] <+: before ++ key ++ between ++ [sep] →
      ∃ front, front <+: before ++ key ++ between ++ [sep] ∧
        maskWord hidden word = front ++ mask := by
    intro sep' front value' hword hsep hfront
    refine ⟨word.takeWhile (· ≠ sep') ++ [sep'], ?_, ?_⟩
    · rw [hword]
      exact (takeWhile_isPrefix front value' sep').trans hfront
    · rw [maskWord_of_names h.names hsep, List.append_assoc, List.singleton_append]
  have hword := h.word_eq
  by_cases hequals : '=' ∈ word
  · rcases h.separator with rfl | rfl
    · exact hcut '=' _ _ hword (separator?_of_mem hequals) List.prefix_rfl
    · -- The equals sign stands in front of the name.
      have hbefore : '=' ∈ before := by
        by_contra hnone
        rw [hword, List.mem_append, List.mem_append, List.mem_append] at hequals
        rcases hequals with ((hmem | hmem) | hmem) | hmem
        · exact hnone hmem
        · exact not_mem_of_name h.name hmem
        · exact h.first (.inl hmem)
        · rcases List.mem_cons.mp hmem with heq | hmem
          · exact absurd heq (by decide)
          · exact hover ⟨rfl, hnone, hmem⟩
      obtain ⟨front, rest, rfl⟩ := List.append_of_mem hbefore
      refine hcut '=' front (rest ++ key ++ between ++ ':' :: value) ?_
        (separator?_of_mem hequals) ?_
      · rw [hword]
        simp
      · rw [List.append_cons]
        simp
  · -- Without an equals sign the word is cut at its first colon.
    have hsep : sep = ':' := h.separator.resolve_left fun heq => hequals <| by
      rw [hword, heq]
      exact List.mem_append_right _ List.mem_cons_self
    have hcolon : ':' ∈ word := by
      rw [hword, hsep]
      exact List.mem_append_right _ List.mem_cons_self
    subst hsep
    exact hcut ':' _ _ hword (separator?_of_not_mem hequals hcolon) List.prefix_rfl

end Assigns

/-- A word is kept as far as it is not taken for a credential. -/
lemma conceals_maskWord (hidden : Bool) (word : List Char) :
    Conceals hidden word (maskWord hidden word) where
  announced hhidden := by
    constructor
    · rintro hmask ⟨hnames, hsep⟩
      rcases hchosen : separator? word with _ | sep
      · exact separator?_eq_none_iff.mp hchosen hsep
      · rw [maskWord_of_names hnames hchosen] at hmask
        exact cut_ne_mask _ _ hmask
    · intro hnot
      rw [maskWord_of_not hnot, if_pos hhidden]
  equals hnames hequals := maskWord_of_names hnames (separator?_of_mem hequals)
  colon hnames hequals hcolon := maskWord_of_names hnames (separator?_of_not_mem hequals hcolon)
  value before key between sep value h := by
    refine ⟨⟨?_, h.exists_front_of_not_overlooked⟩, h.maskWord_of_overlooked⟩
    rintro ⟨front, hfront, hout⟩ hover
    have hkept := hout.symm.trans (h.maskWord_of_overlooked hover)
    rw [List.append_cons, List.append_cancel_right_eq] at hkept
    have hlength := hfront.length_le
    rw [hkept] at hlength
    simp at hlength
  plain hhidden hnot := by
    rw [maskWord_of_not hnot, hhidden, if_neg Bool.false_ne_true]

/-! ### Texts -/

/-- Does the word at a place stand behind one that announces a credential? -/
def announced (ws : List (List Char)) : ℕ → Bool
  | 0 => false
  | i + 1 => ws[i]?.any announces

/-- Every word is masked by itself, given whether the word in front of it announces a credential. -/
lemma getElem?_maskWords : (maskWords hidden ws)[i]? = ws[i]?.map
    (maskWord (match i with | 0 => hidden | j + 1 => ws[j]?.any announces)) := by
  induction ws generalizing hidden i with
  | nil => rfl
  | cons word ws ih =>
    unfold maskWords
    rcases i with _ | _ | i
    · rfl
    · exact ih
    · exact ih

/-- No word is left out. -/
lemma length_maskWords : (maskWords hidden ws).length = ws.length := by
  induction ws generalizing hidden with
  | nil => rfl
  | cons word ws ih =>
    unfold maskWords
    rw [List.length_cons, List.length_cons, ih]

/-- What is stored of an error text are the first characters of its words, joined by single spaces,
and each of the words is concealed as far as it is taken for a credential. -/
theorem maskCredentials_conceals (s : String) :
    ∃ outs : List (List Char), outs.length = (words s.toList).length ∧
      (maskCredentials s).toList = ([' '].intercalate outs).take 1024 ∧
      (maskCredentials s).length ≤ 1024 ∧
      ∀ i word out, (words s.toList)[i]? = some word → outs[i]? = some out →
        Conceals (announced (words s.toList) i) word out := by
  have htext : (maskCredentials s).toList =
      ([' '].intercalate (maskWords false (words s.toList))).take 1024 := String.toList_ofList
  refine ⟨maskWords false (words s.toList), length_maskWords, htext, ?_, ?_⟩
  · rw [← String.length_toList, htext]
    exact List.length_take_le _ _
  · intro i word out hword hout
    rw [getElem?_maskWords, hword, Option.map_some, Option.some.injEq] at hout
    rw [← hout]
    rcases i with _ | i
    · exact conceals_maskWord _ _
    · exact conceals_maskWord _ _

/-- A colon behind the name of a password is overlooked, and the word behind `bearer` is kept up to
its separator if it names a credential. -/
theorem maskCredentials_uncovers :
    maskCredentials "password:hunter2=x" = "password:hunter2=[REDACTED]" ∧
      maskCredentials "Bearer sk-token-12345=" = "Bearer sk-token-12345=[REDACTED]" := by
  decide +kernel

end Dossier.Text
