import Mathlib.Data.List.SplitBy
import Mathlib.Tactic.Common
import Dossier.Unicode.Word

/-!
# Word characters that a table names

A word of a table is found wherever it stands between blanks, so a character is in a set of code
points if a range that holds it is a word of its table.  Two characters beyond ASCII that fold to
Latin letters are word characters for this reason.  Blank characters are in no range of decimal
digits, so they are no word characters.
-/

namespace Dossier.Unicode

/-! ### Tables -/

/-- Characters without a blank between two blanks are a word of a table. -/
lemma mem_tableWords {text : String} {before word after : List Char} {c d : Char}
    (htext : text.toList = before ++ c :: (word ++ d :: after)) (hword : word ≠ [])
    (hplain : word.any Char.isWhitespace = false) (hc : c.isWhitespace) (hd : d.isWhitespace) :
    word ∈ tableWords text := by
  have hplain : ∀ e ∈ word, e.isWhitespace = false := fun e he =>
    Bool.eq_false_iff.mpr (List.any_eq_false.mp hplain e he)
  unfold tableWords
  rw [htext]
  refine List.mem_filter.mpr ⟨?_, ?_⟩
  · have hsplit : (before ++ c :: (word ++ d :: after)) =
        (before ++ [c]) ++ (word ++ d :: after) := by
      rw [List.append_assoc, List.singleton_append]
    rw [hsplit, List.splitBy_append (l := before ++ [c]), List.splitBy_append (l := word),
      List.splitBy_of_isChain hword]
    · exact List.mem_append_right _ (List.mem_append_left _ (List.mem_singleton_self word))
    · -- All characters of the word are alike.
      refine (List.pairwise_of_forall_mem_list fun x hx y hy => ?_).isChain
      rw [beq_iff_eq, hplain x hx, hplain y hy]
    · intro x hx y hy
      rw [List.head?_cons, Option.mem_some] at hy
      rw [hplain x (List.mem_of_mem_getLast? hx), ← hy, hd]
      rfl
    · intro x hx y hy
      rw [List.getLast?_concat, Option.mem_some] at hx
      rw [List.head?_append_of_ne_nil _ hword] at hy
      rw [← hx, hc, hplain y (List.mem_of_mem_head? hy)]
      rfl
  · rw [Bool.not_eq_true', List.any_eq_false]
    intro e he
    rw [hplain e he]
    exact Bool.false_ne_true

/-- A character is in the set of a table if a range that holds it is a word of the table. -/
lemma CodeRanges.contains_ofText {text : String} {word : List Char} {c : Char}
    (hword : word ∈ tableWords text) (hfirst : (readRange word).1 ≤ c.toNat)
    (hlast : c.toNat ≤ (readRange word).2) : (ofText text).contains c := by
  unfold contains ofText
  rw [List.any_toArray, List.any_eq_true]
  refine ⟨readRange word, List.mem_map_of_mem hword, ?_⟩
  rw [Bool.and_eq_true, decide_eq_true_eq, decide_eq_true_eq]
  exact ⟨hfirst, hlast⟩

/-! ### Word characters -/

/-- Decimal digits are word characters. -/
lemma isWord_of_isDecimal {c : Char} (h : isDecimal c) : isWord c := by
  unfold isWord
  rw [h, Bool.true_or]

/-- Digits of ASCII are decimal digits. -/
lemma isDecimal_of_isDigit {c : Char} (h : c.isDigit) : isDecimal c := by
  have hrange := h
  simp only [Char.isDigit, Bool.and_eq_true, decide_eq_true_eq, ge_iff_le,
    UInt32.le_iff_toNat_le] at hrange
  have hascii : c.toNat < 128 := hrange.2.trans_lt (by decide)
  unfold isDecimal
  rw [if_pos hascii]
  exact h

/-- Letters of ASCII are word characters. -/
lemma isWord_of_isAlpha {c : Char} (h : c.isAlpha) : isWord c := by
  have hrange : 65 ≤ c.toNat ∧ c.toNat ≤ 90 ∨ 97 ≤ c.toNat ∧ c.toNat ≤ 122 := by
    unfold Char.isAlpha Char.isUpper Char.isLower at h
    simp only [Bool.or_eq_true, Bool.and_eq_true, decide_eq_true_eq, ge_iff_le,
      UInt32.le_iff_toNat_le] at h
    exact h
  have hblank : isBlank c = false := by
    unfold isBlank
    simp only [Bool.or_eq_false_iff, Bool.and_eq_false_iff, decide_eq_false_iff_not,
      beq_eq_false_iff_ne]
    omega
  unfold isWord Char.isAlphanum
  rw [if_pos (by omega), h, hblank, Bool.true_or, Bool.true_or, Bool.not_false, Bool.true_and,
    Bool.or_true]

/-- A character beyond ASCII is a word character if it is not blank and the table of word characters
has a range that holds it. -/
lemma isWord_of_mem_tableWords {c : Char} {word : List Char} (hascii : ¬ c.toNat < 128)
    (hblank : isBlank c = false) (hword : word ∈ tableWords wordText)
    (hfirst : (readRange word).1 ≤ c.toNat) (hlast : c.toNat ≤ (readRange word).2) :
    isWord c := by
  unfold isWord
  have hcontains : wordRanges.contains c = true := CodeRanges.contains_ofText hword hfirst hlast
  rw [if_neg hascii, hblank, hcontains, Bool.not_false, Bool.true_and, Bool.or_true]

/-- A word of the table of word characters, by the place at which it stands. -/
lemma mem_tableWords_wordText {word : List Char} {c d : Char} {l : List Char} {k : Nat}
    (hl : wordText.toList = l)
    (hhere : (l.drop k).take (word.length + 2) = c :: (word ++ [d])) (hword : word ≠ [])
    (hplain : word.any Char.isWhitespace = false) (hc : c.isWhitespace) (hd : d.isWhitespace) :
    word ∈ tableWords wordText := by
  have htext : wordText.toList =
      l.take k ++ c :: (word ++ d :: (l.drop k).drop (word.length + 2)) := by
    conv_lhs => rw [hl, ← List.take_append_drop k l, ← List.take_append_drop (word.length + 2)
      (l.drop k), hhere]
    simp
  exact mem_tableWords htext hword hplain hc hd

set_option maxRecDepth 100000 in
/-- Two words of the table of word characters, each between blanks. -/
lemma wordText_places : ∃ l, wordText.toList = l ∧
    (l.drop 21).take 8 = ' ' :: (['f', '8', '-', '2', 'c', '1'] ++ [' ']) ∧
    (l.drop 2437).take 11 = '\n' :: (['2', '1', '2', 'a', '-', '2', '1', '2', 'd'] ++ [' ']) :=
  ⟨_, String.toList_ofList, by decide +kernel, by decide +kernel⟩

/-- The long s is a word character. -/
lemma isWord_longS : isWord '\u017f' := by
  obtain ⟨l, hl, hhere, -⟩ := wordText_places
  have hword : ['f', '8', '-', '2', 'c', '1'] ∈ tableWords wordText :=
    mem_tableWords_wordText hl hhere (by decide) (by decide) (by decide) (by decide)
  exact isWord_of_mem_tableWords (by decide) (by decide) hword (by decide) (by decide)

/-- The Kelvin sign is a word character. -/
lemma isWord_kelvin : isWord '\u212a' := by
  obtain ⟨l, hl, -, hhere⟩ := wordText_places
  have hword : ['2', '1', '2', 'a', '-', '2', '1', '2', 'd'] ∈ tableWords wordText :=
    mem_tableWords_wordText hl hhere (by decide) (by decide) (by decide) (by decide)
  exact isWord_of_mem_tableWords (by decide) (by decide) hword (by decide) (by decide)

/-! ### Blank characters -/

set_option maxRecDepth 100000 in
/-- The ranges of the table of decimal digits lie beside the blank characters beyond ASCII. -/
lemma decimalText_ranges : ∀ range ∈ (tableWords decimalText).map readRange,
    0xa0 < range.1 ∧ (range.2 < 0x1680 ∨ 0x1680 < range.1) ∧
      (range.2 < 0x2000 ∨ 0x3000 < range.1) := by
  obtain ⟨l, hl, hall⟩ : ∃ l, decimalText.toList = l ∧
      ∀ range ∈ ((l.splitBy fun a b => a.isWhitespace == b.isWhitespace).filter fun word =>
        !word.any Char.isWhitespace).map readRange,
        0xa0 < range.1 ∧ (range.2 < 0x1680 ∨ 0x1680 < range.1) ∧
          (range.2 < 0x2000 ∨ 0x3000 < range.1) :=
    ⟨_, String.toList_ofList, by decide +kernel⟩
  unfold tableWords
  rw [hl]
  exact hall

/-- Blank characters are no decimal digits. -/
lemma isDecimal_of_isBlank {c : Char} (h : isBlank c) : isDecimal c = false := by
  unfold isBlank at h
  simp only [Bool.or_eq_true, Bool.and_eq_true, decide_eq_true_eq, beq_iff_eq] at h
  unfold isDecimal
  split
  · rw [← Bool.not_eq_true]
    unfold Char.isDigit
    simp only [Bool.and_eq_true, decide_eq_true_eq, ge_iff_le, UInt32.le_iff_toNat_le]
    intro hdigit
    have hfirst : 48 ≤ c.toNat := hdigit.1
    omega
  · unfold CodeRanges.contains decimalRanges CodeRanges.ofText
    rw [List.any_toArray, List.any_eq_false]
    intro range hrange
    have hbeside := decimalText_ranges range hrange
    rw [Bool.and_eq_true, decide_eq_true_eq, decide_eq_true_eq]
    omega

/-- Blank characters are no word characters. -/
lemma isWord_of_isBlank {c : Char} (h : isBlank c) : isWord c = false := by
  unfold isWord
  rw [isDecimal_of_isBlank h, h]
  rfl

end Dossier.Unicode
