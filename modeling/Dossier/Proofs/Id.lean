import Mathlib.Tactic.Common
import Mathlib.Tactic.IntervalCases
import Dossier.Id
import Dossier.Proofs.Number.Rounding

/-!
# Identifiers that are written and read back

An identifier is written in one spelling and read in four.  Whatever spelling was read, the
identifier has 128 bits (`lt_of_parse`), and the text of an identifier of 128 bits is read as that
identifier (`parse_text`).
-/

namespace Dossier.Id

variable {id : Id} {cs : List Char}

/-! ### Hexadecimal digits -/

/-- The digit of a value below sixteen has this value. -/
lemma hexDigit?_digitChar {d : Nat} (h : d < 16) : Json.hexDigit? d.digitChar = some d := by
  interval_cases d <;> rfl

/-- The value of a hexadecimal digit is below sixteen. -/
lemma lt_of_hexDigit? {c : Char} {d : Nat} (h : Json.hexDigit? c = some d) : d < 16 := by
  unfold Json.hexDigit? at h
  split at h
  · rename_i hdigit
    have hle : c.toNat ≤ '9'.toNat := (Char.isDigit_iff_toNat.mp hdigit).2
    cases h
    change c.toNat ≤ 57 at hle
    change c.toNat - 48 < 16
    omega
  · split at h
    · rename_i hsmall
      have hle : c.toNat ≤ 'f'.toNat := hsmall.2
      cases h
      change c.toNat ≤ 102 at hle
      change c.toNat - 97 + 10 < 16
      omega
    · split at h
      · rename_i hcapital
        have hle : c.toNat ≤ 'F'.toNat := hcapital.2
        cases h
        change c.toNat ≤ 70 at hle
        change c.toNat - 65 + 10 < 16
        omega
      · cases h

/-- Digits are read one part after the other. -/
lemma readHex_append (acc : Nat) (cs ds : List Char) :
    readHex acc (cs ++ ds) = (readHex acc cs).bind fun n => readHex n ds := by
  induction cs generalizing acc with
  | nil => rfl
  | cons c cs ih =>
    show ((Json.hexDigit? c).bind fun d => readHex (16 * acc + d) (cs ++ ds)) =
      ((Json.hexDigit? c).bind fun d => readHex (16 * acc + d) cs).bind _
    rw [Option.bind_assoc]
    exact congrArg _ (funext fun d => ih _)

/-- Leading zeros count nothing. -/
lemma readHex_zeros (k : Nat) : readHex 0 (List.replicate k '0') = some 0 := by
  induction k with
  | zero => rfl
  | succ k ih => exact ih

/-- The digits of a number are read as that number. -/
lemma readHex_toDigits (n : Nat) : readHex 0 (Nat.toDigits 16 n) = some n := by
  induction n using Nat.strongRecOn with
  | ind n ih =>
    have hlast : ∀ acc d, d < 16 → readHex acc [d.digitChar] = some (16 * acc + d) := by
      intro acc d hd
      show (Json.hexDigit? d.digitChar).bind _ = _
      rw [hexDigit?_digitChar hd]
      rfl
    rcases Nat.lt_or_ge n 16 with hlt | hge
    · rw [Nat.toDigits_of_lt_base hlt, hlast 0 n hlt, Nat.mul_zero, Nat.zero_add]
    · rw [Nat.toDigits_of_base_le (by decide) hge, readHex_append, ih (n / 16) (by omega),
        Option.bind_some, hlast _ _ (Nat.mod_lt n (by decide)), Nat.div_add_mod]

/-- What is read is below the number behind all that have as many digits. -/
lemma lt_of_readHex {acc n : Nat} (h : readHex acc cs = some n) :
    n < (acc + 1) * 16 ^ cs.length := by
  induction cs generalizing acc with
  | nil =>
    cases h
    simp
  | cons c cs ih =>
    obtain ⟨d, hd, hrest⟩ := Option.bind_eq_some_iff.mp h
    calc n < (16 * acc + d + 1) * 16 ^ cs.length := ih hrest
      _ ≤ (16 * (acc + 1)) * 16 ^ cs.length := by
        have hsmall := lt_of_hexDigit? hd
        exact Nat.mul_le_mul_right _ (by omega)
      _ = (acc + 1) * 16 ^ (c :: cs).length := by
        rw [List.length_cons, pow_succ, Nat.mul_comm 16, Nat.mul_assoc, Nat.mul_comm 16]

/-! ### Identifiers of 128 bits -/

/-- A number has 128 bits if it has 32 digits. -/
lemma pow_digits : 16 ^ 32 = twoTo 128 := by
  rw [twoTo_eq]
  norm_num

/-- Digits that are read give an identifier of 128 bits. -/
lemma lt_of_readPlain (h : readPlain cs = some id) : id.number < twoTo 128 := by
  unfold readPlain at h
  split at h
  · rename_i hlength
    obtain ⟨n, hn, rfl⟩ := Option.map_eq_some_iff.mp h
    have hlt := lt_of_readHex hn
    rwa [hlength, Nat.zero_add, Nat.one_mul, pow_digits] at hlt
  · cases h

/-- Digits with hyphens that are read give an identifier of 128 bits. -/
lemma lt_of_readHyphenated (h : readHyphenated cs = some id) : id.number < twoTo 128 := by
  unfold readHyphenated at h
  split at h
  · exact lt_of_readPlain h
  · cases h

/-- Whatever is read as an identifier has 128 bits. -/
theorem lt_of_parse {s : String} (h : parse s = some id) : id.number < twoTo 128 := by
  unfold parse at h
  dsimp only at h
  split at h
  · exact lt_of_readPlain h
  split at h
  · exact lt_of_readHyphenated h
  split at h
  · exact lt_of_readHyphenated h
  split at h
  · exact lt_of_readHyphenated h
  · cases h

/-! ### The written form -/

/-- An identifier of 128 bits has 32 digits. -/
lemma length_digits (h : id.number < twoTo 128) : id.digits.length = 32 := by
  have hle : (Nat.toDigits 16 id.number).length ≤ 32 := by
    rw [Nat.length_toDigits_le_iff (by decide) (by decide), pow_digits]
    exact h
  unfold digits
  rw [List.length_append, List.length_replicate]
  omega

/-- The digits of an identifier of 128 bits are read as that identifier. -/
lemma readPlain_digits (h : id.number < twoTo 128) : readPlain id.digits = some id := by
  unfold readPlain
  rw [if_pos (length_digits h), digits, readHex_append, readHex_zeros, Option.bind_some,
    readHex_toDigits]
  rfl

/-- Five groups of digits joined by hyphens are read as their digits. -/
lemma readHyphenated_join {a b c d e : List Char} (ha : a.length = 8) (hb : b.length = 4)
    (hc : c.length = 4) (hd : d.length = 4) (he : e.length = 12) :
    readHyphenated (a ++ '-' :: (b ++ '-' :: (c ++ '-' :: (d ++ '-' :: e)))) =
      readPlain (a ++ b ++ c ++ d ++ e) := by
  unfold readHyphenated
  rw [if_pos]
  · simp [List.drop_append, List.drop_of_length_le, ha, hb, hc, hd]
  · simp [ha, hb, hc, hd, he]

/-- Groups that are large enough hold all digits. -/
lemma flatten_groups {sizes : List Nat} (h : cs.length ≤ sizes.sum) :
    (groups sizes cs).flatten = cs := by
  induction sizes generalizing cs with
  | nil => exact (List.length_eq_zero_iff.mp (Nat.le_zero.mp h)).symm
  | cons n sizes ih =>
    rw [List.sum_cons] at h
    rw [groups, List.flatten_cons, ih (by rw [List.length_drop]; omega), List.take_append_drop]

/-- The groups of the digits of an identifier of 128 bits. -/
lemma exists_groups_digits (h : id.number < twoTo 128) : ∃ a b c d e : List Char,
    groups groupSizes id.digits = [a, b, c, d, e] ∧ a.length = 8 ∧ b.length = 4 ∧
      c.length = 4 ∧ d.length = 4 ∧ e.length = 12 ∧ a ++ b ++ c ++ d ++ e = id.digits := by
  have hlength := length_digits h
  have hflat : (groups groupSizes id.digits).flatten = id.digits :=
    flatten_groups (Nat.le_of_eq hlength)
  refine ⟨_, _, _, _, _, rfl, ?_, ?_, ?_, ?_, ?_, ?_⟩
  · simp [hlength]
  · simp [hlength]
  · simp [hlength]
  · simp [hlength]
  · simp [hlength]
  · simpa [groups, groupSizes] using hflat

/-- The text of an identifier of 128 bits is read as that identifier. -/
theorem parse_text (h : id.number < twoTo 128) : parse id.text = some id := by
  obtain ⟨a, b, c, d, e, hgroups, ha, hb, hc, hd, he, hdigits⟩ := exists_groups_digits h
  have htext : id.text.toList = a ++ '-' :: (b ++ '-' :: (c ++ '-' :: (d ++ '-' :: e))) := by
    rw [text, hgroups, String.toList_ofList]
    simp [List.intercalate, List.intersperse]
  have hlength : id.text.toList.length = 36 := by
    rw [htext]
    simp [ha, hb, hc, hd, he]
  unfold parse
  dsimp only
  rw [hlength, if_neg (by decide), if_pos rfl, htext, readHyphenated_join ha hb hc hd he, hdigits]
  exact readPlain_digits h

end Dossier.Id
