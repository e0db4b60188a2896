import Mathlib.Data.List.TakeWhile
import Dossier.Proofs.Number.Shortest
import Dossier.Text.Words

/-!
# Written numbers are read back

A number that is written without an exponent is read as the number that it was
(`Binary.readsAs_positional`); only what is not a number loses its sign.
-/

namespace Dossier

open Unicode

namespace Decimal

variable {n : ℕ}

/-! ### Digits as characters -/

/-- The decimal digits of a number are digits. -/
lemma isDigit_of_mem_chars {c : Char} (h : c ∈ chars n) : c.isDigit :=
  Nat.isDigit_of_mem_toDigits (by decide) (by decide) h

/-- The digits of a number denote the number. -/
lemma ofChars_chars (n : ℕ) : ofChars 0 (chars n) = n :=
  Nat.ofDigitChars_toDigits (by decide) (by decide)

/-- Zeros behind digits. -/
lemma ofChars_append_zeros (cs : List Char) (count : ℕ) :
    ofChars 0 (cs ++ List.replicate count '0') = ofChars 0 cs * 10 ^ count := by
  have happend := Nat.ofDigitChars_append (b := 10) (l := cs) (m := List.replicate count '0') 0
  rw [Nat.ofDigitChars_replicate_zero, Nat.mul_comm] at happend
  exact happend

/-- Zeros in front of digits. -/
lemma ofChars_zeros_append (count : ℕ) (cs : List Char) :
    ofChars 0 (List.replicate count '0' ++ cs) = ofChars 0 cs := by
  have happend := Nat.ofDigitChars_append (b := 10) (l := List.replicate count '0') (m := cs) 0
  rw [Nat.ofDigitChars_replicate_zero, Nat.mul_zero] at happend
  exact happend

end Decimal

namespace Binary

variable {F : BinaryFormat} {cs : List Char} {x : Decimal}

/-! ### Numbers without an exponent -/

/-- The form of a number that is written without an exponent, with the decimal that it denotes:
digits, and perhaps a point and more digits. -/
inductive Plain : List Char → Decimal → Prop
  | whole {ds : List Char} (hds : ∀ c ∈ ds, c.isDigit) (hne : ds ≠ []) :
      Plain ds ⟨Decimal.ofChars 0 ds, 0⟩
  | pointed {ds es : List Char} (hds : ∀ c ∈ ds, c.isDigit) (hne : ds ≠ [])
      (hes : ∀ c ∈ es, c.isDigit) :
      Plain (ds ++ '.' :: es) ⟨Decimal.ofChars 0 (ds ++ es), -es.length⟩

/-- Digits with a point put in front of the last ones have the plain form. -/
lemma plain_pointed {ds : List Char} (hds : ∀ c ∈ ds, c.isDigit) {after : ℕ}
    (hlength : after < ds.length) :
    Plain (ds.take (ds.length - after) ++ '.' :: ds.drop (ds.length - after))
      ⟨Decimal.ofChars 0 ds, -after⟩ := by
  set cut := ds.length - after with hcut
  have hne : ds.take cut ≠ [] := by
    rw [← List.length_pos_iff, List.length_take]
    omega
  have hform := Plain.pointed (fun c hc => hds c (List.mem_of_mem_take hc)) hne
    fun c hc => hds c (List.mem_of_mem_drop (i := cut) hc)
  have hcount : ((ds.drop cut).length : ℤ) = after := by
    rw [List.length_drop]
    omega
  rwa [List.take_append_drop, hcount] at hform

/-- Digits with a point put among them have the plain form and denote the same number. -/
lemma exists_plain_placePoint (x : Decimal) :
    ∃ y, Plain (placePoint x).toList y ∧ y.value = x.value := by
  have hzeros : ∀ n, ∀ c ∈ List.replicate n '0', c.isDigit := by
    intro n c hc
    rw [(List.mem_replicate.mp hc).2]
    decide
  unfold placePoint
  dsimp only
  split
  · rename_i hexponent
    obtain ⟨e, he⟩ := Int.eq_ofNat_of_zero_le hexponent
    have hne : Decimal.chars x.digits ≠ [] := Nat.toDigits_ne_nil
    rw [String.toList_ofList, he, Int.toNat_natCast]
    refine ⟨_, .whole ?_ (List.append_ne_nil_of_left_ne_nil hne _), ?_⟩
    · intro c hc
      rcases List.mem_append.mp hc with hdigit | hzero
      · exact Decimal.isDigit_of_mem_chars hdigit
      · exact hzeros _ c hzero
    · rw [Decimal.ofChars_append_zeros, Decimal.ofChars_chars]
      unfold Decimal.value
      rw [he, zpow_natCast, zpow_zero, mul_one]
      push_cast
      rfl
  · rename_i hexponent
    set after := (-x.exponent).toNat with hafter
    set padded := List.replicate (after + 1 - (Decimal.chars x.digits).length) '0' ++
      Decimal.chars x.digits with hpadded
    have hdigits : ∀ c ∈ padded, c.isDigit := by
      intro c hc
      rcases List.mem_append.mp hc with hzero | hdigit
      · exact hzeros _ c hzero
      · exact Decimal.isDigit_of_mem_chars hdigit
    have hlength : after < padded.length := by
      rw [hpadded, List.length_append, List.length_replicate]
      omega
    have hexponent' : -(after : ℤ) = x.exponent := by omega
    rw [String.toList_append, String.toList_append, String.toList_ofList, String.toList_ofList,
      String.toList_ofList, List.append_assoc]
    refine ⟨_, plain_pointed hdigits hlength, ?_⟩
    rw [hexponent', hpadded, Decimal.ofChars_zeros_append, Decimal.ofChars_chars]

/-- The digits in front of something that begins with no digit. -/
lemma takeWhile_isDigit {ds rest : List Char} (hds : ∀ c ∈ ds, c.isDigit)
    (hrest : rest.takeWhile Char.isDigit = []) : (ds ++ rest).takeWhile Char.isDigit = ds := by
  rw [List.takeWhile_append_of_pos hds, hrest, List.append_nil]

/-- What stands behind digits. -/
lemma dropWhile_isDigit {ds rest : List Char} (hds : ∀ c ∈ ds, c.isDigit)
    (hrest : rest.dropWhile Char.isDigit = rest) : (ds ++ rest).dropWhile Char.isDigit = rest := by
  rw [List.dropWhile_append_of_pos hds, hrest]

/-- The code of a digit. -/
lemma toNat_of_isDigit {c : Char} (h : c.isDigit) : 48 ≤ c.toNat ∧ c.toNat ≤ 57 := by
  unfold Char.isDigit at h
  rw [Bool.and_eq_true, decide_eq_true_eq, decide_eq_true_eq] at h
  exact h

/-- A digit is the same in lower case. -/
lemma toLower_of_isDigit {c : Char} (h : c.isDigit) : c.toLower = c := by
  have hrange := toNat_of_isDigit h
  unfold Char.toLower
  refine dif_neg fun hupper => ?_
  have hcode : 65 ≤ c.toNat := hupper.1
  omega

/-- The first character of a number in plain form is a digit. -/
lemma Plain.exists_cons (h : Plain cs x) : ∃ c rest, cs = c :: rest ∧ c.isDigit := by
  cases h with
  | whole hds hne =>
    obtain ⟨c, rest, rfl⟩ := List.exists_cons_of_ne_nil hne
    exact ⟨c, rest, rfl, hds c List.mem_cons_self⟩
  | pointed hds hne hes =>
    obtain ⟨c, rest, rfl⟩ := List.exists_cons_of_ne_nil hne
    exact ⟨c, _, rfl, hds c List.mem_cons_self⟩

/-- A number in plain form is not a name. -/
lemma Plain.map_toLower_ne (h : Plain cs x) {name : List Char}
    (hname : name.head?.any (!·.isDigit)) : cs.map Char.toLower ≠ name := by
  obtain ⟨c, rest, rfl, hdigit⟩ := h.exists_cons
  rintro rfl
  rw [List.map_cons, toLower_of_isDigit hdigit, List.head?_cons, Option.any_some, hdigit] at hname
  cases hname

/-- A number in plain form is read as the decimal that it denotes. -/
lemma Plain.parseUnsigned_eq (h : Plain cs x) (neg : Bool) :
    (parseUnsigned neg cs : Option (Binary F)) = some (ofDecimal neg x) := by
  have hinf : cs.map Char.toLower ≠ "inf".toList := h.map_toLower_ne (by decide)
  have hinfinity : cs.map Char.toLower ≠ "infinity".toList := h.map_toLower_ne (by decide)
  have hnan : cs.map Char.toLower ≠ "nan".toList := h.map_toLower_ne (by decide)
  unfold parseUnsigned
  dsimp only
  rw [if_neg (not_or.mpr ⟨hinf, hinfinity⟩), if_neg hnan]
  cases h with
  | whole hds hne =>
    have hwhole : cs.takeWhile Char.isDigit = cs := List.takeWhile_eq_self_iff.mpr hds
    have hrest : cs.dropWhile Char.isDigit = [] := List.dropWhile_eq_nil_iff.mpr hds
    rw [hwhole, hrest]
    simp [hne, parseExponent]
  | @pointed ds es hds hne hes =>
    have hwhole : (ds ++ '.' :: es).takeWhile Char.isDigit = ds := takeWhile_isDigit hds rfl
    have hrest : (ds ++ '.' :: es).dropWhile Char.isDigit = '.' :: es := dropWhile_isDigit hds rfl
    have hfraction : es.takeWhile Char.isDigit = es := List.takeWhile_eq_self_iff.mpr hes
    have hmore : es.dropWhile Char.isDigit = [] := List.dropWhile_eq_nil_iff.mpr hes
    rw [hwhole, hrest]
    simp [hne, hfraction, hmore, parseExponent]

/-- The characters of a number in plain form are digits and points. -/
lemma Plain.isDigit_or_point (h : Plain cs x) : ∀ c ∈ cs, c.isDigit ∨ c = '.' := by
  cases h with
  | whole hds hne => exact fun c hc => .inl (hds c hc)
  | pointed hds hne hes =>
    intro c hc
    rcases List.mem_append.mp hc with hwhole | htail
    · exact .inl (hds c hwhole)
    · rcases List.mem_cons.mp htail with hpoint | hmore
      · exact .inr hpoint
      · exact .inl (hes c hmore)

/-! ### Readable forms -/

/-- A text that is read as a number: not empty, and without commas and blanks. -/
structure ReadsAs (cs : List Char) (x : Binary F) : Prop where
  ne_nil : cs ≠ []
  compact : ∀ c ∈ cs, c ≠ ',' ∧ isBlank c = false
  read : parse cs = .ok x

/-- Characters that are all neither commas nor blanks. -/
lemma compact_of_all {cs : List Char} (h : cs.all fun c => c != ',' && !isBlank c) :
    ∀ c ∈ cs, c ≠ ',' ∧ isBlank c = false := by
  intro c hc
  have hboth := List.all_eq_true.mp h c hc
  rwa [Bool.and_eq_true, bne_iff_ne, Bool.not_eq_true'] at hboth

/-- A digit is neither a comma nor a blank. -/
lemma compact_of_isDigit {c : Char} (h : c.isDigit) : c ≠ ',' ∧ isBlank c = false := by
  have hrange := toNat_of_isDigit h
  refine ⟨?_, ?_⟩
  · rintro rfl
    exact absurd hrange (by decide)
  · unfold isBlank
    simp
    omega

/-- The characters of a number in plain form are neither commas nor blanks. -/
lemma Plain.compact (h : Plain cs x) : ∀ c ∈ cs, c ≠ ',' ∧ isBlank c = false := by
  intro c hc
  rcases h.isDigit_or_point c hc with hdigit | rfl
  · exact compact_of_isDigit hdigit
  · decide

/-- Behind a sign is read what is read for it and does not begin with a sign itself. -/
lemma readsAs_signed {c : Char} {rest : List Char} {y : Binary F} (neg : Bool)
    (hread : parseUnsigned neg (c :: rest) = some y) (hminus : c ≠ '-') (hplus : c ≠ '+')
    (hcompact : ∀ d ∈ c :: rest, d ≠ ',' ∧ isBlank d = false) :
    ReadsAs ((signText neg).toList ++ c :: rest) y := by
  cases neg with
  | false =>
    change ReadsAs (c :: rest) y
    refine ⟨List.cons_ne_nil _ _, hcompact, ?_⟩
    unfold parse
    dsimp only
    rw [if_neg hminus, if_neg hplus, hread]
  | true =>
    change ReadsAs ('-' :: c :: rest) y
    refine ⟨List.cons_ne_nil _ _, ?_, ?_⟩
    · intro d hd
      rcases List.mem_cons.mp hd with rfl | hmem
      · decide
      · exact hcompact d hmem
    · unfold parse
      dsimp only
      rw [if_pos rfl, hread]

/-- A number in plain form is read with its sign. -/
lemma Plain.readsAs (h : Plain cs x) (neg : Bool) :
    ReadsAs (F := F) ((signText neg).toList ++ cs) (ofDecimal neg x) := by
  obtain ⟨c, rest, rfl, hdigit⟩ := h.exists_cons
  refine readsAs_signed neg (h.parseUnsigned_eq neg) ?_ ?_ h.compact
  · rintro rfl
    exact absurd hdigit (by decide)
  · rintro rfl
    exact absurd hdigit (by decide)

/-- The name of an infinity, after its sign. -/
lemma parseUnsigned_inf (neg : Bool) :
    parseUnsigned (F := F) neg ['i', 'n', 'f'] = some (.infinite neg) := by
  unfold parseUnsigned
  exact if_pos (.inl (by decide))

/-- The name of what is not a number. -/
lemma parseUnsigned_nan (neg : Bool) :
    parseUnsigned (F := F) neg ['N', 'a', 'N'] = some (.nan neg) := by
  unfold parseUnsigned
  dsimp only
  rw [if_neg (by decide)]
  exact if_pos (by decide)

/-- A number as it is written: what is not a number has no sign. -/
def written : Binary F → Binary F
  | nan _ => nan false
  | x => x

/-- A number is read as it is written. -/
theorem readsAs_positional (hF : F.Balanced) (x : Binary F) :
    ReadsAs x.positional.toList x.written := by
  cases x with
  | nan s =>
    have hform : (nan s : Binary F).positional.toList = ['N', 'a', 'N'] := by simp [positional]
    rw [hform]
    exact readsAs_signed false (parseUnsigned_nan false) (by decide) (by decide)
      (compact_of_all (by decide))
  | infinite s =>
    unfold positional
    rw [String.toList_append]
    exact readsAs_signed s (parseUnsigned_inf s) (by decide) (by decide)
      (compact_of_all (by decide))
  | finite s r =>
    obtain ⟨y, hplain, hvalue⟩ := exists_plain_placePoint (shortest F r)
    have hrounds := roundsTo_shortest F r
    rw [← hvalue] at hrounds
    have hread : (ofDecimal s y : Binary F) = finite s r := by
      rw [ofDecimal_eq hF hrounds r.isLt]
      exact dif_pos r.isLt
    have hform := hplain.readsAs (F := F) s
    rw [hread] at hform
    unfold positional
    rw [String.toList_append]
    exact hform

end Binary

end Dossier
