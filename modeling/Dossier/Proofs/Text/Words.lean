import Mathlib.Data.List.Basic
import Mathlib.Tactic.Common
import Dossier.Text.Words

/-!
# Words and the places where they stand

The words of a text are its pieces between blanks (`Text.words_eq_pieces`), and each of them stands
where its token says.  `Text.Laid` is the relation between a text and its tokens that carries the
proofs: the text is a run of blanks, or blanks, a word and a text that goes on with a blank.  A text
can be taken apart around any of its tokens, and so around any tokens that follow each other
(`Laid.exists_window`).
-/

namespace Dossier.Text

open Unicode

variable {c : Char} {xs ys gap cs : List Char}

/-! ### Bytes -/

/-- One more character takes its own bytes. -/
@[simp] lemma byteLength_cons (c : Char) (cs : List Char) :
    byteLength (c :: cs) = c.utf8Size + byteLength cs := rfl

/-- The bytes of a text and of one behind it add up. -/
lemma byteLength_append (xs ys : List Char) :
    byteLength (xs ++ ys) = byteLength xs + byteLength ys := by
  induction xs with
  | nil => simp [byteLength]
  | cons c rest ih => rw [List.cons_append, byteLength_cons, byteLength_cons, ih, Nat.add_assoc]

/-- The bytes of a text do not depend on its order. -/
lemma byteLength_reverse (cs : List Char) : byteLength cs.reverse = byteLength cs := by
  induction cs with
  | nil => rfl
  | cons c rest ih =>
    rw [List.reverse_cons, byteLength_append, ih, byteLength_cons, byteLength_cons, Nat.add_comm]
    rfl

/-- A text that has characters has bytes. -/
lemma byteLength_pos (h : cs ≠ []) : 0 < byteLength cs := by
  obtain ⟨c, rest, rfl⟩ := List.exists_cons_of_ne_nil h
  have hsize := c.utf8Size_pos
  rw [byteLength_cons]
  omega

/-- Behind the bytes of the first part of a text comes the second. -/
lemma dropBytes_append (xs ys : List Char) : dropBytes (byteLength xs) (xs ++ ys) = ys := by
  induction xs with
  | nil => cases ys <;> rfl
  | cons c rest ih =>
    have hsize := c.utf8Size_pos
    have hne : ¬ c.utf8Size + byteLength rest = 0 := by omega
    rw [List.cons_append, byteLength_cons]
    unfold dropBytes
    rw [if_neg hne, Nat.add_sub_cancel_left, ih]

/-- The bytes of the first part of a text are that part. -/
lemma takeBytes_append (xs ys : List Char) : takeBytes (byteLength xs) (xs ++ ys) = xs := by
  induction xs with
  | nil => cases ys <;> rfl
  | cons c rest ih =>
    have hsize := c.utf8Size_pos
    have hne : ¬ c.utf8Size + byteLength rest = 0 := by omega
    rw [List.cons_append, byteLength_cons]
    unfold takeBytes
    rw [if_neg hne, Nat.add_sub_cancel_left, ih]

/-- The slice of a text between two character boundaries is what stands there. -/
lemma slice_append (before text after : List Char) :
    slice (byteLength before) (byteLength before + byteLength text) (before ++ text ++ after) =
      text := by
  unfold slice
  rw [List.append_assoc, dropBytes_append, Nat.add_sub_cancel_left, takeBytes_append]

/-! ### Pieces between blanks -/

/-- The pieces of a text between blanks; between two neighbouring blanks there is none. -/
def pieces (cs : List Char) : List (List Char) := (cs.splitOnP isBlank).filter (· ≠ [])

/-- Characters without a blank that make up a word. -/
structure IsWord (word : List Char) : Prop where
  nonempty : word ≠ []
  plain : ∀ c ∈ word, isBlank c = false

/-- A text without characters has no pieces. -/
@[simp] lemma pieces_nil : pieces [] = [] := by simp [pieces, List.splitOnP_nil]

/-- A text has the pieces in front of a blank and those behind it. -/
lemma pieces_append_cons (hc : isBlank c = true) (xs ys : List Char) :
    pieces (xs ++ c :: ys) = pieces xs ++ pieces ys := by
  unfold pieces
  rw [List.splitOnP_append_cons xs ys hc, List.filter_append]

/-- A blank in front of a text is no part of a piece. -/
lemma pieces_cons (hc : isBlank c = true) (cs : List Char) : pieces (c :: cs) = pieces cs := by
  have h := pieces_append_cons hc [] cs
  rwa [pieces_nil] at h

/-- Blanks in front of a text are no part of a piece. -/
lemma pieces_blanks_append (hgap : ∀ c ∈ gap, isBlank c = true) (cs : List Char) :
    pieces (gap ++ cs) = pieces cs := by
  induction gap with
  | nil => rfl
  | cons c rest ih =>
    have hrest : ∀ d ∈ rest, isBlank d = true := fun d hd => hgap d (List.mem_cons_of_mem c hd)
    rw [List.cons_append, pieces_cons (hgap c List.mem_cons_self), ih hrest]

/-- Two texts of which the second begins with a blank have their own pieces. -/
lemma pieces_append_of_head (h : ∀ c ∈ ys.head?, isBlank c = true) :
    pieces (xs ++ ys) = pieces xs ++ pieces ys := by
  cases ys with
  | nil => simp
  | cons c rest =>
    have hc : isBlank c = true := h c rfl
    rw [pieces_append_cons hc, pieces_cons hc]

/-- Two texts of which the first ends in a blank have their own pieces. -/
lemma pieces_append_of_last (h : ∀ c ∈ xs.getLast?, isBlank c = true) :
    pieces (xs ++ ys) = pieces xs ++ pieces ys := by
  rcases List.eq_nil_or_concat xs with rfl | ⟨front, c, rfl⟩
  · simp
  · have hc : isBlank c = true := h c (by simp)
    have hfront : pieces (front ++ [c]) = pieces front := by
      rw [pieces_append_cons hc, pieces_nil, List.append_nil]
    rw [List.concat_eq_append, hfront, List.append_assoc, List.singleton_append,
      pieces_append_cons hc]

/-- A word is its own piece. -/
lemma IsWord.pieces_eq {word : List Char} (h : IsWord word) : pieces word = [word] := by
  unfold pieces
  rw [List.splitOnP_eq_singleton h.plain]
  simp [h.nonempty]

/-- A word begins with one of its characters. -/
lemma IsWord.head_append {word : List Char} (h : IsWord word) (cs : List Char) :
    ∀ c ∈ (word ++ cs).head?, isBlank c = false := by
  intro c hc
  rw [List.head?_append_of_ne_nil _ h.nonempty] at hc
  exact h.plain c (List.mem_of_mem_head? hc)

/-- A word ends with one of its characters. -/
lemma IsWord.getLast_append {word : List Char} (h : IsWord word) (cs : List Char) :
    ∀ c ∈ (cs ++ word).getLast?, isBlank c = false := by
  intro c hc
  rw [List.getLast?_append_of_ne_nil _ h.nonempty] at hc
  exact h.plain c (List.mem_of_mem_getLast? hc)

/-! ### Texts and their tokens -/

/-- A text that begins at a byte offset has some tokens: it is a run of blanks, or it begins with
blanks and the first token, and what is left of it begins with a blank, if anything is left, and has
the other tokens.  The scanner is `Text.tokensFrom`; this is what is proved about it. -/
inductive Laid : Nat → List Char → List Token → Prop
  | blanks {offset : Nat} {gap : List Char} (hgap : ∀ c ∈ gap, isBlank c = true) :
      Laid offset gap []
  | word {offset : Nat} {cs : List Char} (gap : List Char) {rest : List Char} {t : Token}
      {ts : List Token}
      (htext : cs = gap ++ (t.chars ++ rest)) (hgap : ∀ c ∈ gap, isBlank c = true)
      (hstart : t.start = offset + byteLength gap) (hword : IsWord t.chars)
      (hrest : ∀ c ∈ rest.head?, isBlank c = true) (h : Laid t.stop rest ts) :
      Laid offset cs (t :: ts)

namespace Laid

variable {offset : Nat} {ts us window : List Token} {t : Token}

/-- A blank in front of a text adds no token. -/
lemma cons_blank (hc : isBlank c = true) (h : Laid (offset + c.utf8Size) cs ts) :
    Laid offset (c :: cs) ts := by
  cases h with
  | blanks hgap => exact .blanks (List.forall_mem_cons.mpr ⟨hc, hgap⟩)
  | @word _ _ gap rest t ts htext hgap hstart hword hrest h =>
    refine .word (c :: gap) ?_ (List.forall_mem_cons.mpr ⟨hc, hgap⟩) ?_ hword hrest h
    · rw [htext, List.cons_append]
    · rw [hstart, byteLength_cons, Nat.add_assoc]

/-- A word that has begun is the first token when the text ends or goes on with a blank. -/
lemma cons_word {word rest : List Char} (hne : word ≠ []) (hplain : ∀ c ∈ word, isBlank c = false)
    (hle : byteLength word ≤ offset) (hrest : ∀ c ∈ rest.head?, isBlank c = true)
    (h : Laid offset rest ts) : Laid (offset - byteLength word) (word.reverse ++ rest)
      (⟨offset - byteLength word, word.reverse⟩ :: ts) := by
  have hword : IsWord word.reverse :=
    ⟨fun hnil => hne (List.reverse_eq_nil_iff.mp hnil),
      fun c hc => hplain c (List.mem_reverse.mp hc)⟩
  have hstop : Token.stop ⟨offset - byteLength word, word.reverse⟩ = offset := by
    unfold Token.stop
    rw [byteLength_reverse, Nat.sub_add_cancel hle]
  refine .word [] rfl (by simp) rfl hword hrest ?_
  rwa [hstop]

/-- What the scanner finds is what the text has; the word that has begun belongs to the text. -/
lemma of_tokensFrom (cs : List Char) : ∀ (word : List Char) (offset : Nat),
    (∀ c ∈ word, isBlank c = false) → byteLength word ≤ offset →
      Laid (offset - byteLength word) (word.reverse ++ cs) (tokensFrom offset word cs) := by
  induction cs with
  | nil =>
    intro word offset hplain hle
    unfold tokensFrom
    by_cases hnil : word = []
    · subst hnil
      exact .blanks (by simp)
    · rw [if_neg (by simpa using hnil)]
      exact cons_word hnil hplain hle (by simp) (.blanks (by simp))
  | cons c rest ih =>
    intro word offset hplain hle
    unfold tokensFrom
    by_cases hc : isBlank c = true
    · have hmore : Laid offset (c :: rest) (tokensFrom (offset + c.utf8Size) [] rest) :=
        cons_blank hc (ih [] (offset + c.utf8Size) (by simp) (Nat.zero_le _))
      rw [if_pos hc]
      by_cases hnil : word = []
      · subst hnil
        exact hmore
      · rw [if_neg (by simpa using hnil)]
        exact cons_word hnil hplain hle (by simpa using hc) hmore
    · rw [if_neg hc]
      have hlonger := ih (c :: word) (offset + c.utf8Size)
        (List.forall_mem_cons.mpr ⟨Bool.eq_false_iff.mpr hc, hplain⟩)
        (by rw [byteLength_cons]; omega)
      have hoffset : offset + c.utf8Size - byteLength (c :: word) = offset - byteLength word := by
        rw [byteLength_cons]
        omega
      rw [hoffset, List.reverse_cons, List.append_assoc, List.singleton_append] at hlonger
      exact hlonger

/-- A text has its tokens. -/
theorem of_tokens (cs : List Char) : Laid 0 cs (tokens cs) :=
  of_tokensFrom cs [] 0 (by simp) (Nat.le_refl 0)

/-- The tokens of a text are its pieces between blanks. -/
lemma pieces_eq (h : Laid offset cs ts) : pieces cs = ts.map Token.chars := by
  induction h with
  | @blanks offset gap hgap =>
    have hnone := pieces_blanks_append hgap []
    rwa [List.append_nil, pieces_nil] at hnone
  | word gap htext hgap hstart hword hrest h ih =>
    rw [htext, pieces_blanks_append hgap, pieces_append_of_head hrest, hword.pieces_eq, ih]
    rfl

/-- No token of a text begins in front of it. -/
lemma le_start (h : Laid offset cs ts) : ∀ t ∈ ts, offset ≤ t.start := by
  induction h with
  | blanks hgap => simp
  | @word offset cs gap rest t ts htext hgap hstart hword hrest h ih =>
    intro u hu
    rcases List.mem_cons.mp hu with rfl | hlater
    · omega
    · have hstop := ih u hlater
      unfold Token.stop at hstop
      omega

/-- The tokens of a text are words. -/
lemma isWord (h : Laid offset cs ts) : ∀ t ∈ ts, IsWord t.chars := by
  induction h with
  | blanks hgap => simp
  | word gap htext hgap hstart hword hrest h ih => exact List.forall_mem_cons.mpr ⟨hword, ih⟩

/-- The tokens of a text begin and end one after the other. -/
theorem ascending (h : Laid offset cs ts) :
    ts.Pairwise fun t u => t.start < u.start ∧ t.stop < u.stop := by
  have hwords := h.isWord
  induction h with
  | blanks hgap => exact .nil
  | @word offset cs gap rest t ts htext hgap hstart hword hrest h ih =>
    obtain ⟨ht, hts⟩ := List.forall_mem_cons.mp hwords
    refine List.pairwise_cons.mpr ⟨fun u hu => ?_, ih hts⟩
    have hbehind := h.le_start u hu
    have hlong := byteLength_pos ht.nonempty
    have hlong' := byteLength_pos (hts u hu).nonempty
    unfold Token.stop at hbehind ⊢
    omega

/-! ### Taking a text apart -/

/-- A text is what stands in front of one of its tokens, the token, and what stands behind it. -/
lemma exists_around (h : Laid offset cs (ts ++ t :: us)) : ∃ front back,
    cs = front ++ (t.chars ++ back) ∧ t.start = offset + byteLength front ∧ IsWord t.chars ∧
      Laid offset front ts ∧ Laid t.stop back us ∧
      (∀ c ∈ front.getLast?, isBlank c = true) ∧ ∀ c ∈ back.head?, isBlank c = true := by
  induction ts generalizing offset cs with
  | nil =>
    cases h with
    | @word _ _ gap rest _ _ htext hgap hstart hword hrest h =>
      refine ⟨gap, rest, htext, hstart, hword, .blanks hgap, h, ?_, hrest⟩
      exact fun c hc => hgap c (List.mem_of_mem_getLast? hc)
  | cons s ts ih =>
    cases h with
    | @word _ _ gap rest _ _ htext hgap hstart hword hrest h =>
      obtain ⟨front, back, rfl, hplace, hlast, hfront, hback, hend, hbegin⟩ := ih h
      -- the front cannot be empty, for behind a token comes a blank
      have hne : front ≠ [] := by
        rintro rfl
        obtain ⟨c, more, hchars⟩ := List.exists_cons_of_ne_nil hlast.nonempty
        have hblank : isBlank c = true := hrest c (by rw [hchars]; rfl)
        have hplain : isBlank c = false := hlast.plain c (by simp [hchars])
        rw [hblank] at hplain
        cases hplain
      refine ⟨gap ++ (s.chars ++ front), back, ?_, ?_, hlast, ?_, hback, ?_, hbegin⟩
      · rw [htext]
        simp only [List.append_assoc]
      · rw [hplace, byteLength_append, byteLength_append, Token.stop, hstart]
        omega
      · refine .word _ rfl hgap hstart hword (fun c hc => hrest c ?_) hfront
        rwa [List.head?_append_of_ne_nil _ hne]
      · rw [← List.append_assoc, List.getLast?_append_of_ne_nil _ hne]
        exact hend

/-- A text can be taken apart around tokens that follow each other: in front of them and behind them
stand the other words, and what stands between begins and ends with a word. -/
theorem exists_window (h : Laid offset cs (ts ++ (window ++ us))) (hwindow : window ≠ []) :
    ∃ before text after, cs = before ++ text ++ after ∧
      window.head?.map Token.start = some (offset + byteLength before) ∧
      window.getLast?.map Token.stop = some (offset + byteLength before + byteLength text) ∧
      pieces before = ts.map Token.chars ∧ pieces text = window.map Token.chars ∧
      pieces after = us.map Token.chars ∧ (∀ c ∈ text.head?, isBlank c = false) ∧
      ∀ c ∈ text.getLast?, isBlank c = false := by
  obtain ⟨first, later, hcons⟩ := List.exists_cons_of_ne_nil hwindow
  obtain ⟨earlier, last, hconcat⟩ : ∃ earlier last, window = earlier ++ [last] :=
    ⟨_, _, (List.dropLast_append_getLast hwindow).symm⟩
  have hhead : window.head? = some first := by rw [hcons]; rfl
  have hlast : window.getLast? = some last := by rw [hconcat]; simp
  rw [hcons, List.cons_append] at h
  obtain ⟨before, back, rfl, hbegin, hfirst, hbefore, hback, -, hnext⟩ := h.exists_around
  -- the text from the first token on, taken apart around the last
  have hfrom : Laid first.start (first.chars ++ back) (earlier ++ last :: us) := by
    have hall : earlier ++ last :: us = first :: (later ++ us) := by
      rw [← List.cons_append, ← hcons, hconcat, List.append_assoc, List.singleton_append]
    rw [hall]
    exact .word [] rfl (by simp) rfl hfirst hnext hback
  obtain ⟨front, after, htext, hplace, hfinal, hfront, hafter, hend, -⟩ := hfrom.exists_around
  refine ⟨before, front ++ last.chars, after, ?_, ?_, ?_, hbefore.pieces_eq, ?_, hafter.pieces_eq,
    ?_, hfinal.getLast_append front⟩
  · rw [htext]
    simp only [List.append_assoc]
  · rw [hhead, Option.map_some, hbegin]
  · rw [hlast, Option.map_some, Token.stop, hplace, hbegin, byteLength_append]
    simp only [Nat.add_assoc]
  · rw [pieces_append_of_last hend, hfront.pieces_eq, hfinal.pieces_eq, hconcat, List.map_append]
    rfl
  · intro c hc
    have hne : front ++ last.chars ≠ [] := by simp [hfinal.nonempty]
    have hsame : (first.chars ++ back).head? = (front ++ last.chars).head? := by
      rw [htext, ← List.append_assoc, List.head?_append_of_ne_nil _ hne]
    rw [← hsame] at hc
    exact hfirst.head_append back c hc

end Laid

/-- The words of a text are its pieces between blanks. -/
theorem words_eq_pieces (cs : List Char) : words cs = pieces cs :=
  (Laid.of_tokens cs).pieces_eq.symm

end Dossier.Text
