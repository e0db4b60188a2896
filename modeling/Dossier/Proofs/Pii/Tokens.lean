import Dossier.Proofs.Pii.Parts

/-!
# Tokens in a redacted text

A redacted text is its parts written one behind the other, with a token for each that is masked.  No
match begins inside a token, so a rule goes through the text as it goes through the parts, whatever
the numbers of the tokens are (`Session.shows_redact`).
-/

namespace Dossier.Pii

open Unicode

variable {p : Pattern} {kind : Kind} {before before' : Option Char} {ps : List Part}
  {cs v w rest : List Char}

/-- The brackets around a token are alike. -/
lemma alike_brackets : Alike (some ']') (some '[') := by
  have hclose : isWord ']' = false := by decide
  exact hclose.trans isWord_bracket.symm

/-! ### What a token looks like -/

/-- A token is a word in brackets that does not begin with a digit. -/
lemma Session.exists_token (kind : Kind) (n : ℕ) : ∃ c w, token kind n = '[' :: c :: (w ++ [']']) ∧
    isDecimal c = false ∧ ∀ d ∈ c :: w, isWord d := by
  have hdigits : ∀ d ∈ n.repr.toList, isWord d := by
    intro d hd
    rw [Nat.toList_repr] at hd
    have hdigit := Nat.isDigit_of_mem_toDigits (by decide) (by decide) hd
    exact isWord_of_isDecimal (isDecimal_of_isDigit hdigit)
  have hform : token kind n = '[' :: (kind.label.toList ++ ('_' :: n.repr.toList) ++ [']']) := by
    simp [token]
    rfl
  have hlabel : ∃ c l, kind.label.toList = c :: l ∧ isDecimal c = false ∧ (c :: l).all isWord := by
    cases kind with
    | email => exact ⟨'E', ['M', 'A', 'I', 'L'], rfl, by decide, by decide⟩
    | ssn => exact ⟨'S', ['S', 'N'], rfl, by decide, by decide⟩
    | phone => exact ⟨'P', ['H', 'O', 'N', 'E'], rfl, by decide, by decide⟩
  obtain ⟨c, l, hl, hc, hword⟩ := hlabel
  refine ⟨c, l ++ '_' :: n.repr.toList, ?_, hc, ?_⟩
  · rw [hform, hl, List.cons_append, List.cons_append]
  · rw [← List.cons_append]
    exact List.forall_mem_append.mpr
      ⟨List.all_eq_true.mp hword, List.forall_mem_cons.mpr ⟨by decide, hdigits⟩⟩

namespace Pattern.Rule

/-- No match begins at a bracket. -/
lemma not_begins_bracket (hp : p.Rule) {c : Char} (hc : c = '[' ∨ c = ']') :
    ¬ p.Begins before (c :: rest) := by
  rintro ⟨m, after, hcs, hspans⟩
  rcases m with _ | ⟨d, m⟩
  · exact hp.ne_nil hspans rfl
  · obtain ⟨rfl, -⟩ := List.cons.inj hcs
    obtain ⟨hopen, hclose⟩ := hp.bare hspans
    rcases hc with rfl | rfl
    · exact hopen List.mem_cons_self
    · exact hclose List.mem_cons_self

/-- No match begins at a word character behind another one. -/
lemma not_begins_inside (hp : p.Rule) {c : Char} (hbefore : before.any isWord) (hc : isWord c) :
    ¬ p.Begins before (c :: rest) := by
  rintro ⟨m, after, hcs, hspans⟩
  rcases m with _ | ⟨d, m⟩
  · exact hp.ne_nil hspans rfl
  · obtain ⟨rfl, -⟩ := List.cons.inj hcs
    rcases hp.first hspans with hboundary | ⟨hplain, -⟩
    · unfold isBoundary at hboundary
      rw [hbefore, Option.any_some, hc] at hboundary
      cases hboundary
    · rw [hc] at hplain
      cases hplain

/-- No match begins at the first character of a bracketed word that does not begin with a digit. -/
lemma not_begins_word (hp : p.Rule) {c : Char} (hc : isDecimal c = false)
    (hw : ∀ d ∈ c :: w, isWord d) : ¬ p.Begins before (c :: (w ++ ']' :: rest)) := by
  rintro ⟨m, after, hcs, hspans⟩
  rcases m with _ | ⟨d, m⟩
  · exact hp.ne_nil hspans rfl
  · rw [List.cons_append, List.cons.injEq] at hcs
    obtain ⟨rfl, hcs⟩ := hcs
    -- The match ends in front of the bracket.
    have hm : m <+: w := by
      rcases List.prefix_or_prefix_of_prefix ⟨_, hcs.symm⟩ (List.prefix_append w _) with hm | ⟨l, hl⟩
      · exact hm
      · rcases l with _ | ⟨d, l⟩
        · rw [List.append_nil] at hl
          exact hl ▸ List.prefix_rfl
        · rw [← hl, List.append_assoc] at hcs
          have htail := List.append_cancel_left hcs
          obtain ⟨rfl, -⟩ := List.cons.inj htail
          refine absurd ?_ (hp.bare hspans).2
          rw [← hl]
          simp
    have hdigit := hp.digit hspans fun d hd => by
      rcases List.mem_cons.mp hd with rfl | hd
      · exact hw _ List.mem_cons_self
      · exact hw _ (List.mem_cons_of_mem _ (hm.subset hd))
    rw [hc] at hdigit
    cases hdigit

/-- A search passes word characters behind another one. -/
lemma scan_words (hp : p.Rule) (hbefore : before.any isWord) (hw : ∀ d ∈ w, isWord d) :
    p.scan before (w ++ rest) = w.map .plain ++ p.scan (behind before w) rest := by
  induction w generalizing before with
  | nil => rfl
  | cons c w ih =>
    obtain ⟨hc, hw⟩ := List.forall_mem_cons.mp hw
    have hnone : p.matchLength? ⟨before, c :: (w ++ rest)⟩ = none :=
      hp.matchLength?_eq_none_iff.mpr (hp.not_begins_inside hbefore hc)
    have hsome : (some c).any isWord := hc
    rw [List.cons_append, scan_plain hnone, ih hsome hw, behind_cons]
    rfl

/-- A search passes a token. -/
lemma scan_token (hp : p.Rule) (kind : Kind) (n : ℕ) (before : Option Char) (v : List Char) :
    p.scan before (Session.token kind n ++ v) =
      (Session.token kind n).map .plain ++ p.scan (some ']') v := by
  obtain ⟨c, w, htoken, hc, hw⟩ := Session.exists_token kind n
  have hopen : p.matchLength? ⟨before, '[' :: c :: (w ++ ']' :: v)⟩ = none :=
    hp.matchLength?_eq_none_iff.mpr (hp.not_begins_bracket (.inl rfl))
  have hword : p.matchLength? ⟨some '[', c :: (w ++ ']' :: v)⟩ = none :=
    hp.matchLength?_eq_none_iff.mpr (hp.not_begins_word hc hw)
  have hclose : p.matchLength? ⟨behind (some c) w, ']' :: v⟩ = none :=
    hp.matchLength?_eq_none_iff.mpr (hp.not_begins_bracket (.inr rfl))
  obtain ⟨hfirst, hwords⟩ := List.forall_mem_cons.mp hw
  have hbehind : (some c).any isWord := hfirst
  have htext : Session.token kind n ++ v = '[' :: c :: (w ++ ']' :: v) := by
    rw [htoken]
    simp
  rw [htext, scan_plain hopen, scan_plain hword, hp.scan_words hbehind hwords, scan_plain hclose,
    htoken]
  simp

/-- A match does not reach beyond characters that a bracket or nothing follows. -/
lemma not_beyond (hp : p.Rule) (h : ∀ c ∈ rest.head?, c = '[') :
    ¬ p.Beyond cs.length ⟨before, cs ++ rest⟩ := by
  rintro ⟨l, hlength, hsome⟩
  rcases hp.matchLength?_cases before (cs ++ rest) with ⟨hnone, -⟩ | ⟨m, after, hcs, -, hspans, hm⟩
  · rw [hsome] at hnone
    cases hnone
  · rw [hsome, Option.some.injEq] at hm
    obtain ⟨m', hm', hrest⟩ : ∃ m', m = cs ++ m' ∧ rest = m' ++ after := by
      rcases List.append_eq_append_iff.mp hcs with ⟨m', hm', hrest⟩ | ⟨l', hcs', -⟩
      · exact ⟨m', hm', hrest⟩
      · have := congrArg List.length hcs'
        rw [List.length_append] at this
        omega
    rcases m' with _ | ⟨c, m'⟩
    · rw [List.append_nil] at hm'
      rw [hm'] at hm
      omega
    · rw [hrest] at h
      obtain rfl := h c rfl
      exact (hp.bare hspans).1 (hm' ▸ List.mem_append_right _ List.mem_cons_self)

end Pattern.Rule

/-! ### A text that is written from its parts -/

/-- A text shows parts: the characters that are kept, and a token for each part that is masked. -/
inductive Renders : List Part → List Char → Prop
  | nil : Renders [] []
  | kept {ps : List Part} {v : List Char} (c : Char) (h : Renders ps v) :
      Renders (.kept c :: ps) (c :: v)
  | masked {ps : List Part} {v : List Char} (kind : Kind) (value : List Char) (n : ℕ)
      (h : Renders ps v) : Renders (.masked kind value :: ps) (Session.token kind n ++ v)

namespace Renders

variable {m : List Char}

/-- A text shows its own characters. -/
lemma of_kept (text : List Char) : Renders (text.map .kept) text := by
  induction text with
  | nil => exact .nil
  | cons c text ih => exact .kept c ih

/-- Characters that are kept are shown first if they come first. -/
lemma kept_append_iff : Renders (m.map .kept ++ ps) v ↔ ∃ v', v = m ++ v' ∧ Renders ps v' := by
  induction m generalizing v with
  | nil => simp
  | cons c m ih =>
    constructor
    · intro h
      cases h with
      | kept _ h =>
        obtain ⟨v', rfl, hrest⟩ := ih.mp h
        exact ⟨v', rfl, hrest⟩
    · rintro ⟨v', rfl, hrest⟩
      exact .kept c (ih.mpr ⟨v', rfl, hrest⟩)

/-- Parts that are all kept are the text. -/
lemma eq_of_kept {text : List Char} (h : Renders (text.map .kept) v) : v = text := by
  rw [← List.append_nil (text.map Part.kept)] at h
  obtain ⟨v', rfl, hnil⟩ := kept_append_iff.mp h
  cases hnil
  exact List.append_nil text

/-- Parts begin with characters that are kept, and behind them a token is shown or nothing. -/
lemma exists_kept (h : Renders ps v) : ∃ cs ps' v', ps = cs.map .kept ++ ps' ∧ v = cs ++ v' ∧
    (∀ c ∈ (faces ps').head?, c = '[') ∧ ∀ c ∈ v'.head?, c = '[' := by
  induction h with
  | nil => exact ⟨[], [], [], rfl, rfl, by simp, by simp⟩
  | kept c _ ih =>
    obtain ⟨cs, ps', v', rfl, rfl, hfaces, hv⟩ := ih
    exact ⟨c :: cs, ps', v', rfl, rfl, hfaces, hv⟩
  | @masked ps v kind value n _ _ =>
    obtain ⟨c, w, htoken, -⟩ := Session.exists_token kind n
    refine ⟨[], _, _, rfl, rfl, ?_, ?_⟩
    · intro c hc
      exact (Option.mem_some.mp hc).symm
    · rw [htoken]
      intro c hc
      exact (Option.mem_some.mp hc).symm

/-- The preferred match in a text is the one in what a search sees of its parts. -/
lemma matchLength?_eq (h : Renders ps v) (hp : p.Rule) (hbefore : Alike before before') :
    p.matchLength? ⟨before, v⟩ = p.matchLength? ⟨before', faces ps⟩ := by
  obtain ⟨cs, ps', v', rfl, rfl, hfaces, hv⟩ := h.exists_kept
  have hplain : ∀ o : Option Char, (∀ c ∈ o, c = '[') → o.any isWord = false := by
    intro o ho
    rcases o with _ | c
    · rfl
    · rw [ho c rfl]
      exact isWord_bracket
  have halike : Alike v'.head? (faces ps').head? :=
    (hplain _ hv).trans (hplain _ hfaces).symm
  rw [faces_append, faces_kept]
  rcases p.near_or_beyond cs hbefore halike with heq | hbeyond | hbeyond
  · exact heq
  · exact absurd hbeyond (hp.not_beyond hv)
  · exact absurd hbeyond (hp.not_beyond hfaces)

end Renders

/-! ### What a session does to a text -/

namespace Session

/-- Characters that no match covers are written as they are. -/
lemma replace_plain (kind : Kind) (s : Session) (w : List Char) (rest : List Piece) :
    s.replace kind (w.map .plain ++ rest) =
      ((s.replace kind rest).1, w ++ (s.replace kind rest).2.1, (s.replace kind rest).2.2) := by
  induction w with
  | nil => rfl
  | cons c w ih =>
    rw [List.map_cons, List.cons_append, replace, ih]
    rfl

end Session

/-- A redaction shows parts and counts those that are masked. -/
structure Redaction.Shows (r : Redaction) (ps : List Part) : Prop where
  text : Renders ps r.text
  replaced : r.replaced = masks ps

variable {ps' : List Part} {r : Redaction}

/-- The matches that a session replaces in a text are those that the rule masks in its parts. -/
lemma Passes.replace (h : Passes kind before' ps ps') (hv : Renders ps v)
    (hbefore : Alike before before') (s : Session) :
    Renders ps' (s.replace kind (kind.pattern.scan before v)).2.1 ∧
      masks ps' = masks ps + (s.replace kind (kind.pattern.scan before v)).2.2 := by
  induction h generalizing s v before with
  | nil =>
    cases hv
    unfold Pattern.scan Pattern.piecesFrom
    exact ⟨.nil, rfl⟩
  | @keep before' x ps ps' hnone _ ih =>
    have hlength := hv.matchLength?_eq kind.rule hbefore
    rw [hnone] at hlength
    cases hv with
    | @kept _ v c hv =>
      obtain ⟨htext, hcount⟩ := ih hv rfl s
      rw [Pattern.scan_plain hlength]
      refine ⟨.kept c htext, ?_⟩
      exact hcount
    | @masked _ v kind' value n hv =>
      obtain ⟨htext, hcount⟩ := ih hv alike_brackets s
      rw [kind.rule.scan_token, Session.replace_plain]
      refine ⟨.masked kind' value n htext, ?_⟩
      unfold masks at hcount ⊢
      rw [List.countP_cons, List.countP_cons, hcount]
      exact Nat.add_right_comm _ _ _
  | @hide before' m ps ps' hm hsome _ ih =>
    have hlength := hv.matchLength?_eq kind.rule hbefore
    obtain ⟨v, rfl, hrest⟩ := Renders.kept_append_iff.mp hv
    rw [faces_append, faces_kept, hsome] at hlength
    obtain ⟨htext, hcount⟩ := ih hrest (hbefore.behind m) (s.remember kind m)
    rw [Pattern.scan_found hm hlength]
    refine ⟨.masked kind m _ htext, ?_⟩
    rw [masks_kept_append]
    unfold masks at hcount ⊢
    rw [List.countP_cons, hcount]
    rfl

/-- A session redacts the matches of a rule as the rule masks them. -/
lemma Redaction.Shows.redactKind (h : r.Shows ps) (s : Session) (kind : Kind) :
    (s.redactKind r kind).2.Shows (pass kind none ps) := by
  obtain ⟨htext, hcount⟩ := (passes_pass kind none ps).replace h.text rfl s
  refine ⟨htext, ?_⟩
  rw [hcount, ← h.replaced]
  rfl

/-- What a session makes of a text shows the parts of the text, and it counts those that are
masked. -/
theorem Session.shows_redact (s : Session) (text : List Char) :
    (s.redact text).2.Shows (parts text) := by
  have hstart : Redaction.Shows ⟨text, 0⟩ (text.map .kept) :=
    ⟨.of_kept text, (masks_kept text).symm⟩
  exact List.foldl_rel (r := fun (run : Session × Redaction) ps => run.2.Shows ps) hstart
    fun kind _ run _ h => h.redactKind run.1 kind

end Dossier.Pii
