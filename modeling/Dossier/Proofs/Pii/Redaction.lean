import Dossier.Proofs.Pii.Tokens

/-!
# What redaction leaves

No rule finds anything in a redacted text.  A rule finds nothing in what it leaves itself, and it
brings forth no match of another rule: a token has no word character at its ends, and a match behind
a word character begins with none, so a match that begins or ends beside a token would have begun or
ended there before (`Passes.occurs`).
-/

namespace Dossier.Pii

open Unicode

variable {p : Pattern} {kind : Kind} {kinds : List Kind} {before before' : Option Char}
  {ps ps' : List Part} {cs v m rest : List Char}

/-! ### Matches and searches -/

namespace Pattern

/-- No match of a rule begins at the end of a text. -/
lemma Rule.not_begins_nil (hp : p.Rule) : ¬ p.Begins before [] := by
  rintro ⟨m, rest, hcs, hspans⟩
  exact hp.ne_nil hspans (List.append_eq_nil_iff.mp hcs.symm).1

/-- A match occurs in a text if a search passes one. -/
lemma Rule.occurs_iff (hp : p.Rule) (before : Option Char) (cs : List Char) :
    p.Occurs before cs ↔ ∃ m, .found m ∈ p.scan before cs := by
  induction hlength : cs.length using Nat.strongRecOn generalizing before cs with
  | ind n ih =>
    rcases hp.matchLength?_cases before cs with ⟨hnone, hbegins⟩ | ⟨m, rest, rfl, hne, hspans, hsome⟩
    · rcases cs with _ | ⟨c, rest⟩
      · unfold Occurs scan piecesFrom
        simp [hbegins]
      · rw [scan_plain hnone]
        unfold Occurs
        have hrest := ih rest.length (by rw [← hlength]; exact Nat.lt_succ_self _) (some c) rest rfl
        simp [hbegins, hrest]
    · rw [scan_found hne hsome]
      refine iff_of_true ?_ ⟨m, List.mem_cons_self⟩
      rcases m with _ | ⟨c, m⟩
      · exact absurd rfl hne
      · exact .inl ⟨c :: m, rest, rfl, hspans⟩

end Pattern

/-- There is a rule for every kind. -/
lemma Kind.mem_all (kind : Kind) : kind ∈ Kind.all := by
  cases kind <;> decide

/-- A text contains personal data if a match of some rule occurs in it. -/
lemma contains_iff : contains cs ↔ ∃ kind : Kind, kind.pattern.Occurs none cs := by
  unfold contains
  rw [List.any_eq_true]
  refine exists_congr fun kind => ?_
  exact (and_iff_right kind.mem_all).trans Pattern.occursFrom_iff

/-- A match occurs in a text if one occurs in what a search sees of its parts. -/
lemma Renders.occurs_iff (h : Renders ps v) (hp : p.Rule) (hbefore : Alike before before') :
    p.Occurs before v ↔ p.Occurs before' (faces ps) := by
  induction h generalizing before before' with
  | nil => exact iff_of_false hp.not_begins_nil hp.not_begins_nil
  | @kept ps v c h ih =>
    have hlength := (Renders.kept c h).matchLength?_eq hp hbefore
    have hbegins : p.Begins before (c :: v) ↔ p.Begins before' (faces (.kept c :: ps)) := by
      rw [← not_iff_not, ← hp.matchLength?_eq_none_iff, ← hp.matchLength?_eq_none_iff, hlength]
    exact or_congr hbegins (ih rfl)
  | @masked ps v kind value n _ ih =>
    have htoken : p.Occurs before (Session.token kind n ++ v) ↔ p.Occurs (some ']') v := by
      rw [hp.occurs_iff, hp.occurs_iff, hp.scan_token]
      simp
    have hface : p.Occurs before' ('[' :: faces ps) ↔ p.Occurs (some '[') (faces ps) :=
      or_iff_right (hp.not_begins_bracket (.inl rfl))
    rw [htoken]
    exact (ih alike_brackets).trans hface.symm

/-! ### One rule -/

namespace Passes

/-- Characters without a bracket that a rule leaves were there before it. -/
lemma exists_of_faces (h : Passes kind before ps ps') (hfaces : faces ps' = m ++ rest)
    (hbare : '[' ∉ m) : ∃ qs qs', ps = m.map .kept ++ qs ∧ faces qs' = rest ∧
      Passes kind (behind before m) qs qs' := by
  induction m generalizing before ps ps' with
  | nil => exact ⟨ps, ps', rfl, hfaces, h⟩
  | cons c m ih =>
    rw [List.mem_cons, not_or] at hbare
    cases h with
    | nil => cases hfaces
    | @keep _ x ps ps' _ hrest =>
      rw [faces_cons, List.cons_append] at hfaces
      obtain ⟨hface, htail⟩ := List.cons.inj hfaces
      rcases x with d | ⟨kind', value⟩
      · obtain rfl : d = c := hface
        obtain ⟨qs, qs', rfl, hqs, hpasses⟩ := ih hrest htail hbare.2
        rw [behind_cons]
        exact ⟨qs, qs', rfl, hqs, hpasses⟩
      · exact absurd hface hbare.1
    | hide _ _ _ =>
      rw [faces_cons, List.cons_append] at hfaces
      exact absurd (List.cons.inj hfaces).1 hbare.1

/-- A match in what a rule leaves was there before, and it is no match of the rule itself.  The
character before a place counts as it is, or as a nonword character if the next one is nonword too:
so it is behind characters that the rule has masked. -/
lemma occurs (h : Passes kind before ps ps') (hp : p.Rule) (hoccurs : p.Occurs before' (faces ps'))
    (hbefore : Alike before' before ∨
      before'.any isWord = false ∧ (faces ps).head?.any isWord = false) :
    p.Occurs before (faces ps) ∧ p ≠ kind.pattern := by
  induction h generalizing before' with
  | nil => exact absurd hoccurs hp.not_begins_nil
  | @keep before x ps ps' hnone hrest ih =>
    rcases hoccurs with ⟨m, rest, hfaces, hspans⟩ | hlater
    · -- The match begins here: the same characters were there before, with an alike neighbour.
      obtain ⟨qs, qs', hps, rfl, hpasses⟩ :=
        (Passes.keep hnone hrest).exists_of_faces hfaces (hp.bare hspans).1
      obtain ⟨l, d, rfl, hd, hafter⟩ := hp.last hspans
      rw [behind_concat] at hpasses
      have hbehind : (faces qs).head?.any isWord = false := hpasses.isWord_head hd hafter
      have hspans : p.Spans before' (l ++ [d]) (faces qs).head? :=
        hspans.congr rfl (hafter.trans hbehind.symm)
      have htext : faces (x :: ps) = (l ++ [d]) ++ faces qs := by
        rw [hps, faces_append, faces_kept]
      have hbegins : p.Begins before (faces (x :: ps)) := by
        refine ⟨l ++ [d], faces qs, htext, ?_⟩
        rcases hbefore with halike | ⟨hplain, hhead⟩
        · exact hspans.congr halike rfl
        · obtain ⟨c, l', hl'⟩ := List.exists_cons_of_ne_nil (hp.ne_nil hspans)
          rw [hl'] at hspans htext ⊢
          rw [htext, List.cons_append, List.head?_cons, Option.any_some] at hhead
          rcases hp.first hspans with hboundary | ⟨-, hany⟩
          · unfold isBoundary at hboundary
            rw [hplain, Option.any_some, hhead] at hboundary
            cases hboundary
          · exact hany before
      refine ⟨.inl hbegins, ?_⟩
      rintro rfl
      exact hp.matchLength?_eq_none_iff.mp hnone hbegins
    · obtain ⟨hbefore, hne⟩ := ih hlater (.inl rfl)
      exact ⟨.inr hbefore, hne⟩
  | @hide before m ps ps' hm hsome _ ih =>
    have hspans := kind.rule.spans_of_matchLength? hsome
    obtain ⟨-, -, -, -, hafter⟩ := kind.rule.last hspans
    rcases hoccurs with hhere | hlater
    · exact absurd hhere (hp.not_begins_bracket (.inl rfl))
    · obtain ⟨hoccurs, hne⟩ := ih hlater (.inr ⟨isWord_bracket, hafter⟩)
      rw [faces_append, faces_kept]
      exact ⟨hoccurs.append_left, hne⟩

/-- A rule masks further characters if it finds a match, and otherwise changes nothing. -/
lemma masks_cases (h : Passes kind before ps ps') :
    (ps' = ps ∧ ¬ kind.pattern.Occurs before (faces ps)) ∨
      (masks ps < masks ps' ∧ kind.pattern.Occurs before (faces ps)) := by
  induction h with
  | nil => exact .inl ⟨rfl, kind.rule.not_begins_nil⟩
  | @keep before x ps ps' hnone _ ih =>
    rcases ih with ⟨rfl, hoccurs⟩ | ⟨hmasks, hoccurs⟩
    · exact .inl ⟨rfl, not_or.mpr ⟨kind.rule.matchLength?_eq_none_iff.mp hnone, hoccurs⟩⟩
    · refine .inr ⟨?_, .inr hoccurs⟩
      unfold masks at hmasks ⊢
      rw [List.countP_cons, List.countP_cons]
      omega
  | @hide before m ps ps' hm hsome _ ih =>
    have hle : masks ps ≤ masks ps' := by
      rcases ih with ⟨rfl, -⟩ | ⟨hmasks, -⟩
      · exact le_rfl
      · exact hmasks.le
    right
    constructor
    · rw [masks_kept_append]
      unfold masks at hle ⊢
      rw [List.countP_cons]
      exact Nat.lt_succ_of_le hle
    · obtain ⟨c, m, rfl⟩ := List.exists_cons_of_ne_nil hm
      rw [faces_append, faces_kept]
      exact .inl ⟨c :: m, faces ps, rfl, kind.rule.spans_of_matchLength? hsome⟩

end Passes

/-! ### All rules -/

/-- A rule that has run, or that finds nothing, finds nothing once others have run. -/
lemma not_occurs_passAll (hp : p.Rule)
    (h : (∃ kind ∈ kinds, p = kind.pattern) ∨ ¬ p.Occurs none (faces ps)) :
    ¬ p.Occurs none (faces (passAll kinds ps)) := by
  induction kinds generalizing ps with
  | nil => exact h.resolve_left (by simp)
  | cons kind kinds ih =>
    have hpass := passes_pass kind none ps
    apply ih
    by_cases hlater : ∃ kind ∈ kinds, p = kind.pattern
    · exact .inl hlater
    · right
      intro hoccurs
      obtain ⟨hbefore, hne⟩ := hpass.occurs hp hoccurs (.inl rfl)
      rcases h with ⟨other, hother, rfl⟩ | hnone
      · rcases List.mem_cons.mp hother with rfl | hother
        · exact hne rfl
        · exact hlater ⟨other, hother, rfl⟩
      · exact hnone hbefore

/-- Rules mask further characters if one of them finds a match, and otherwise change nothing. -/
lemma passAll_cases (kinds : List Kind) (ps : List Part) :
    (passAll kinds ps = ps ∧ ∀ kind ∈ kinds, ¬ kind.pattern.Occurs none (faces ps)) ∨
      (masks ps < masks (passAll kinds ps) ∧ ∃ kind ∈ kinds, kind.pattern.Occurs none (faces ps)) := by
  induction kinds generalizing ps with
  | nil => exact .inl ⟨rfl, by simp⟩
  | cons kind kinds ih =>
    have hrest : passAll (kind :: kinds) ps = passAll kinds (pass kind none ps) := rfl
    rw [hrest]
    rcases (passes_pass kind none ps).masks_cases with ⟨hsame, hnone⟩ | ⟨hmasks, hoccurs⟩
    · rw [hsame]
      refine (ih ps).imp (And.imp_right fun hall => ?_) (And.imp_right fun hsome => ?_)
      · exact List.forall_mem_cons.mpr ⟨hnone, hall⟩
      · obtain ⟨other, hother, hoccurs⟩ := hsome
        exact ⟨other, List.mem_cons_of_mem _ hother, hoccurs⟩
    · right
      refine ⟨?_, kind, List.mem_cons_self, hoccurs⟩
      rcases ih (pass kind none ps) with ⟨hsame, -⟩ | ⟨hmore, -⟩
      · rw [hsame]
        exact hmasks
      · exact hmasks.trans hmore

/-! ### Redaction -/

/-- Nothing happens to a text without personal data. -/
lemma parts_of_clean (h : contains cs = false) : parts cs = cs.map .kept := by
  rcases passAll_cases Kind.all (cs.map .kept) with ⟨hsame, -⟩ | ⟨-, kind, -, hoccurs⟩
  · exact hsame
  · rw [faces_kept] at hoccurs
    rw [contains_iff.mpr ⟨kind, hoccurs⟩] at h
    cases h

namespace Session

/-- A session leaves a text without personal data as it is. -/
lemma redact_of_clean (s : Session) (h : contains cs = false) : (s.redact cs).2 = ⟨cs, 0⟩ := by
  obtain ⟨htext, hreplaced⟩ := s.shows_redact cs
  rw [parts_of_clean h] at htext hreplaced
  rcases hr : (s.redact cs).2 with ⟨text, replaced⟩
  rw [hr] at htext hreplaced
  have htext : text = cs := htext.eq_of_kept
  have hreplaced : replaced = 0 := hreplaced.trans (masks_kept cs)
  rw [htext, hreplaced]

/-- A session replaces something in a text with personal data. -/
lemma touched_of_contains (s : Session) (h : contains cs) : (s.redact cs).2.touched := by
  obtain ⟨kind, hoccurs⟩ := contains_iff.mp h
  unfold Redaction.touched
  rw [decide_eq_true_eq, (s.shows_redact cs).replaced]
  rcases passAll_cases Kind.all (cs.map .kept) with ⟨-, hnone⟩ | ⟨hmasks, -⟩
  · have hall : kind ∈ Kind.all := by cases kind <;> decide
    rw [faces_kept] at hnone
    exact absurd hoccurs (hnone kind hall)
  · exact Nat.zero_lt_of_lt hmasks

/-- No rule finds anything in what a session makes of a text. -/
lemma contains_redact (s : Session) (text : List Char) :
    contains (s.redact text).2.text = false := by
  rw [← Bool.not_eq_true, contains_iff]
  rintro ⟨kind, hoccurs⟩
  rw [(s.shows_redact text).text.occurs_iff kind.rule rfl] at hoccurs
  exact not_occurs_passAll kind.rule (.inl ⟨kind, kind.mem_all, rfl⟩) hoccurs

end Session

/-- Redaction leaves nothing that a rule can find, whatever the session has seen.  So a redacted
text is not changed again by any session; something is replaced in a text if, and only if, it
contains personal data; and otherwise the text stays as it is. -/
theorem redact_leaves_nothing (s : Session) (text : List Char) :
    let r := (s.redact text).2
    contains r.text = false ∧ (∀ s' : Session, (s'.redact r.text).2 = ⟨r.text, 0⟩) ∧
      (r.touched ↔ contains text) ∧ (r.touched = false → r.text = text) := by
  intro r
  have hclean : contains r.text = false := s.contains_redact text
  have huntouched : contains text = false → r = ⟨text, 0⟩ := s.redact_of_clean
  have htouched : r.touched ↔ contains text := by
    refine ⟨fun h => ?_, s.touched_of_contains⟩
    by_contra hnone
    rw [huntouched (Bool.eq_false_iff.mpr hnone)] at h
    cases h
  refine ⟨hclean, fun s' => s'.redact_of_clean hclean, htouched, fun h => ?_⟩
  rw [Bool.eq_false_iff, ne_eq, htouched] at h
  rw [huntouched (Bool.eq_false_iff.mpr h)]

end Dossier.Pii
