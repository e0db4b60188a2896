import Dossier.Pii.Redaction
import Dossier.Proofs.Pii.Near

/-!
# The parts of a text

What redaction does to a text, apart from the numbers in its tokens: the text has parts, each of
which is kept or masked, and every rule masks further characters that have been kept so far.  A
search goes through parts as it goes through the redacted text if it sees a single bracket in place
of a token, because no match holds a bracket and the first character of a token is one.
-/

namespace Dossier.Pii

open Unicode

/-- A part of a text: a character that is kept, or some characters that are masked. -/
inductive Part where
  | kept (c : Char)
  | masked (kind : Kind) (value : List Char)
deriving DecidableEq

namespace Part

/-- The characters of a part. -/
def chars : Part → List Char
  | kept c => [c]
  | masked _ value => value

/-- What a search sees of a part. -/
def face : Part → Char
  | kept c => c
  | masked _ _ => '['

/-- Is a part masked? -/
def isMasked : Part → Bool
  | kept _ => false
  | masked _ _ => true

end Part

/-- What a search sees of parts. -/
def faces (ps : List Part) : List Char := ps.map Part.face

/-- The parts once the matches among the pieces of what a search sees of them are masked. -/
def mask (kind : Kind) : List Piece → List Part → List Part
  | .plain _ :: rest, part :: ps => part :: mask kind rest ps
  | .found value :: rest, ps => .masked kind value :: mask kind rest (ps.drop value.length)
  | _, _ => []

/-- The parts behind a character once the matches of one rule are masked. -/
def pass (kind : Kind) (before : Option Char) (ps : List Part) : List Part :=
  mask kind (kind.pattern.scan before (faces ps)) ps

/-- The parts once the matches of some rules are masked, one rule after the other. -/
def passAll (kinds : List Kind) (ps : List Part) : List Part :=
  kinds.foldl (fun ps kind => pass kind none ps) ps

/-- The parts of a text once all personal data is masked. -/
def parts (text : List Char) : List Part := passAll Kind.all (text.map .kept)

/-- How many parts are masked. -/
def masks (ps : List Part) : ℕ := ps.countP Part.isMasked

/-- What a search sees of a part that is masked is no word character. -/
lemma isWord_bracket : isWord '[' = false := by decide

section

variable {ps ps' : List Part} {x : Part} {m rest : List Char}

@[simp] lemma faces_nil : faces [] = [] := rfl

@[simp] lemma faces_cons : faces (x :: ps) = x.face :: faces ps := rfl

@[simp] lemma faces_append : faces (ps ++ ps') = faces ps ++ faces ps' := List.map_append

@[simp] lemma faces_kept : faces (m.map .kept) = m := by
  unfold faces
  rw [List.map_map]
  exact List.map_id m

@[simp] lemma flatMap_chars_kept : (m.map Part.kept).flatMap Part.chars = m := by
  rw [List.flatMap_map]
  exact List.flatMap_singleton' m

lemma masks_kept (m : List Char) : masks (m.map .kept) = 0 := by
  unfold masks
  rw [List.countP_map]
  exact List.countP_eq_zero.mpr fun c _ => Bool.false_ne_true

lemma masks_kept_append : masks (m.map .kept ++ ps) = masks ps := by
  have hkept := masks_kept m
  unfold masks at hkept ⊢
  rw [List.countP_append, hkept, Nat.zero_add]

/-- Characters without a bracket are those of parts that are kept. -/
lemma eq_kept_of_faces (h : faces ps = m ++ rest) (hbare : '[' ∉ m) :
    ∃ ps', ps = m.map .kept ++ ps' ∧ faces ps' = rest := by
  induction m generalizing ps with
  | nil => exact ⟨ps, rfl, h⟩
  | cons c m ih =>
    rw [List.mem_cons, not_or] at hbare
    rcases ps with _ | ⟨x, ps⟩
    · cases h
    · rw [faces_cons, List.cons_append] at h
      obtain ⟨hface, hfaces⟩ := List.cons.inj h
      obtain ⟨ps', rfl, hrest⟩ := ih hfaces hbare.2
      rcases x with d | ⟨kind, value⟩
      · obtain rfl : d = c := hface
        exact ⟨ps', rfl, hrest⟩
      · exact absurd hface hbare.1

/-- Parts that begin with others and with characters that are kept, the others being fewer. -/
lemma eq_kept_of_append {common : List Part} (h : common ++ ps = m.map .kept ++ ps')
    (hlength : common.length ≤ m.length) :
    ∃ cs m', common = cs.map .kept ∧ m = cs ++ m' ∧ ps = m'.map .kept ++ ps' := by
  rw [← List.take_append_drop common.length m, List.map_append, List.append_assoc] at h
  have htake : common.length = ((m.take common.length).map Part.kept).length := by
    rw [List.length_map, List.length_take_of_le hlength]
  obtain ⟨hcommon, hps⟩ := List.append_inj h htake
  exact ⟨_, _, hcommon, (List.take_append_drop _ _).symm, hps⟩

/-- Parts that begin with others and with characters that are kept, the characters being fewer. -/
lemma eq_kept_append_of_append {common : List Part} (h : common ++ ps = m.map .kept ++ ps')
    (hlength : m.length < common.length) :
    ∃ more, common = m.map .kept ++ more ∧ ps' = more ++ ps := by
  rcases List.append_eq_append_iff.mp h with ⟨l, hkept, -⟩ | ⟨more, hcommon, hps'⟩
  · have hsame := congrArg List.length hkept
    rw [List.length_map, List.length_append] at hsame
    omega
  · exact ⟨more, hcommon, hps'⟩

end

/-! ### A pass -/

section

variable {kind : Kind} {before : Option Char} {ps ps' : List Part} {x : Part} {m : List Char}

/-- A pass over no parts. -/
@[simp] lemma pass_nil : pass kind before [] = [] := by
  unfold pass Pattern.scan
  rw [faces_nil]
  unfold Pattern.piecesFrom
  rfl

/-- Where no match begins, a pass keeps a part as it is. -/
lemma pass_keep (h : kind.pattern.matchLength? ⟨before, faces (x :: ps)⟩ = none) :
    pass kind before (x :: ps) = x :: pass kind (some x.face) ps := by
  unfold pass
  rw [faces_cons] at h ⊢
  rw [Pattern.scan_plain h, mask]

/-- Where a match begins, a pass masks it. -/
lemma pass_hide (hm : m ≠ [])
    (h : kind.pattern.matchLength? ⟨before, m ++ faces ps⟩ = some m.length) :
    pass kind before (m.map .kept ++ ps) = .masked kind m :: pass kind (behind before m) ps := by
  unfold pass
  rw [faces_append, faces_kept, Pattern.scan_found hm h, mask]
  congr 2
  exact List.drop_left' (List.length_map _)

/-- How the rule of a kind goes through parts. -/
inductive Passes (kind : Kind) : Option Char → List Part → List Part → Prop
  | nil {before : Option Char} : Passes kind before [] []
  | keep {before : Option Char} {x : Part} {ps ps' : List Part}
      (h : kind.pattern.matchLength? ⟨before, faces (x :: ps)⟩ = none)
      (rest : Passes kind (some x.face) ps ps') : Passes kind before (x :: ps) (x :: ps')
  | hide {before : Option Char} {m : List Char} {ps ps' : List Part} (hm : m ≠ [])
      (h : kind.pattern.matchLength? ⟨before, m ++ faces ps⟩ = some m.length)
      (rest : Passes kind (behind before m) ps ps') :
      Passes kind before (m.map .kept ++ ps) (.masked kind m :: ps')

/-- A part stays as it is, or a match begins there of characters that are kept so far. -/
lemma matchLength?_faces (kind : Kind) (before : Option Char) (ps : List Part) :
    kind.pattern.matchLength? ⟨before, faces ps⟩ = none ∨ ∃ m ps', ps = m.map .kept ++ ps' ∧
      m ≠ [] ∧ kind.pattern.matchLength? ⟨before, m ++ faces ps'⟩ = some m.length := by
  rcases kind.rule.matchLength?_cases before (faces ps) with ⟨hnone, -⟩ | ⟨m, rest, h, hm, hspans, hsome⟩
  · exact .inl hnone
  · obtain ⟨ps', rfl, rfl⟩ := eq_kept_of_faces h (kind.rule.bare hspans).1
    rw [h] at hsome
    exact .inr ⟨m, ps', rfl, hm, hsome⟩

/-- A pass goes through parts as the rule does. -/
theorem passes_pass (kind : Kind) (before : Option Char) (ps : List Part) :
    Passes kind before ps (pass kind before ps) := by
  induction hlength : ps.length using Nat.strongRecOn generalizing before ps with
  | ind n ih =>
    rcases matchLength?_faces kind before ps with hnone | ⟨m, rest, rfl, hm, hsome⟩
    · rcases ps with _ | ⟨x, rest⟩
      · rw [pass_nil]
        exact .nil
      · rw [pass_keep hnone]
        exact .keep hnone (ih rest.length (by rw [← hlength]; exact Nat.lt_succ_self _) _ rest rfl)
    · have hpos := List.length_pos_iff.mpr hm
      rw [List.length_append, List.length_map] at hlength
      rw [pass_hide hm hsome]
      exact .hide hm hsome (ih rest.length (by omega) _ rest rfl)

/-- A rule leaves no parts where there are none. -/
lemma Passes.eq_nil (h : Passes kind before ps ps') (hps : ps = []) : ps' = [] := by
  cases h with
  | nil => rfl
  | keep _ _ => cases hps
  | hide hm _ _ => exact absurd (List.map_eq_nil_iff.mp (List.append_eq_nil_iff.mp hps).1) hm

/-- A rule masks characters of the text and changes nothing else in it. -/
lemma Passes.flatMap_chars (h : Passes kind before ps ps') :
    ps'.flatMap Part.chars = ps.flatMap Part.chars := by
  induction h with
  | nil => rfl
  | keep _ _ ih => rw [List.flatMap_cons, List.flatMap_cons, ih]
  | hide _ _ _ ih =>
    rw [List.flatMap_cons, List.flatMap_append, ih, flatMap_chars_kept]
    rfl

/-- The parts of a text make up the text. -/
theorem flatMap_chars_parts (text : List Char) : (parts text).flatMap Part.chars = text := by
  have hkinds : ∀ (kinds : List Kind) (ps : List Part),
      (passAll kinds ps).flatMap Part.chars = ps.flatMap Part.chars := by
    intro kinds
    induction kinds with
    | nil => exact fun ps => rfl
    | cons kind kinds ih => exact fun ps => (ih _).trans (passes_pass kind none ps).flatMap_chars
  exact (hkinds Kind.all _).trans flatMap_chars_kept

/-- Behind a word character a rule brings forth no other neighbour that is none: a match that begins
there begins with such a character. -/
lemma Passes.isWord_head (h : Passes kind before ps ps') (hbefore : before.any isWord)
    (hhead : (faces ps').head?.any isWord = false) : (faces ps).head?.any isWord = false := by
  cases h with
  | nil => exact hhead
  | keep _ _ => exact hhead
  | @hide _ m ps ps' hm hsome _ =>
    rcases m with _ | ⟨c, m⟩
    · exact absurd rfl hm
    · rw [faces_append, faces_kept, List.cons_append, List.head?_cons, Option.any_some]
      rcases kind.rule.first (kind.rule.spans_of_matchLength? hsome) with hboundary | ⟨hword, -⟩
      · unfold isBoundary at hboundary
        rw [hbefore, Option.any_some, bne_iff_ne] at hboundary
        exact Bool.eq_false_iff.mpr (Ne.symm hboundary)
      · exact hword

/-- A rule leaves a neighbour that is no word character as one that is none. -/
lemma Passes.plain_head (h : Passes kind before ps ps')
    (hhead : (faces ps).head?.any isWord = false) : (faces ps').head?.any isWord = false := by
  cases h with
  | nil => exact hhead
  | keep _ _ => exact hhead
  | hide _ _ _ => exact isWord_bracket

end

end Dossier.Pii
