import Dossier.Proofs.Pii.Rules

/-!
# Matches in a text

A search walks through a text from left to right: where no match begins it passes a character
(`Pattern.scan_plain`), and where one begins it passes the preferred match as a whole
(`Pattern.scan_found`).  `Pattern.Occurs` is what a search for a single match decides.
-/

namespace Dossier.Pii

namespace Pattern

variable {p : Pattern} {before : Option Char} {c : Char} {m rest cs : List Char} {n : Nat}

/-! ### Matches at a place -/

/-- Some match begins at a place. -/
def Begins (p : Pattern) (before : Option Char) (cs : List Char) : Prop :=
  ∃ m rest, cs = m ++ rest ∧ p.Spans before m rest.head?

/-- A match begins where the pattern has an end. -/
lemma begins_iff : p.Begins before cs ↔ (p.ends ⟨before, cs⟩).head?.isSome := by
  rw [List.isSome_head?]
  constructor
  · rintro ⟨m, rest, hcs, hspans⟩
    exact List.ne_nil_of_mem (a := ⟨behind before m, rest⟩)
      (mem_ends.mpr ⟨m, ⟨hcs, rfl⟩, hspans⟩)
  · intro hsome
    obtain ⟨stop, hstop⟩ := List.exists_mem_of_ne_nil _ hsome
    obtain ⟨m, ⟨hcs, -⟩, hspans⟩ := mem_ends.mp hstop
    exact ⟨m, stop.rest, hcs, hspans⟩

/-- The match of a rule is not empty. -/
lemma Rule.ne_nil (hp : p.Rule) {after : Option Char} (h : p.Spans before m after) : m ≠ [] := by
  obtain ⟨l, c, rfl, -⟩ := hp.last h
  exact List.append_ne_nil_of_right_ne_nil _ (List.cons_ne_nil _ _)

/-- The preferred match at a place, if one begins there. -/
lemma Rule.matchLength?_cases (hp : p.Rule) (before : Option Char) (cs : List Char) :
    (p.matchLength? ⟨before, cs⟩ = none ∧ ¬ p.Begins before cs) ∨
      ∃ m rest, cs = m ++ rest ∧ m ≠ [] ∧ p.Spans before m rest.head? ∧
        p.matchLength? ⟨before, cs⟩ = some m.length := by
  unfold matchLength?
  rcases hhead : (p.ends ⟨before, cs⟩).head? with _ | stop
  · left
    refine ⟨rfl, ?_⟩
    rw [begins_iff, hhead]
    exact Bool.false_ne_true
  · right
    obtain ⟨m, ⟨rfl, -⟩, hspans⟩ := mem_ends.mp (List.mem_of_head? hhead)
    have hne := hp.ne_nil hspans
    have hpos := List.length_pos_iff.mpr hne
    refine ⟨m, stop.rest, rfl, hne, hspans, ?_⟩
    dsimp only
    rw [List.length_append, if_pos (by omega), Nat.add_sub_cancel]

/-- There is no preferred match where none begins, and only there. -/
lemma Rule.matchLength?_eq_none_iff (hp : p.Rule) :
    p.matchLength? ⟨before, cs⟩ = none ↔ ¬ p.Begins before cs := by
  rcases hp.matchLength?_cases before cs with ⟨hnone, hbegins⟩ | ⟨m, rest, hcs, -, hspans, hsome⟩
  · exact iff_of_true hnone hbegins
  · refine iff_of_false ?_ (not_not_intro ⟨m, rest, hcs, hspans⟩)
    rw [hsome]
    exact Option.some_ne_none _

/-- The preferred match is one. -/
lemma Rule.spans_of_matchLength? (hp : p.Rule)
    (h : p.matchLength? ⟨before, m ++ rest⟩ = some m.length) : p.Spans before m rest.head? := by
  rcases hp.matchLength?_cases before (m ++ rest) with ⟨hnone, -⟩ | ⟨m', rest', hcs, -, hspans, hsome⟩
  · rw [h] at hnone
    cases hnone
  · rw [h, Option.some.injEq] at hsome
    obtain ⟨rfl, rfl⟩ := List.append_inj hcs hsome
    exact hspans

/-! ### Occurrences -/

/-- A match begins somewhere in a text. -/
def Occurs (p : Pattern) : Option Char → List Char → Prop
  | before, [] => p.Begins before []
  | before, c :: rest => p.Begins before (c :: rest) ∨ p.Occurs (some c) rest

/-- A search for a single match finds one if there is one. -/
lemma occursFrom_iff : p.occursFrom before cs ↔ p.Occurs before cs := by
  induction cs generalizing before with
  | nil =>
    unfold occursFrom Occurs
    exact begins_iff.symm
  | cons c rest ih =>
    unfold occursFrom Occurs
    rw [Bool.or_eq_true, ih]
    exact or_congr_left begins_iff.symm

/-- A match occurs in a text that begins with another, if it occurs behind that. -/
lemma Occurs.append_left (h : p.Occurs (behind before m) rest) : p.Occurs before (m ++ rest) := by
  induction m generalizing before with
  | nil => exact h
  | cons c m ih =>
    rw [behind_cons] at h
    exact .inr (ih h)

/-! ### Pieces -/

/-- What a search makes of the rest of a text. -/
def scan (p : Pattern) (before : Option Char) (cs : List Char) : List Piece :=
  p.piecesFrom 0 [] before cs

/-- The rest of a match is passed as a whole. -/
lemma piecesFrom_held {held : List Char} (hheld : held ≠ []) (m rest : List Char) :
    p.piecesFrom m.length held before (m ++ rest) =
      .found (held.reverse ++ m) :: p.scan (behind before m) rest := by
  induction m generalizing held before with
  | nil =>
    rw [List.append_nil, List.nil_append, List.length_nil, behind_nil]
    have hsome : held.isEmpty = false := List.isEmpty_eq_false_iff.mpr hheld
    rcases rest with _ | ⟨c, rest⟩
    · unfold scan piecesFrom
      rw [hsome]
      rfl
    · unfold scan
      rw [piecesFrom, piecesFrom, hsome]
      rfl
  | cons c m ih =>
    rw [List.cons_append, List.length_cons, piecesFrom, ih (List.cons_ne_nil c held),
      List.reverse_cons, List.append_assoc, List.singleton_append, behind_cons]

/-- Where no match begins, a search passes a character. -/
lemma scan_plain (h : p.matchLength? ⟨before, c :: rest⟩ = none) :
    p.scan before (c :: rest) = .plain c :: p.scan (some c) rest := by
  unfold scan
  rw [piecesFrom, h]
  rfl

/-- Where a match begins, a search passes it. -/
lemma scan_found (hm : m ≠ []) (h : p.matchLength? ⟨before, m ++ rest⟩ = some m.length) :
    p.scan before (m ++ rest) = .found m :: p.scan (behind before m) rest := by
  rcases m with _ | ⟨c, m⟩
  · exact absurd rfl hm
  · unfold scan
    rw [List.cons_append] at h ⊢
    rw [piecesFrom, h]
    dsimp only
    rw [List.length_cons, Nat.add_sub_cancel, piecesFrom_held (List.cons_ne_nil c []), behind_cons]
    rfl

end Pattern

end Dossier.Pii
