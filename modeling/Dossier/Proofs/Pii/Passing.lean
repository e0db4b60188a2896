import Dossier.Proofs.Pii.Parts

/-!
# How a rule comes to a place

A rule goes through parts from left to right, so it comes to a place between two of them unless a
match covers the place (`Passes.append_cases`).  No match covers a character that the pattern cannot
read: what stands between two such characters keeps its place while the rule masks what it finds
elsewhere (`Between.pass`).
-/

namespace Dossier.Pii

open Unicode

variable {kind : Kind} {before : Option Char} {ps ps' qs qs' out : List Part}
  {u m rest : List Char} {b : Char}

namespace Passes

/-- A rule comes to a place between parts, or it masks a match that covers the place. -/
lemma append_cases (h : Passes kind before (ps ++ qs) out) :
    (∃ ps' qs', out = ps' ++ qs' ∧ ps'.flatMap Part.chars = ps.flatMap Part.chars ∧
      Passes kind (behind before (faces ps)) qs qs') ∨
    ∃ ps₁ w x qs₁ ps' qs' b, w ≠ [] ∧ x ≠ [] ∧ ps = ps₁ ++ w.map .kept ∧
      qs = x.map .kept ++ qs₁ ∧ kind.pattern.Spans b (w ++ x) (faces qs₁).head? ∧
      out = ps' ++ .masked kind (w ++ x) :: qs' ∧
      ps'.flatMap Part.chars = ps₁.flatMap Part.chars := by
  generalize htotal : ps ++ qs = total at h
  induction h generalizing ps with
  | nil =>
    obtain ⟨rfl, rfl⟩ := List.append_eq_nil_iff.mp htotal
    exact .inl ⟨[], [], rfl, rfl, .nil⟩
  | @keep before x total out hnone hrest ih =>
    rcases ps with _ | ⟨y, ps⟩
    · rw [List.nil_append] at htotal
      subst htotal
      exact .inl ⟨[], _, rfl, rfl, .keep hnone hrest⟩
    · obtain ⟨rfl, htail⟩ := List.cons.inj htotal
      rcases ih htail with ⟨ps', qs', rfl, hchars, hreached⟩ |
        ⟨ps₁, w, x, qs₁, ps', qs', b, hw, hx, rfl, hqs, hspans, rfl, hchars⟩
      · refine .inl ⟨y :: ps', qs', rfl, ?_, ?_⟩
        · rw [List.flatMap_cons, List.flatMap_cons, hchars]
        · rw [faces_cons, behind_cons]
          exact hreached
      · refine .inr ⟨y :: ps₁, w, x, qs₁, y :: ps', qs', b, hw, hx, rfl, hqs, hspans, rfl, ?_⟩
        rw [List.flatMap_cons, List.flatMap_cons, hchars]
  | @hide before m total out hm hsome hrest ih =>
    rcases ps with _ | ⟨y, ps⟩
    · rw [List.nil_append] at htotal
      subst htotal
      exact .inl ⟨[], _, rfl, rfl, .hide hm hsome hrest⟩
    by_cases hlength : m.length < (y :: ps).length
    · obtain ⟨more, hps, rfl⟩ := eq_kept_append_of_append htotal hlength
      rw [hps]
      rcases ih rfl with ⟨ps', qs', rfl, hchars, hreached⟩ |
        ⟨ps₁, w, x, qs₁, ps', qs', b, hw, hx, rfl, hqs, hspans, rfl, hchars⟩
      · refine .inl ⟨.masked kind m :: ps', qs', rfl, ?_, ?_⟩
        · rw [List.flatMap_cons, List.flatMap_append, hchars, flatMap_chars_kept]
          rfl
        · rw [faces_append, faces_kept, behind_append]
          exact hreached
      · refine .inr ⟨m.map .kept ++ ps₁, w, x, qs₁, .masked kind m :: ps', qs', b, hw, hx,
          (List.append_assoc _ _ _).symm, hqs, hspans, rfl, ?_⟩
        rw [List.flatMap_cons, List.flatMap_append, hchars, flatMap_chars_kept]
        rfl
    · -- The match begins with the first part, and it ends at the place or behind it.
      obtain ⟨w, x, hps, rfl, rfl⟩ := eq_kept_of_append htotal (Nat.le_of_not_lt hlength)
      have hw : w ≠ [] := by
        rintro rfl
        cases hps
      rw [hps]
      by_cases hx : x = []
      · subst hx
        rw [List.append_nil] at hrest
        refine .inl ⟨[.masked kind w], out, ?_, ?_, ?_⟩
        · rw [List.append_nil]
          rfl
        · rw [flatMap_chars_kept]
          exact List.append_nil w
        · rw [faces_kept]
          exact hrest
      · exact .inr ⟨[], w, x, total, [], out, before, hw, hx, rfl, rfl,
          kind.rule.spans_of_matchLength? hsome, rfl, rfl⟩

/-- A rule keeps a character that its pattern cannot read. -/
lemma keeps_head (h : Passes kind before (.kept b :: qs) out) (hb : kind.pattern.reads b = false) :
    ∃ qs', out = .kept b :: qs' ∧ Passes kind (some b) qs qs' := by
  generalize htotal : Part.kept b :: qs = total at h
  cases h with
  | nil => cases htotal
  | keep _ hrest =>
    cases htotal
    exact ⟨_, rfl, hrest⟩
  | @hide _ m total out hm hsome _ =>
    obtain ⟨c, m, rfl⟩ := List.exists_cons_of_ne_nil hm
    obtain ⟨hc, -⟩ := List.cons.inj htotal
    have hreads := (kind.rule.spans_of_matchLength? hsome).reads_of_mem List.mem_cons_self
    rw [← Part.kept.inj hc, hb] at hreads
    cases hreads

/-- A rule comes to a character that its pattern cannot read, and keeps it. -/
lemma reaches (h : Passes kind before (ps ++ .kept b :: qs) out)
    (hb : kind.pattern.reads b = false) : ∃ ps' qs', out = ps' ++ .kept b :: qs' ∧
      ps'.flatMap Part.chars = ps.flatMap Part.chars ∧ Passes kind (some b) qs qs' := by
  rcases h.append_cases with ⟨ps', out, rfl, hchars, hreached⟩ |
    ⟨_, w, x, qs₁, _, _, _, -, hx, -, hqs, hspans, -⟩
  · obtain ⟨qs', rfl, hpasses⟩ := hreached.keeps_head hb
    exact ⟨ps', qs', rfl, hchars, hpasses⟩
  · obtain ⟨c, x, rfl⟩ := List.exists_cons_of_ne_nil hx
    obtain ⟨hc, -⟩ := List.cons.inj hqs
    have hreads := hspans.reads_of_mem (List.mem_append_right w List.mem_cons_self)
    rw [← Part.kept.inj hc, hb] at hreads
    cases hreads

/-- A rule keeps characters at which no match begins. -/
lemma keeps (h : Passes kind before (m.map .kept ++ qs) out)
    (hm : ∀ l r, m = l ++ r → r ≠ [] →
      ¬ kind.pattern.Begins (behind before l) (r ++ faces qs)) :
    ∃ qs', out = m.map .kept ++ qs' ∧ Passes kind (behind before m) qs qs' := by
  induction m generalizing before out with
  | nil => exact ⟨out, rfl, h⟩
  | cons c m ih =>
    have hnone := hm [] (c :: m) rfl (List.cons_ne_nil c m)
    rw [← kind.rule.matchLength?_eq_none_iff] at hnone
    rw [List.map_cons, List.cons_append] at h
    generalize htotal : Part.kept c :: (m.map Part.kept ++ qs) = total at h
    cases h with
    | nil => cases htotal
    | keep _ hrest =>
      cases htotal
      obtain ⟨qs', rfl, hpasses⟩ := ih hrest fun l r hlr hr => by
        have hthere := hm (c :: l) r (congrArg (c :: ·) hlr) hr
        rwa [behind_cons] at hthere
      rw [behind_cons]
      exact ⟨qs', rfl, hpasses⟩
    | @hide _ m' total out _ hsome _ =>
      have hfaces := congrArg faces htotal
      rw [faces_cons, faces_append, faces_kept, faces_append, faces_kept] at hfaces
      rw [← hfaces] at hsome
      have hboth : none = some m'.length := hnone.symm.trans hsome
      cases hboth

/-- A rule masks characters if they are the preferred match. -/
lemma hides (h : Passes kind before (m.map .kept ++ qs) out)
    (hm : m ≠ []) (hsome : kind.pattern.matchLength? ⟨before, m ++ faces qs⟩ = some m.length) :
    ∃ qs', out = .masked kind m :: qs' := by
  generalize htotal : m.map Part.kept ++ qs = total at h
  have hfaces := congrArg faces htotal
  rw [faces_append, faces_kept] at hfaces
  cases h with
  | nil =>
    obtain ⟨hnil, -⟩ := List.append_eq_nil_iff.mp hfaces
    exact absurd hnil hm
  | keep hnone _ =>
    rw [← hfaces, hsome] at hnone
    cases hnone
  | @hide _ m' total out _ hsome' _ =>
    rw [faces_append, faces_kept] at hfaces
    rw [← hfaces, hsome, Option.some.injEq] at hsome'
    obtain ⟨rfl, -⟩ := List.append_inj hfaces hsome'
    exact ⟨out, rfl⟩

end Passes

/-! ### Between blank characters -/

/-- A part that is a blank character. -/
def Part.IsBlank (x : Part) : Prop := ∃ c, x = .kept c ∧ Unicode.isBlank c

/-- What a search sees of a blank character is blank. -/
lemma faces_head_isBlank (h : ∀ x ∈ ps.head?, x.IsBlank) :
    ∀ c ∈ (faces ps).head?, Unicode.isBlank c := by
  intro c hc
  unfold faces at hc
  rw [List.head?_map] at hc
  obtain ⟨x, hx, rfl⟩ := Option.map_eq_some_iff.mp hc
  obtain ⟨d, rfl, hd⟩ := h x hx
  exact hd

lemma behind_faces_isBlank (h : ∀ x ∈ ps.getLast?, x.IsBlank) :
    ∀ c ∈ behind none (faces ps), Unicode.isBlank c := by
  intro c hc
  unfold behind faces at hc
  rw [Option.or_none, List.getLast?_map] at hc
  obtain ⟨x, hx, rfl⟩ := Option.map_eq_some_iff.mp hc
  obtain ⟨d, rfl, hd⟩ := h x hx
  exact hd

/-- A neighbour that is blank if there is one is no word character. -/
lemma any_isWord_of_isBlank {neighbour : Option Char}
    (h : ∀ c ∈ neighbour, Unicode.isBlank c) : neighbour.any isWord = false := by
  rcases neighbour with _ | c
  · rfl
  · exact isWord_of_isBlank (h c rfl)

/-- Some characters of a text have been kept so far, behind others and between blank characters or
the ends of the text. -/
def Between (u m : List Char) (ps : List Part) : Prop :=
  ∃ left right, ps = left ++ m.map .kept ++ right ∧ left.flatMap Part.chars = u ∧
    (∀ x ∈ left.getLast?, x.IsBlank) ∧ ∀ x ∈ right.head?, x.IsBlank

/-- What stands in a text between blank characters. -/
lemma Between.of_text {v : List Char} (hu : ∀ c ∈ u.getLast?, Unicode.isBlank c)
    (hv : ∀ c ∈ v.head?, Unicode.isBlank c) : Between u m ((u ++ m ++ v).map .kept) := by
  refine ⟨u.map .kept, v.map .kept, ?_, flatMap_chars_kept, ?_, ?_⟩
  · rw [List.map_append, List.map_append]
  · intro x hx
    rw [List.getLast?_map] at hx
    obtain ⟨c, hc, rfl⟩ := Option.map_eq_some_iff.mp hx
    exact ⟨c, rfl, hu c hc⟩
  · intro x hx
    rw [List.head?_map] at hx
    obtain ⟨c, hc, rfl⟩ := Option.map_eq_some_iff.mp hx
    exact ⟨c, rfl, hv c hc⟩

/-- A rule whose pattern reads no blank character keeps characters at which no match begins before
the next blank one. -/
lemma Between.pass (h : Between u m ps) (hblank : ∀ c, Unicode.isBlank c → kind.pattern.reads c = false)
    (hm : ∀ l r rest before, m = l ++ r → r ≠ [] → (∀ c ∈ rest.head?, Unicode.isBlank c) →
      ¬ kind.pattern.Begins before (r ++ rest)) :
    Between u m (Dossier.Pii.pass kind none ps) := by
  obtain ⟨left, right, rfl, rfl, hleft, hright⟩ := h
  have hpasses := passes_pass kind none (left ++ m.map .kept ++ right)
  generalize Dossier.Pii.pass kind none (left ++ m.map .kept ++ right) = out at hpasses ⊢
  -- The rule comes to the characters.
  obtain ⟨left', b, out', hout, hchars, hleft', hreached⟩ : ∃ left' b out', out = left' ++ out' ∧
      left'.flatMap Part.chars = left.flatMap Part.chars ∧ (∀ x ∈ left'.getLast?, x.IsBlank) ∧
      Passes kind b (m.map .kept ++ right) out' := by
    rcases List.eq_nil_or_concat' left with rfl | ⟨left, x, rfl⟩
    · exact ⟨[], none, out, rfl, rfl, by simp, hpasses⟩
    · obtain ⟨c, rfl, hc⟩ := hleft x (by simp)
      rw [List.append_assoc, List.append_assoc, List.singleton_append] at hpasses
      obtain ⟨left', out', rfl, hchars, hreached⟩ := hpasses.reaches (hblank c hc)
      refine ⟨left' ++ [.kept c], some c, out', ?_, ?_, ?_, hreached⟩
      · rw [List.append_assoc, List.singleton_append]
      · rw [List.flatMap_append, List.flatMap_append, hchars]
      · intro y hy
        rw [List.getLast?_concat, Option.mem_some] at hy
        exact ⟨c, hy.symm, hc⟩
  obtain ⟨right', rfl, hrest⟩ := hreached.keeps fun l r hlr hr =>
    hm l r _ _ hlr hr (faces_head_isBlank hright)
  refine ⟨left', right', ?_, hchars, hleft', ?_⟩
  · rw [hout, List.append_assoc]
  -- It keeps the blank character behind them, too.
  rcases right with _ | ⟨x, right⟩
  · rw [hrest.eq_nil rfl]
    simp
  · obtain ⟨c, rfl, hc⟩ := hright x rfl
    obtain ⟨right', rfl, -⟩ := hrest.keeps_head (hblank c hc)
    exact hright

end Dossier.Pii
