import Dossier.Proofs.Pii.Pieces

/-!
# Ends near a place

Where a pattern can end among the first characters of a text does not depend on what stands behind
them, apart from whether a word character comes next (`Pattern.ends_near`).  So the preferred
matches in two texts that begin with the same characters are the same match, unless one of them
reaches beyond these characters (`Pattern.near_or_beyond`).
-/

namespace Dossier.Pii

/-- What an end leaves of the characters in front of a tail, unless it lies inside the tail. -/
def left? (tail : List Char) (stop : Place) : Option (List Char) :=
  if tail.length ≤ stop.rest.length then
    some (stop.rest.take (stop.rest.length - tail.length))
  else none

section

variable {tail cs m : List Char} {before : Option Char} {place stop : Place}

/-- The characters in front of a tail are left where they begin. -/
@[simp] lemma left?_append (before : Option Char) (cs tail : List Char) :
    left? tail ⟨before, cs ++ tail⟩ = some cs := by
  unfold left?
  dsimp only
  rw [List.length_append, if_pos (Nat.le_add_left _ _), Nat.add_sub_cancel, List.take_left]

/-- Nothing is left at an end inside the tail. -/
lemma left?_eq_none (h : stop.rest.length < tail.length) : left? tail stop = none :=
  if_neg (Nat.not_le.mpr h)

/-- Where something is left, the characters before it have been spanned. -/
lemma Place.Reaches.of_left? {l : List Char} (h : Reaches ⟨before, cs ++ tail⟩ m stop)
    (hleft : left? tail stop = some l) : cs = m ++ l ∧ stop = ⟨behind before m, l ++ tail⟩ := by
  unfold left? at hleft
  split at hleft
  · rename_i hlength
    obtain ⟨hrest, hbefore⟩ := h
    rcases stop with ⟨before', rest⟩
    dsimp only at hrest hbefore hlength hleft
    -- The tail is what both ways of cutting the text end in.
    have hsuffix : tail <:+ m ++ rest := by
      rw [← hrest]
      exact List.suffix_append _ _
    obtain ⟨l', rfl⟩ := List.suffix_of_suffix_length_le hsuffix (List.suffix_append _ _) hlength
    rw [List.length_append, Nat.add_sub_cancel, List.take_left, Option.some.injEq] at hleft
    rw [← List.append_assoc] at hrest
    rw [hbefore, ← hleft]
    exact ⟨List.append_cancel_right hrest, rfl⟩
  · cases hleft

end

/-- Characters after alike ones are alike. -/
lemma Alike.behind {x y : Option Char} (h : Alike x y) (m : List Char) :
    Alike (behind x m) (behind y m) := by
  rcases List.eq_nil_or_concat' m with rfl | ⟨l, c, rfl⟩
  · exact h
  · rw [behind_concat, behind_concat]
    rfl

/-- The characters that follow are alike if they are the same, or the first of alike tails. -/
lemma Alike.ahead {y z : Option Char} (h : Alike y z) (m : List Char) :
    Alike (ahead m y) (ahead m z) := by
  rcases m with _ | ⟨c, m⟩
  · exact h
  · rfl

/-! ### Repetition -/

section

variable {cls : Char → Bool} {nearer nearer' : List Place} {extra : Option ℕ}
  {before before' : Option Char} {y z cs : List Char} {n : ℕ}

/-- Places inside a tail do not count. -/
lemma filterMap_farther_inside (h : cs.length < y.length) :
    (farther cls nearer extra before cs).filterMap (left? y) = nearer.filterMap (left? y) := by
  induction cs generalizing nearer extra before with
  | nil =>
    unfold farther
    rw [List.filterMap_cons_none (left?_eq_none h)]
  | cons c rest ih =>
    have hhere : left? y ⟨before, c :: rest⟩ = none := left?_eq_none h
    rw [List.length_cons] at h
    unfold farther
    dsimp only
    split
    · rw [ih (by omega), List.filterMap_cons_none hhere]
    · rw [List.filterMap_cons_none hhere]

/-- Of the places in a tail only the first one counts. -/
lemma filterMap_farther_tail :
    (farther cls nearer extra before y).filterMap (left? y) = [] :: nearer.filterMap (left? y) := by
  have hhere : left? y ⟨before, y⟩ = some [] := left?_append before [] y
  rcases y with _ | ⟨c, rest⟩
  · unfold farther
    rw [List.filterMap_cons_some hhere]
  · unfold farther
    dsimp only
    split
    · rw [filterMap_farther_inside (Nat.lt_succ_self _), List.filterMap_cons_some hhere]
    · rw [List.filterMap_cons_some hhere]

/-- Further characters of a class are read near a place whatever the tail is. -/
lemma filterMap_farther (hnearer : nearer.filterMap (left? y) = nearer'.filterMap (left? z)) :
    (farther cls nearer extra before (cs ++ y)).filterMap (left? y) =
      (farther cls nearer' extra before' (cs ++ z)).filterMap (left? z) := by
  induction cs generalizing nearer nearer' extra before before' with
  | nil => rw [List.nil_append, List.nil_append, filterMap_farther_tail, filterMap_farther_tail,
      hnearer]
  | cons c rest ih =>
    have hhere : List.filterMap (left? y) (⟨before, c :: (rest ++ y)⟩ :: nearer) =
        List.filterMap (left? z) (⟨before', c :: (rest ++ z)⟩ :: nearer') := by
      have hleft : ∀ (b : Option Char) (tail : List Char),
          left? tail ⟨b, c :: (rest ++ tail)⟩ = some (c :: rest) := fun _ _ =>
        left?_append _ (c :: rest) _
      rw [List.filterMap_cons_some (hleft _ _), List.filterMap_cons_some (hleft _ _), hnearer]
    rw [List.cons_append, List.cons_append]
    unfold farther
    dsimp only
    split
    · exact ih hhere
    · exact hhere

end

namespace Pattern

variable {p : Pattern} {before before' : Option Char} {cs y z : List Char}

/-- No end lies before the place at which a pattern begins. -/
lemma length_le_of_mem_ends {place stop : Place} (h : stop ∈ p.ends place) :
    stop.rest.length ≤ place.rest.length := by
  obtain ⟨m, hreach, -⟩ := mem_ends.mp h
  rw [hreach.1, List.length_append]
  exact Nat.le_add_left _ _

/-- Nothing is left in front of a tail if every match is of some characters of it. -/
lemma filterMap_ends_eq_nil (h : ∀ before m after, p.Spans before m after → m ≠ []) :
    (p.ends ⟨before, y⟩).filterMap (left? y) = [] := by
  refine List.filterMap_eq_nil_iff.mpr fun stop hstop => left?_eq_none ?_
  obtain ⟨m, hreach, hspans⟩ := mem_ends.mp hstop
  have hpos := List.length_pos_iff.mpr (h _ _ _ hspans)
  have hlength := congrArg List.length hreach.1
  rw [List.length_append] at hlength
  dsimp only at hlength
  omega

/-- A repetition ends near a place whatever the tail is. -/
lemma filterMap_ends_repeated {cls : Char → Bool} {least : ℕ} {extra : Option ℕ} :
    ((repeated cls least extra).ends ⟨before, cs ++ y⟩).filterMap (left? y) =
      ((repeated cls least extra).ends ⟨before', cs ++ z⟩).filterMap (left? z) := by
  unfold ends
  induction least generalizing before before' cs with
  | zero => exact filterMap_farther rfl
  | succ n ih =>
    rcases cs with _ | ⟨c, rest⟩
    · have hsome : ∀ b m after, (repeated cls (n + 1) extra).Spans b m after → m ≠ [] := by
        rintro b m after ⟨-, hleast, -⟩ rfl
        cases hleast
      exact (filterMap_ends_eq_nil hsome).trans (filterMap_ends_eq_nil hsome).symm
    · rw [List.cons_append, List.cons_append]
      unfold exactly
      by_cases hc : cls c
      · rw [if_pos hc, if_pos hc]
        exact ih
      · rw [if_neg hc, if_neg hc]
        rfl

/-- The second of two patterns goes on near a place from where the first one ends there. -/
lemma filterMap_flatMap_ends {mids : List Place}
    (h : ∀ mid ∈ mids, ∃ m, Place.Reaches ⟨before, cs ++ y⟩ m mid) :
    (mids.flatMap p.ends).filterMap (left? y) = (mids.filterMap (left? y)).flatMap fun l =>
      (p.ends ⟨behind before (cs.take (cs.length - l.length)), l ++ y⟩).filterMap (left? y) := by
  rw [List.filterMap_flatMap]
  induction mids with
  | nil => rfl
  | cons mid rest ih =>
    obtain ⟨⟨m, hreach⟩, hrest⟩ := List.forall_mem_cons.mp h
    rw [List.flatMap_cons, ih hrest]
    rcases hleft : left? y mid with _ | l
    · rw [List.filterMap_cons_none hleft]
      have hmid : mid.rest.length < y.length := by
        by_contra hle
        unfold left? at hleft
        rw [if_pos (Nat.le_of_not_lt hle)] at hleft
        cases hleft
      have hnil : (p.ends mid).filterMap (left? y) = [] :=
        List.filterMap_eq_nil_iff.mpr fun stop hstop =>
          left?_eq_none ((length_le_of_mem_ends hstop).trans_lt hmid)
      rw [hnil, List.nil_append]
    · obtain ⟨rfl, rfl⟩ := hreach.of_left? hleft
      rw [List.filterMap_cons_some hleft, List.flatMap_cons, List.length_append,
        Nat.add_sub_cancel, List.take_left]

/-- Where a pattern can end among the first characters of a text does not depend on the tail, as
long as the neighbouring characters are alike. -/
theorem ends_near (p : Pattern) (cs : List Char) (hbefore : Alike before before')
    (htails : Alike y.head? z.head?) :
    (p.ends ⟨before, cs ++ y⟩).filterMap (left? y) =
      (p.ends ⟨before', cs ++ z⟩).filterMap (left? z) := by
  induction p generalizing before before' cs with
  | one cls =>
    rcases cs with _ | ⟨c, rest⟩
    · have hsome : ∀ b m after, (one cls).Spans b m after → m ≠ [] := by
        rintro b m after ⟨c, rfl, -⟩
        exact List.cons_ne_nil c []
      exact (filterMap_ends_eq_nil hsome).trans (filterMap_ends_eq_nil hsome).symm
    · unfold ends exactly
      rw [List.cons_append, List.cons_append]
      dsimp only
      split
      · unfold exactly
        rw [Option.toList_some, Option.toList_some, List.filterMap_cons_some (left?_append _ _ _),
          List.filterMap_cons_some (left?_append _ _ _)]
        rfl
      · rfl
  | boundary =>
    have hboundary : Unicode.isBoundary before (cs ++ y).head? =
        Unicode.isBoundary before' (cs ++ z).head? := by
      have hahead := htails.ahead cs
      unfold Unicode.isBoundary
      rw [head?_append_eq_ahead, head?_append_eq_ahead, hbefore, hahead]
    unfold ends
    dsimp only
    rw [hboundary]
    split
    · rw [List.filterMap_cons_some (left?_append _ _ _),
      List.filterMap_cons_some (left?_append _ _ _)]
      rfl
    · rfl
  | repeated cls least extra => exact filterMap_ends_repeated
  | andThen first second ihfirst ihsecond =>
    unfold ends
    rw [filterMap_flatMap_ends fun mid hmid => (mem_ends.mp hmid).imp fun _ => And.left,
      filterMap_flatMap_ends fun mid hmid => (mem_ends.mp hmid).imp fun _ => And.left,
      ihfirst cs hbefore]
    refine List.flatMap_congr fun l _ => ?_
    exact ihsecond _ (hbefore.behind _)
  | orElse first second ihfirst ihsecond =>
    unfold ends
    rw [List.filterMap_append, List.filterMap_append, ihfirst cs hbefore, ihsecond cs hbefore]
  | optionally inner ih =>
    unfold ends
    rw [List.filterMap_append, List.filterMap_append, ih cs hbefore,
      List.filterMap_cons_some (left?_append _ _ _),
      List.filterMap_cons_some (left?_append _ _ _)]
    rfl

/-! ### Preferred matches -/

/-- The preferred match reaches beyond some characters. -/
def Beyond (p : Pattern) (n : ℕ) (place : Place) : Prop :=
  ∃ l, n < l ∧ p.matchLength? place = some l

/-- The preferred match by what its end leaves of the first characters. -/
lemma matchLength?_of_head? {stop : Place}
    (h : (p.ends ⟨before, cs ++ y⟩).head? = some stop) :
    (left? y stop = none ∧ p.Beyond cs.length ⟨before, cs ++ y⟩) ∨ ∃ l, left? y stop = some l ∧
      p.matchLength? ⟨before, cs ++ y⟩ =
        if l.length < cs.length then some (cs.length - l.length) else none := by
  obtain ⟨m, hreach, -⟩ := mem_ends.mp (List.mem_of_head? h)
  rcases hleft : left? y stop with _ | l
  · refine .inl ⟨rfl, (cs ++ y).length - stop.rest.length, ?_⟩
    unfold left? at hleft
    split at hleft
    · cases hleft
    · unfold matchLength?
      rw [h]
      dsimp only
      rw [List.length_append]
      refine ⟨by omega, if_pos (by omega)⟩
  · obtain ⟨rfl, rfl⟩ := hreach.of_left? hleft
    refine .inr ⟨l, rfl, ?_⟩
    unfold matchLength?
    rw [h]
    dsimp only
    rw [List.length_append, List.length_append, Nat.add_sub_add_right]
    simp only [Nat.add_lt_add_iff_right]

/-- In two texts that begin with the same characters, the preferred match is the same one, unless it
reaches beyond these characters in one of the texts. -/
theorem near_or_beyond (p : Pattern) (cs : List Char) (hbefore : Alike before before')
    (htails : Alike y.head? z.head?) :
    p.matchLength? ⟨before, cs ++ y⟩ = p.matchLength? ⟨before', cs ++ z⟩ ∨
      p.Beyond cs.length ⟨before, cs ++ y⟩ ∨ p.Beyond cs.length ⟨before', cs ++ z⟩ := by
  have hnear := p.ends_near cs hbefore htails
  rcases hy : p.ends ⟨before, cs ++ y⟩ with _ | ⟨stop, others⟩ <;>
    rcases hz : p.ends ⟨before', cs ++ z⟩ with _ | ⟨stop', others'⟩
  · unfold matchLength?
    rw [hy, hz]
    exact .inl rfl
  · rcases matchLength?_of_head? (by rw [hz]; rfl) with ⟨-, hbeyond⟩ | ⟨l, hl, -⟩
    · exact .inr (.inr hbeyond)
    · rw [hy, hz, List.filterMap_cons_some hl] at hnear
      cases hnear
  · rcases matchLength?_of_head? (by rw [hy]; rfl) with ⟨-, hbeyond⟩ | ⟨l, hl, -⟩
    · exact .inr (.inl hbeyond)
    · rw [hy, hz, List.filterMap_cons_some hl] at hnear
      cases hnear
  · rcases matchLength?_of_head? (by rw [hy]; rfl) with ⟨-, hbeyond⟩ | ⟨l, hl, hlength⟩
    · exact .inr (.inl hbeyond)
    rcases matchLength?_of_head? (by rw [hz]; rfl) with ⟨-, hbeyond⟩ | ⟨l', hl', hlength'⟩
    · exact .inr (.inr hbeyond)
    rw [hy, hz, List.filterMap_cons_some hl, List.filterMap_cons_some hl'] at hnear
    obtain ⟨rfl, -⟩ := List.cons.inj hnear
    exact .inl (hlength.trans hlength'.symm)

end Pattern

end Dossier.Pii
