import Mathlib.Data.List.Basic
import Mathlib.Tactic.Common
import Dossier.Pii.Pattern

/-!
# What a pattern spans

A pattern spans some characters between the character before them and the one after them
(`Pattern.Spans`), and the places at which it can end are those behind the characters that it spans
(`Pattern.mem_ends`).  The neighbouring characters matter only in whether they are word characters.
-/

namespace Dossier.Pii

open Unicode

/-- The character before whatever stands behind some characters. -/
def behind (before : Option Char) (m : List Char) : Option Char := m.getLast?.or before

/-- The first of some characters, or else the one after them. -/
def ahead (m : List Char) (after : Option Char) : Option Char := m.head?.or after

section

variable {before after : Option Char} {c : Char} {m m' cs : List Char}

@[simp] lemma behind_nil : behind before [] = before := rfl

@[simp] lemma behind_concat : behind before (m ++ [c]) = some c := by
  unfold behind
  rw [List.getLast?_concat]
  rfl

@[simp] lemma behind_cons : behind before (c :: m) = behind (some c) m := by
  unfold behind
  rw [List.getLast?_cons]
  rcases m.getLast? with _ | d <;> rfl

@[simp] lemma behind_append : behind before (m ++ m') = behind (behind before m) m' := by
  unfold behind
  rw [List.getLast?_append]
  rcases m'.getLast? with _ | d <;> rfl

@[simp] lemma ahead_nil : ahead [] after = after := rfl

@[simp] lemma ahead_cons : ahead (c :: m) after = some c := rfl

@[simp] lemma head?_append_eq_ahead : (m ++ cs).head? = ahead m cs.head? := List.head?_append

end

/-! ### The relation -/

/-- A pattern spans some characters between the one before them and the one after them. -/
def Pattern.Spans : Pattern → Option Char → List Char → Option Char → Prop
  | one cls, _, m, _ => ∃ c, m = [c] ∧ cls c
  | boundary, before, m, after => m = [] ∧ isBoundary before after
  | repeated cls least extra, _, m, _ =>
    (∀ c ∈ m, cls c) ∧ least ≤ m.length ∧ ∀ e, extra = some e → m.length ≤ least + e
  | andThen first second, before, m, after => ∃ l r, m = l ++ r ∧
    first.Spans before l (ahead r after) ∧ second.Spans (behind before l) r after
  | orElse first second, before, m, after => first.Spans before m after ∨ second.Spans before m after
  | optionally inner, before, m, after => inner.Spans before m after ∨ m = []

/-- Two neighbouring characters, or the ends of a text, are alike if both or neither of them is a
word character. -/
def Alike (x y : Option Char) : Prop := x.any isWord = y.any isWord

/-- What a pattern spans depends on whether the neighbouring characters are word characters, and on
nothing else of them. -/
lemma Pattern.Spans.congr {p : Pattern} {before before' after after' : Option Char} {m : List Char}
    (h : p.Spans before m after) (hbefore : Alike before before') (hafter : Alike after after') :
    p.Spans before' m after' := by
  induction p generalizing before before' after after' m with
  | one cls => exact h
  | boundary =>
    obtain ⟨hm, hboundary⟩ := h
    refine ⟨hm, ?_⟩
    unfold isBoundary at hboundary ⊢
    rw [← hbefore, ← hafter]
    exact hboundary
  | repeated cls least extra => exact h
  | andThen first second ihfirst ihsecond =>
    obtain ⟨l, r, hm, hfirst, hsecond⟩ := h
    refine ⟨l, r, hm, ihfirst hfirst hbefore ?_, ihsecond hsecond ?_ hafter⟩
    · rcases r with _ | ⟨c, r⟩
      · exact hafter
      · rfl
    · rcases List.eq_nil_or_concat' l with rfl | ⟨l', c, rfl⟩
      · exact hbefore
      · rw [behind_concat, behind_concat]
        rfl
  | orElse first second ihfirst ihsecond =>
    rcases h with hfirst | hsecond
    · exact .inl (ihfirst hfirst hbefore hafter)
    · exact .inr (ihsecond hsecond hbefore hafter)
  | optionally inner ih =>
    rcases h with hinner | hnone
    · exact .inl (ih hinner hbefore hafter)
    · exact .inr hnone

/-! ### Ends -/

/-- A place behind some characters that follow another place. -/
def Place.Reaches (place : Place) (m : List Char) (stop : Place) : Prop :=
  place.rest = m ++ stop.rest ∧ stop.before = behind place.before m

namespace Place

variable {place mid stop : Place} {m m' cs : List Char} {before : Option Char} {c : Char}

/-- A place is behind no characters of its own. -/
lemma reaches_nil : place.Reaches [] stop ↔ stop = place := by
  rcases place with ⟨before, cs⟩
  rcases stop with ⟨before', cs'⟩
  unfold Reaches
  simp only [List.nil_append, behind_nil, mk.injEq]
  constructor
  · rintro ⟨hrest, hbefore⟩
    exact ⟨hbefore, hrest.symm⟩
  · rintro ⟨hbefore, hrest⟩
    exact ⟨hrest.symm, hbefore⟩

/-- Nothing comes behind the end of a text. -/
lemma Reaches.eq_nil (h : Reaches ⟨before, []⟩ m stop) : m = [] :=
  (List.append_eq_nil_iff.mp h.1.symm).1

/-- The first of the characters behind a place is the one that follows it. -/
lemma reaches_cons : Reaches ⟨before, cs⟩ (c :: m) stop ↔
    ∃ rest, cs = c :: rest ∧ Reaches ⟨some c, rest⟩ m stop := by
  unfold Reaches
  rw [behind_cons]
  constructor
  · rintro ⟨hrest, hbefore⟩
    exact ⟨_, hrest, rfl, hbefore⟩
  · rintro ⟨rest, rfl, hrest, hbefore⟩
    exact ⟨congrArg (c :: ·) hrest, hbefore⟩

/-- Characters behind others lead on. -/
lemma Reaches.append (h : place.Reaches m mid) (h' : mid.Reaches m' stop) :
    place.Reaches (m ++ m') stop := by
  refine ⟨?_, ?_⟩
  · rw [h.1, h'.1, List.append_assoc]
  · rw [h'.2, h.2, behind_append]

end Place

/-- The place behind `n` characters of a class. -/
lemma exactly_eq_some {cls : Char → Bool} {n : Nat} {place stop : Place} :
    exactly cls n place = some stop ↔
      ∃ m, place.Reaches m stop ∧ (∀ c ∈ m, cls c) ∧ m.length = n := by
  induction n generalizing place with
  | zero =>
    constructor
    · intro h
      cases h
      exact ⟨[], Place.reaches_nil.mpr rfl, by simp, rfl⟩
    · rintro ⟨m, hreach, -, hlength⟩
      rw [List.eq_nil_of_length_eq_zero hlength, Place.reaches_nil] at hreach
      rw [hreach]
      rfl
  | succ n ih =>
    constructor
    · intro h
      rcases place with ⟨before, _ | ⟨c, rest⟩⟩
      · cases h
      · unfold exactly at h
        split at h
        · rename_i hc
          obtain ⟨m, hreach, hall, rfl⟩ := ih.mp h
          exact ⟨c :: m, Place.reaches_cons.mpr ⟨rest, rfl, hreach⟩,
            List.forall_mem_cons.mpr ⟨hc, hall⟩, rfl⟩
        · cases h
    · rintro ⟨_ | ⟨c, m⟩, hreach, hall, hlength⟩
      · cases hlength
      · rcases place with ⟨before, cs⟩
        obtain ⟨rest, rfl, hmore⟩ := Place.reaches_cons.mp hreach
        obtain ⟨hc, hmcls⟩ := List.forall_mem_cons.mp hall
        unfold exactly
        rw [if_pos hc]
        exact ih.mpr ⟨m, hmore, hmcls, Nat.succ.inj hlength⟩

/-- The places behind further characters of a class. -/
lemma mem_farther {cls : Char → Bool} {nearer : List Place} {extra : Option Nat}
    {before : Option Char} {cs : List Char} {stop : Place} :
    stop ∈ farther cls nearer extra before cs ↔ stop ∈ nearer ∨
      ∃ m, Place.Reaches ⟨before, cs⟩ m stop ∧ (∀ c ∈ m, cls c) ∧
        ∀ e, extra = some e → m.length ≤ e := by
  induction cs generalizing nearer extra before with
  | nil =>
    unfold farther
    rw [List.mem_cons, or_comm]
    refine or_congr_right ⟨?_, ?_⟩
    · rintro rfl
      exact ⟨[], Place.reaches_nil.mpr rfl, by simp, fun e _ => Nat.zero_le e⟩
    · rintro ⟨m, hreach, -⟩
      rw [hreach.eq_nil, Place.reaches_nil] at hreach
      exact hreach
  | cons c rest ih =>
    unfold farther
    dsimp only
    -- Either nothing is read here, or a character is read and one fewer may follow.
    have hsplit : (∃ m, Place.Reaches ⟨before, c :: rest⟩ m stop ∧ (∀ c ∈ m, cls c) ∧
        ∀ e, extra = some e → m.length ≤ e) ↔ stop = ⟨before, c :: rest⟩ ∨
          (cls c && extra != some 0) = true ∧ ∃ m, Place.Reaches ⟨some c, rest⟩ m stop ∧
            (∀ c ∈ m, cls c) ∧ ∀ e, extra.map (· - 1) = some e → m.length ≤ e := by
      constructor
      · rintro ⟨_ | ⟨d, m⟩, hreach, hall, hmost⟩
        · exact .inl (Place.reaches_nil.mp hreach)
        · obtain ⟨_, heq, hmore⟩ := Place.reaches_cons.mp hreach
          obtain ⟨rfl, rfl⟩ := List.cons.inj heq
          obtain ⟨hc, hall⟩ := List.forall_mem_cons.mp hall
          right
          rcases extra with _ | e
          · exact ⟨by simp [hc], m, hmore, hall, by simp⟩
          · have hlength : m.length + 1 ≤ e := hmost e rfl
            refine ⟨?_, m, hmore, hall, ?_⟩
            · rw [hc, Bool.true_and, bne_iff_ne, Ne, Option.some.injEq]
              omega
            · intro e' he'
              cases he'
              exact Nat.le_sub_one_of_lt hlength
      · rintro (rfl | ⟨hgo, m, hreach, hall, hmost⟩)
        · exact ⟨[], Place.reaches_nil.mpr rfl, by simp, fun e _ => Nat.zero_le e⟩
        · rw [Bool.and_eq_true, bne_iff_ne] at hgo
          refine ⟨c :: m, Place.reaches_cons.mpr ⟨rest, rfl, hreach⟩,
            List.forall_mem_cons.mpr ⟨hgo.1, hall⟩, ?_⟩
          rintro e rfl
          have hlength := hmost (e - 1) rfl
          have hpos : e ≠ 0 := fun hzero => hgo.2 (congrArg some hzero)
          rw [List.length_cons]
          omega
    rw [hsplit]
    split
    · rename_i hgo
      rw [ih, List.mem_cons]
      simp only [hgo, true_and]
      rw [or_comm (a := stop = _), or_assoc]
    · rename_i hstop
      rw [Bool.not_eq_true] at hstop
      rw [List.mem_cons, hstop]
      simp only [Bool.false_eq_true, false_and, or_false]
      exact or_comm

/-- The places at which a pattern can end are those behind the characters that it spans. -/
theorem Pattern.mem_ends {p : Pattern} {place stop : Place} : stop ∈ p.ends place ↔
    ∃ m, place.Reaches m stop ∧ p.Spans place.before m stop.rest.head? := by
  induction p generalizing place stop with
  | one cls =>
    unfold ends
    rw [Option.mem_toList, exactly_eq_some]
    refine exists_congr fun m => and_congr_right fun _ => ?_
    constructor
    · rintro ⟨hall, hlength⟩
      obtain ⟨c, rfl⟩ := List.length_eq_one_iff.mp hlength
      exact ⟨c, rfl, hall c List.mem_cons_self⟩
    · rintro ⟨c, rfl, hc⟩
      exact ⟨by simpa using hc, rfl⟩
  | boundary =>
    unfold ends
    constructor
    · intro h
      split at h
      · rename_i hboundary
        obtain rfl := List.mem_singleton.mp h
        exact ⟨[], Place.reaches_nil.mpr rfl, rfl, hboundary⟩
      · cases h
    · rintro ⟨m, hreach, rfl, hboundary⟩
      obtain rfl := Place.reaches_nil.mp hreach
      rw [if_pos hboundary]
      exact List.mem_singleton_self _
  | repeated cls least extra =>
    unfold ends
    constructor
    · intro h
      split at h
      · rename_i mid hmid
        obtain ⟨l, hl, hlall, hllength⟩ := exactly_eq_some.mp hmid
        obtain ⟨r, hr, hrall, hrlength⟩ := (mem_farther.mp h).resolve_left (List.not_mem_nil)
        refine ⟨l ++ r, hl.append hr, ?_, ?_, ?_⟩
        · exact List.forall_mem_append.mpr ⟨hlall, hrall⟩
        · rw [List.length_append]
          omega
        · intro e he
          have := hrlength e he
          rw [List.length_append]
          omega
      · cases h
    · rintro ⟨m, hreach, hall, hleast, hmost⟩
      obtain ⟨hrest, hbefore⟩ := hreach
      set mid : Place := ⟨behind place.before (m.take least), m.drop least ++ stop.rest⟩ with hmid
      have hfirst : place.Reaches (m.take least) mid := by
        refine ⟨?_, rfl⟩
        rw [hmid, ← List.append_assoc, List.take_append_drop]
        exact hrest
      have hsecond : mid.Reaches (m.drop least) stop := by
        refine ⟨rfl, ?_⟩
        rw [hmid, ← behind_append, List.take_append_drop]
        exact hbefore
      have hexactly : exactly cls least place = some mid :=
        exactly_eq_some.mpr ⟨m.take least, hfirst, fun c hc => hall c (List.mem_of_mem_take hc),
          List.length_take_of_le hleast⟩
      rw [hexactly]
      refine mem_farther.mpr (.inr ⟨m.drop least, hsecond, fun c hc =>
        hall c (List.mem_of_mem_drop hc), fun e he => ?_⟩)
      have := hmost e he
      rw [List.length_drop]
      omega
  | andThen first second ihfirst ihsecond =>
    unfold ends
    rw [List.mem_flatMap]
    constructor
    · rintro ⟨mid, hmid, hstop⟩
      obtain ⟨l, hl, hfirst⟩ := ihfirst.mp hmid
      obtain ⟨r, hr, hsecond⟩ := ihsecond.mp hstop
      refine ⟨l ++ r, hl.append hr, l, r, rfl, ?_, ?_⟩
      · rw [hr.1, head?_append_eq_ahead] at hfirst
        exact hfirst
      · rw [hl.2] at hsecond
        exact hsecond
    · rintro ⟨m, ⟨hrest, hbefore⟩, l, r, rfl, hfirst, hsecond⟩
      refine ⟨⟨behind place.before l, r ++ stop.rest⟩, ihfirst.mpr ⟨l, ⟨?_, rfl⟩, ?_⟩,
        ihsecond.mpr ⟨r, ⟨rfl, ?_⟩, hsecond⟩⟩
      · rw [hrest, List.append_assoc]
      · rw [head?_append_eq_ahead]
        exact hfirst
      · rw [hbefore, behind_append]
  | orElse first second ihfirst ihsecond =>
    unfold ends
    rw [List.mem_append, ihfirst, ihsecond, ← exists_or]
    refine exists_congr fun m => ?_
    rw [← and_or_left]
    rfl
  | optionally inner ih =>
    unfold ends
    rw [List.mem_append, ih, List.mem_singleton]
    constructor
    · rintro (⟨m, hreach, hinner⟩ | rfl)
      · exact ⟨m, hreach, .inl hinner⟩
      · exact ⟨[], Place.reaches_nil.mpr rfl, .inr rfl⟩
    · rintro ⟨m, hreach, hinner | rfl⟩
      · exact .inl ⟨m, hreach, hinner⟩
      · exact .inr (Place.reaches_nil.mp hreach)

end Dossier.Pii
