import Dossier.Policy
import Dossier.Proofs.Pii.Redaction

/-!
# The numbers of tokens

A session writes the parts of a text with a token for each that is masked, and the number in a token
depends on the value and its kind only: a value keeps the number that it was given
(`Session.Grows`), so that the session at the end tells the numbers in all texts
(`Session.redactEach_shows`).  The values of a kind that have a number are those that were replaced,
and their numbers are the places in the list of these values without repetitions; the counter of the
kind is the length of this list (`Session.Replaced`).
-/

namespace Dossier.Pii

variable {kind kind' : Kind} {before before' : Option Char} {ps ps' : List Part}
  {v v' text : List Char} {pieces : List Piece} {s s' : Session} {n n' : ℕ}

/-! ### Lists without repetitions -/

section

variable {α : Type} [BEq α] [LawfulBEq α] {l : List α} {a : α}

/-- One more item at the end of a list is a repetition or comes last. -/
lemma eraseDups_concat : (l ++ [a]).eraseDups = if a ∈ l then l.eraseDups else l.eraseDups ++ [a] := by
  rw [List.eraseDups_append]
  by_cases ha : a ∈ l
  · rw [if_pos ha]
    simp [List.removeAll, ha]
  · rw [if_neg ha]
    simp [List.removeAll, ha, List.eraseDups_cons]

/-- The places of the items of a list among those that are no repetitions come up in order. -/
lemma eraseDups_map_idxOf (l : List α) :
    (l.map fun a => l.eraseDups.idxOf a + 1).eraseDups = List.range' 1 l.eraseDups.length := by
  induction l using List.reverseRecOn with
  | nil => rfl
  | append_singleton l a ih =>
    rw [List.map_append, List.map_singleton, eraseDups_concat, eraseDups_concat]
    by_cases ha : a ∈ l
    · rw [if_pos ha, if_pos (List.mem_map_of_mem ha), ih]
    · rw [if_neg ha]
      have hnew : a ∉ l.eraseDups := by rwa [List.mem_eraseDups]
      -- The earlier items keep their places, and the new one gets the next.
      have hplace : (l.eraseDups ++ [a]).idxOf a = l.eraseDups.length := by
        rw [List.idxOf_append_of_notMem hnew, List.idxOf_cons_self, Nat.add_zero]
      have hold : (l.map fun b => (l.eraseDups ++ [a]).idxOf b + 1) =
          l.map fun b => l.eraseDups.idxOf b + 1 := by
        refine List.map_congr_left fun b hb => ?_
        rw [List.idxOf_append_of_mem (List.mem_eraseDups.mpr hb)]
      have hlast : l.eraseDups.length + 1 ∉ l.map fun b => l.eraseDups.idxOf b + 1 := by
        rw [List.mem_map]
        rintro ⟨b, hb, hsame⟩
        have := List.idxOf_lt_length_of_mem (List.mem_eraseDups.mpr hb)
        omega
      rw [hold, hplace, if_neg hlast, ih, List.length_append, List.length_singleton,
        List.range'_1_concat, Nat.add_comm]

end

/-! ### Parts with numbers -/

section

variable (number : Kind → List Char → ℕ)

/-- A part as it is written, with a number for each value. -/
def Part.written : Part → List Char
  | .kept c => [c]
  | .masked kind value => Session.token kind (number kind value)

/-- A piece as the rule of a kind writes it, with a number for each value. -/
def Piece.written (kind : Kind) : Piece → List Char
  | .plain c => [c]
  | .found value => Session.token kind (number kind value)

/-- Parts as they are written. -/
def written (ps : List Part) : List Char := ps.flatMap (Part.written number)

end

/-- The value of a part if one of this kind is masked. -/
def Part.valueOf? (kind : Kind) : Part → Option (List Char)
  | .kept _ => none
  | .masked kind' value => if kind' = kind then some value else none

/-- The value of a piece if it is a match. -/
def Piece.value? : Piece → Option (List Char)
  | .plain _ => none
  | .found value => some value

/-- The values of a kind that are masked, in order. -/
def valuesOf (kind : Kind) (ps : List Part) : List (List Char) := ps.filterMap (Part.valueOf? kind)

/-- The matches among pieces, in order. -/
def matchesIn (pieces : List Piece) : List (List Char) := pieces.filterMap Piece.value?

section

variable {number number' : Kind → List Char → ℕ} {cs : List Char}

lemma written_kept_append : written number (cs.map .kept ++ ps) = cs ++ written number ps := by
  unfold written
  rw [List.flatMap_append, List.flatMap_map]
  exact congrArg (· ++ _) (List.flatMap_singleton' cs)

lemma valuesOf_kept_append : valuesOf kind (cs.map .kept ++ ps) = valuesOf kind ps := by
  unfold valuesOf
  rw [List.filterMap_append, List.filterMap_map]
  exact congrArg (· ++ _) (List.filterMap_eq_nil_iff.mpr fun _ _ => rfl)

lemma valuesOf_kept : valuesOf kind (cs.map .kept) = [] := by
  rw [← List.append_nil (cs.map Part.kept), valuesOf_kept_append]
  rfl

lemma valuesOf_masked_cons (h : kind' ≠ kind) :
    valuesOf kind (.masked kind' v :: ps) = valuesOf kind ps :=
  List.filterMap_cons_none (if_neg h)

lemma valuesOf_masked_cons_self :
    valuesOf kind (.masked kind v :: ps) = v :: valuesOf kind ps :=
  List.filterMap_cons_some (if_pos rfl)

lemma mem_valuesOf : v ∈ valuesOf kind ps ↔ .masked kind v ∈ ps := by
  unfold valuesOf
  rw [List.mem_filterMap]
  constructor
  · rintro ⟨x, hx, hvalue⟩
    rcases x with c | ⟨kind', value⟩
    · cases hvalue
    · have hboth : kind' = kind ∧ some value = some v := Option.ite_none_right_eq_some.mp hvalue
      rwa [← hboth.1, ← Option.some.inj hboth.2]
  · intro h
    exact ⟨_, h, if_pos rfl⟩

/-- What is written shows the parts. -/
lemma renders_written (number : Kind → List Char → ℕ) (ps : List Part) :
    Renders ps (written number ps) := by
  induction ps with
  | nil => exact .nil
  | cons x ps ih =>
    rcases x with c | ⟨kind, value⟩
    · exact .kept c ih
    · exact .masked kind value _ ih

/-- Numbers of other values do not matter. -/
lemma written_congr (h : ∀ kind, ∀ v ∈ valuesOf kind ps, number kind v = number' kind v) :
    written number ps = written number' ps := by
  unfold written
  refine List.flatMap_congr fun x hx => ?_
  rcases x with c | ⟨kind, value⟩
  · rfl
  · exact congrArg (Session.token kind) (h kind value (mem_valuesOf.mpr hx))

namespace Passes

/-- A text with its matches numbered is the text that is written from the parts behind the rule. -/
lemma written_eq (h : Passes kind before' ps ps') (hbefore : Alike before before')
    (number : Kind → List Char → ℕ) : written number ps' =
      (kind.pattern.scan before (written number ps)).flatMap (Piece.written number kind) := by
  induction h generalizing before with
  | nil =>
    unfold Pattern.scan Pattern.piecesFrom
    rfl
  | @keep before' x ps ps' hnone _ ih =>
    have hlength := (renders_written number (x :: ps)).matchLength?_eq kind.rule hbefore
    rw [hnone] at hlength
    rcases x with c | ⟨kind', value⟩
    · have htext : written number (.kept c :: ps) = c :: written number ps := rfl
      rw [htext] at hlength ⊢
      rw [Pattern.scan_plain hlength, List.flatMap_cons]
      exact congrArg (c :: ·) (ih rfl)
    · have htext : written number (.masked kind' value :: ps) =
          Session.token kind' (number kind' value) ++ written number ps := rfl
      rw [htext, kind.rule.scan_token, List.flatMap_append, ← ih alike_brackets, List.flatMap_map]
      exact congrArg (· ++ _) (List.flatMap_singleton' _).symm
  | @hide before' m ps ps' hm hsome _ ih =>
    have hlength := (renders_written number (m.map .kept ++ ps)).matchLength?_eq kind.rule hbefore
    rw [faces_append, faces_kept, hsome, written_kept_append] at hlength
    rw [written_kept_append, Pattern.scan_found hm hlength, List.flatMap_cons,
      ← ih (hbefore.behind m)]
    rfl

/-- The values of a kind are the matches of its rule, in order. -/
lemma matchesIn_scan (h : Passes kind before' ps ps') (hv : Renders ps v)
    (hbefore : Alike before before') (hfresh : valuesOf kind ps = []) :
    matchesIn (kind.pattern.scan before v) = valuesOf kind ps' := by
  induction h generalizing v before with
  | nil =>
    cases hv
    unfold Pattern.scan Pattern.piecesFrom
    rfl
  | @keep before' x ps ps' hnone _ ih =>
    have hlength := hv.matchLength?_eq kind.rule hbefore
    rw [hnone] at hlength
    cases hv with
    | @kept _ v c hv =>
      rw [Pattern.scan_plain hlength]
      exact ih hv rfl hfresh
    | @masked _ v kind' value n hv =>
      have hother : kind' ≠ kind := by
        rintro rfl
        rw [valuesOf_masked_cons_self] at hfresh
        cases hfresh
      rw [valuesOf_masked_cons hother] at hfresh ⊢
      rw [kind.rule.scan_token, ← ih hv alike_brackets hfresh]
      unfold matchesIn
      rw [List.filterMap_append, List.filterMap_map]
      exact congrArg (· ++ _) (List.filterMap_eq_nil_iff.mpr fun _ _ => rfl)
  | @hide before' m ps ps' hm hsome _ ih =>
    have hlength := hv.matchLength?_eq kind.rule hbefore
    obtain ⟨v, rfl, hrest⟩ := Renders.kept_append_iff.mp hv
    rw [faces_append, faces_kept, hsome] at hlength
    rw [valuesOf_kept_append] at hfresh
    rw [Pattern.scan_found hm hlength, valuesOf_masked_cons_self,
      ← ih hrest (hbefore.behind m) hfresh]
    rfl

/-- A rule leaves the values of other kinds. -/
lemma valuesOf_other (h : Passes kind before ps ps') (hne : kind ≠ kind') :
    valuesOf kind' ps' = valuesOf kind' ps := by
  induction h with
  | nil => rfl
  | @keep before x ps ps' _ _ ih =>
    unfold valuesOf at ih ⊢
    rw [List.filterMap_cons, List.filterMap_cons, ih]
  | @hide before m ps ps' _ _ _ ih =>
    rw [valuesOf_masked_cons hne, ih, valuesOf_kept_append]

end Passes

end

/-! ### What a session remembers -/

/-- The keys of values tell their kinds. -/
lemma Session.key_inj : Session.key kind v = Session.key kind' v' ↔
    kind = kind' ∧ v.map Char.toLower = v'.map Char.toLower := by
  rw [key, key, Prod.mk.injEq]

/-- A token tells its kind and its number. -/
lemma Session.token_inj : token kind n = token kind' n' ↔ kind = kind' ∧ n = n' := by
  have hform : ∀ (kind : Kind) (n : ℕ), token kind n =
      '[' :: (kind.label.toList ++ ('_' :: n.repr.toList) ++ [']']) := by
    intro kind n
    simp [token]
    rfl
  refine ⟨fun h => ?_, by rintro ⟨rfl, rfl⟩; rfl⟩
  rw [hform, hform, List.cons.injEq] at h
  obtain rfl : kind = kind' := by
    -- The labels begin with different letters.
    have hhead := congrArg List.head? h.2
    cases kind <;> cases kind' <;> first | rfl | cases Option.some.inj hhead
  refine ⟨rfl, ?_⟩
  have hdigits := List.append_cancel_left (List.append_cancel_right h.2)
  rw [List.cons.injEq, Nat.toList_repr, Nat.toList_repr] at hdigits
  have hsame := congrArg (Nat.ofDigitChars 10 · 0) hdigits.2
  rwa [Nat.ofDigitChars_toDigits (by decide) (by decide),
    Nat.ofDigitChars_toDigits (by decide) (by decide)] at hsame

namespace Session

/-- The keys of some values of a kind, without repetitions. -/
def keysOf (kind : Kind) (values : List (List Char)) : List (Kind × List Char) :=
  (values.map (key kind)).eraseDups

/-- The values of a kind that have a number are those with these keys. -/
structure Numbers (s : Session) (kind : Kind) (keys : List (Kind × List Char)) : Prop where
  /-- The counter of the kind counts them. -/
  counted : s.counters kind = keys.length
  /-- No other values of the kind have a number. -/
  known : ∀ v, (s.assigned.lookup (key kind v)).isSome ↔ key kind v ∈ keys
  /-- The numbers are the places of the keys. -/
  placed : ∀ v, key kind v ∈ keys → s.number kind v = keys.idxOf (key kind v) + 1

/-- A session has replaced these values, in this order for each kind. -/
def Replaced (s : Session) (values : Kind → List (List Char)) : Prop :=
  ∀ kind, s.Numbers kind (keysOf kind (values kind))

/-- A later session has kept all numbers. -/
def Grows (s later : Session) : Prop :=
  ∀ k n, s.assigned.lookup k = some n → later.assigned.lookup k = some n

variable {values : Kind → List (List Char)} {k : Kind × List Char}

/-! #### One value -/

/-- A value that has a number changes nothing. -/
lemma remember_of_known (h : (s.assigned.lookup (key kind v)).isSome) : s.remember kind v = s := by
  obtain ⟨n, hn⟩ := Option.isSome_iff_exists.mp h
  unfold remember
  rw [hn]

/-- A value that has no number is given the next one. -/
lemma remember_of_unknown (h : s.assigned.lookup (key kind v) = none) : s.remember kind v =
    ⟨(key kind v, s.counters kind + 1) :: s.assigned,
      fun k => if k = kind then s.counters kind + 1 else s.counters k⟩ := by
  unfold remember
  rw [h]

/-- A value that is replaced has a number then. -/
lemma isSome_lookup_remember (s : Session) (kind : Kind) (v : List Char) :
    ((s.remember kind v).assigned.lookup (key kind v)).isSome := by
  rcases h : s.assigned.lookup (key kind v) with _ | n
  · rw [remember_of_unknown h, List.lookup_cons_self]
    rfl
  · rw [remember_of_known (h ▸ rfl), h]
    rfl

/-- Replacing a value leaves the numbers of the others. -/
lemma lookup_remember_of_ne (s : Session) (hk : k ≠ key kind v) :
    (s.remember kind v).assigned.lookup k = s.assigned.lookup k := by
  rcases h : s.assigned.lookup (key kind v) with _ | n
  · rw [remember_of_unknown h, List.lookup_cons, beq_eq_false_iff_ne.mpr hk]
  · rw [remember_of_known (h ▸ rfl)]

/-- Replacing a value keeps all numbers. -/
lemma grows_remember (s : Session) (kind : Kind) (v : List Char) : s.Grows (s.remember kind v) := by
  intro k n hn
  by_cases hk : k = key kind v
  · subst hk
    rwa [remember_of_known (hn ▸ rfl)]
  · rwa [lookup_remember_of_ne s hk]

lemma Grows.refl (s : Session) : s.Grows s := fun _ _ h => h

lemma Grows.trans {t u : Session} (h : s.Grows t) (h' : t.Grows u) : s.Grows u :=
  fun k n hn => h' k n (h k n hn)

/-- A value that has a number keeps it. -/
lemma Grows.number_eq (h : s.Grows s') (hv : (s.assigned.lookup (key kind v)).isSome) :
    s'.number kind v = s.number kind v := by
  obtain ⟨n, hn⟩ := Option.isSome_iff_exists.mp hv
  unfold number
  rw [hn, h _ _ hn]

/-! #### All values so far -/

namespace Numbers

variable {keys : List (Kind × List Char)}

/-- Replacing a value of another kind leaves the numbers of a kind. -/
lemma remember_other (h : s.Numbers kind keys) (hne : kind ≠ kind') (v : List Char) :
    (s.remember kind' v).Numbers kind keys := by
  have hlookup : ∀ u, (s.remember kind' v).assigned.lookup (key kind u) =
      s.assigned.lookup (key kind u) :=
    fun u => lookup_remember_of_ne s fun heq => hne (key_inj.mp heq).1
  refine ⟨?_, fun u => ?_, fun u hu => ?_⟩
  · rcases hv : s.assigned.lookup (key kind' v) with _ | n
    · rw [remember_of_unknown hv]
      exact (if_neg hne).trans h.counted
    · rw [remember_of_known (hv ▸ rfl), h.counted]
  · rw [hlookup, h.known]
  · rw [number, hlookup]
    exact h.placed u hu

/-- A value that is replaced for the first time is given the next place. -/
lemma remember_new (h : s.Numbers kind keys) (hv : key kind v ∉ keys) :
    (s.remember kind v).Numbers kind (keys ++ [key kind v]) := by
  have hunknown : s.assigned.lookup (key kind v) = none :=
    Option.not_isSome_iff_eq_none.mp (mt (h.known v).mp hv)
  have hsame : (s.remember kind v).number kind v = keys.length + 1 := by
    rw [remember_of_unknown hunknown, number, List.lookup_cons_self, Option.getD_some, h.counted]
  refine ⟨?_, fun u => ?_, fun u hu => ?_⟩
  · rw [remember_of_unknown hunknown, List.length_append, List.length_singleton, ← h.counted]
    exact if_pos rfl
  · rw [List.mem_append, List.mem_singleton]
    by_cases hu : key kind u = key kind v
    · rw [hu]
      exact iff_of_true (s.isSome_lookup_remember kind v) (.inr rfl)
    · rw [lookup_remember_of_ne s hu, h.known, or_iff_left hu]
  · by_cases heq : key kind u = key kind v
    · have hnumber : (s.remember kind v).number kind u = (s.remember kind v).number kind v := by
        rw [number, number, heq]
      rw [hnumber, hsame, heq, List.idxOf_append_of_notMem hv, List.idxOf_cons_self, Nat.add_zero]
    · have hold : key kind u ∈ keys := by
        rw [List.mem_append, List.mem_singleton] at hu
        exact hu.resolve_right heq
      rw [List.idxOf_append_of_mem hold, ← h.placed u hold, number, number,
        lookup_remember_of_ne s heq]

end Numbers

/-- Nothing has been replaced at first. -/
lemma replaced_start : Replaced {} fun _ => [] := fun _ =>
  ⟨rfl, fun _ => by simp [keysOf], fun _ h => nomatch h⟩

namespace Replaced

lemma congr {values' : Kind → List (List Char)} (h : s.Replaced values)
    (heq : ∀ kind, values kind = values' kind) : s.Replaced values' :=
  fun kind => heq kind ▸ h kind

/-- The values that have been replaced are among the keys. -/
lemma key_mem_keysOf (hv : v ∈ values kind) : key kind v ∈ keysOf kind (values kind) :=
  List.mem_eraseDups.mpr (List.mem_map_of_mem hv)

/-- The values that have been replaced have a number. -/
lemma isSome_lookup (h : s.Replaced values) (hv : v ∈ values kind) :
    (s.assigned.lookup (key kind v)).isSome :=
  ((h kind).known v).mpr (key_mem_keysOf hv)

/-- One more value is replaced. -/
lemma remember (h : s.Replaced values) (kind : Kind) (v : List Char) :
    (s.remember kind v).Replaced fun k => values k ++ if kind = k then [v] else [] := by
  intro k
  dsimp only
  by_cases hk : kind = k
  · subst hk
    have hkeys : keysOf kind (values kind ++ [v]) = if key kind v ∈ keysOf kind (values kind)
        then keysOf kind (values kind) else keysOf kind (values kind) ++ [key kind v] := by
      unfold keysOf
      rw [List.map_append, List.map_singleton, eraseDups_concat]
      simp only [List.mem_eraseDups]
    rw [if_pos rfl, hkeys]
    split_ifs with hold
    · rw [remember_of_known (((h kind).known v).mpr hold)]
      exact h kind
    · exact (h kind).remember_new hold
  · rw [if_neg hk, List.append_nil]
    exact (h k).remember_other (Ne.symm hk) v

/-- Further values are replaced. -/
lemma foldl_remember (h : s.Replaced values) (kind : Kind) (more : List (List Char)) :
    (more.foldl (·.remember kind ·) s).Replaced fun k =>
      values k ++ if kind = k then more else [] := by
  induction more generalizing s values with
  | nil =>
    refine h.congr fun k => ?_
    rw [ite_self, List.append_nil]
  | cons v more ih =>
    refine (ih (h.remember kind v)).congr fun k => ?_
    rw [List.append_assoc]
    split_ifs <;> rfl

/-- The numbers of values in the order of their replacement are one, two, three and so on, apart
from repetitions. -/
lemma eraseDups_map_number (h : s.Replaced values) (kind : Kind) :
    ((values kind).map (s.number kind)).eraseDups =
      List.range' 1 ((values kind).map (key kind)).eraseDups.length := by
  rw [← eraseDups_map_idxOf, List.map_map]
  refine congrArg _ (List.map_congr_left fun v hv => ?_)
  exact (h kind).placed v (key_mem_keysOf hv)

/-- Values that have been replaced have one token if they have one kind and differ in the case of
ASCII letters only. -/
lemma token_eq_iff (h : s.Replaced values) (hv : v ∈ values kind) (hv' : v' ∈ values kind') :
    token kind (s.number kind v) = token kind' (s.number kind' v') ↔
      kind = kind' ∧ v.map Char.toLower = v'.map Char.toLower := by
  rw [token_inj]
  refine and_congr_right fun hkind => ?_
  subst hkind
  rw [(h kind).placed v (key_mem_keysOf hv), (h kind).placed v' (key_mem_keysOf hv'),
    Nat.add_right_cancel_iff, List.idxOf_inj (key_mem_keysOf hv), key_inj]
  exact and_iff_right rfl

end Replaced

/-! ### What a session writes -/

/-- Once pieces are replaced, their matches are remembered. -/
lemma replace_fst (s : Session) (kind : Kind) (pieces : List Piece) :
    (s.replace kind pieces).1 = (matchesIn pieces).foldl (·.remember kind ·) s := by
  induction pieces generalizing s with
  | nil => rfl
  | cons x pieces ih =>
    rcases x with c | value
    · exact ih s
    · exact ih (s.remember kind value)

/-- All numbers are kept while pieces are replaced. -/
lemma grows_replace (s : Session) (kind : Kind) (pieces : List Piece) :
    s.Grows (s.replace kind pieces).1 := by
  rw [replace_fst]
  induction matchesIn pieces generalizing s with
  | nil => exact .refl s
  | cons v values ih => exact (s.grows_remember kind v).trans (ih _)

/-- The numbers in the text are those that the values have in the end. -/
lemma replace_text (s : Session) (kind : Kind) (pieces : List Piece) :
    (s.replace kind pieces).2.1 =
      pieces.flatMap (Piece.written (s.replace kind pieces).1.number kind) := by
  induction pieces generalizing s with
  | nil => rfl
  | cons x pieces ih =>
    rcases x with c | value
    · exact congrArg (c :: ·) (ih s)
    · have hnumber := ((s.remember kind value).grows_replace kind pieces).number_eq
        (s.isSome_lookup_remember kind value)
      rw [replace, List.flatMap_cons, Piece.written, hnumber, ← ih]

/-- A session has gone through a text as far as these parts: it has replaced what is masked in them
besides other values, and it has written them. -/
structure Reaches (values : Kind → List (List Char)) (run : Session × Redaction) (ps : List Part) :
    Prop where
  replaced : run.1.Replaced fun kind => values kind ++ valuesOf kind ps
  text : run.2.text = written run.1.number ps

namespace Reaches

variable {run : Session × Redaction}

/-- At first nothing of a text is replaced. -/
lemma start (h : s.Replaced values) (text : List Char) (n : ℕ) :
    Reaches values (s, ⟨text, n⟩) (text.map .kept) where
  replaced := by
    simpa only [valuesOf_kept, List.append_nil] using h
  text := by
    have htext : written s.number (text.map .kept ++ []) = text ++ written s.number [] :=
      written_kept_append
    rw [List.append_nil] at htext
    exact (htext.trans (List.append_nil text)).symm

/-- What has been written is written with the numbers of any later session. -/
lemma written_later (h : Reaches values run ps) (hlater : run.1.Grows s) :
    run.2.text = written s.number ps := by
  rw [h.text]
  refine written_congr fun kind v hv => ?_
  exact (hlater.number_eq (h.replaced.isSome_lookup (List.mem_append_right _ hv))).symm

/-- The matches that a rule finds are those that it masks. -/
lemma matchesIn_pieces (h : Reaches values run ps) (hfresh : valuesOf kind ps = []) :
    matchesIn (kind.pattern.pieces run.2.text) = valuesOf kind (pass kind none ps) := by
  rw [h.text]
  exact (passes_pass kind none ps).matchesIn_scan (renders_written _ ps) rfl hfresh

/-- A rule replaces the matches of its kind. -/
lemma redactKind (h : Reaches values run ps) (hfresh : valuesOf kind ps = []) :
    Reaches values (run.1.redactKind run.2 kind) (pass kind none ps) where
  replaced := by
    have hreplaced := h.replaced.foldl_remember kind (matchesIn (kind.pattern.pieces run.2.text))
    rw [← replace_fst, h.matchesIn_pieces hfresh] at hreplaced
    refine hreplaced.congr fun k => ?_
    rw [List.append_assoc]
    by_cases hk : kind = k
    · subst hk
      rw [if_pos rfl, hfresh]
      rfl
    · rw [if_neg hk, List.append_nil, (passes_pass kind none ps).valuesOf_other hk]
  text := by
    have hlater := h.written_later (run.1.grows_replace kind (kind.pattern.pieces run.2.text))
    have hpieces : (run.1.redactKind run.2 kind).2.text =
        (kind.pattern.scan none run.2.text).flatMap
          (Piece.written (run.1.redactKind run.2 kind).1.number kind) :=
      run.1.replace_text kind (kind.pattern.pieces run.2.text)
    have hwritten := (passes_pass kind none ps).written_eq rfl
      (run.1.redactKind run.2 kind).1.number
    rw [hpieces, hwritten]
    exact congrArg (fun cs => List.flatMap _ (kind.pattern.scan none cs)) hlater

/-- Rules replace the matches of their kinds. -/
lemma foldl_redactKind {kinds : List Kind} (h : Reaches values run ps) (hnodup : kinds.Nodup)
    (hfresh : ∀ kind ∈ kinds, valuesOf kind ps = []) :
    Reaches values (kinds.foldl (fun (s, r) kind => s.redactKind r kind) run)
      (passAll kinds ps) := by
  induction kinds generalizing run ps with
  | nil => exact h
  | cons kind kinds ih =>
    obtain ⟨hnew, hnodup⟩ := List.nodup_cons.mp hnodup
    obtain ⟨hkind, hrest⟩ := List.forall_mem_cons.mp hfresh
    refine ih (h.redactKind hkind) hnodup fun other hother => ?_
    have hne : kind ≠ other := fun heq => hnew (heq ▸ hother)
    exact ((passes_pass kind none ps).valuesOf_other hne).trans (hrest other hother)

end Reaches

/-! ### Texts one after the other -/

/-- Texts redacted one after the other in one session. -/
def redactEach : Session → List (List Char) → Session × List Redaction
  | s, [] => (s, [])
  | s, text :: texts =>
    let (s, r) := s.redact text
    let (s, rs) := redactEach s texts
    (s, r :: rs)

/-- What the rules before that of a kind make of a text. -/
def redactBefore (s : Session) (kind : Kind) (text : List Char) : Session × Redaction :=
  (Kind.all.takeWhile (· != kind)).foldl (fun (s, r) kind => s.redactKind r kind) (s, ⟨text, 0⟩)

/-- All numbers are kept while texts are redacted. -/
lemma grows_redact (s : Session) (text : List Char) : s.Grows (s.redact text).1 := by
  have hkinds : ∀ (kinds : List Kind) (run : Session × Redaction), run.1.Grows
      (kinds.foldl (fun (s, r) kind => s.redactKind r kind) run).1 := by
    intro kinds
    induction kinds with
    | nil => exact fun run => .refl run.1
    | cons kind kinds ih =>
      intro run
      have hfirst := run.1.grows_replace kind (kind.pattern.pieces run.2.text)
      exact hfirst.trans (ih (run.1.redactKind run.2 kind))
  exact hkinds Kind.all (s, ⟨text, 0⟩)

lemma grows_redactEach (s : Session) (texts : List (List Char)) :
    s.Grows (s.redactEach texts).1 := by
  induction texts generalizing s with
  | nil => exact .refl s
  | cons text texts ih => exact (s.grows_redact text).trans (ih _)

/-- A session goes through a whole text. -/
lemma reaches_redact (h : s.Replaced values) (text : List Char) :
    Reaches values (s.redact text) (parts text) :=
  (Reaches.start h text 0).foldl_redactKind (by decide) fun _ _ => valuesOf_kept

/-- What a session has replaced after some texts is what is masked in their parts, and it has
written the parts with the numbers that it has in the end. -/
lemma redactEach_shows (h : s.Replaced values) (texts : List (List Char)) :
    (s.redactEach texts).1.Replaced (fun kind =>
      values kind ++ texts.flatMap fun text => valuesOf kind (parts text)) ∧
    List.Forall₂ (fun text r => r.text = written (s.redactEach texts).1.number (parts text) ∧
      r.replaced = masks (parts text)) texts (s.redactEach texts).2 := by
  induction texts generalizing s values with
  | nil =>
    refine ⟨h.congr fun kind => (List.append_nil _).symm, .nil⟩
  | cons text texts ih =>
    have hreaches := reaches_redact h text
    obtain ⟨hreplaced, htexts⟩ := ih hreaches.replaced
    refine ⟨hreplaced.congr fun kind => List.append_assoc _ _ _, .cons ⟨?_, ?_⟩ htexts⟩
    · exact hreaches.written_later ((s.redact text).1.grows_redactEach texts)
    · exact (s.shows_redact text).replaced

/-- The values of a kind that are masked in a text are the matches of its rule in what the rules
before it make of the text. -/
lemma matchesIn_redactBefore (s : Session) (kind : Kind) (text : List Char) :
    matchesIn (kind.pattern.pieces (s.redactBefore kind text).2.text) =
      valuesOf kind (parts text) := by
  have hother : ∀ (kinds : List Kind) (ps : List Part), kind ∉ kinds →
      valuesOf kind (passAll kinds ps) = valuesOf kind ps := by
    intro kinds
    induction kinds with
    | nil => exact fun ps _ => rfl
    | cons other kinds ih =>
      intro ps hkinds
      rw [List.mem_cons, not_or] at hkinds
      exact (ih _ hkinds.2).trans
        ((passes_pass other none ps).valuesOf_other (Ne.symm hkinds.1))
  obtain ⟨later, hall, hbefore, hlater⟩ : ∃ later,
      Kind.all = Kind.all.takeWhile (· != kind) ++ kind :: later ∧
        kind ∉ Kind.all.takeWhile (· != kind) ∧ kind ∉ later := by
    cases kind
    · exact ⟨[.ssn, .phone], rfl, by decide, by decide⟩
    · exact ⟨[.phone], rfl, by decide, by decide⟩
    · exact ⟨[], rfl, by decide, by decide⟩
  set ps := passAll (Kind.all.takeWhile (· != kind)) (text.map .kept) with hps
  have hparts : parts text = passAll later (pass kind none ps) := by
    unfold parts
    rw [hall]
    unfold passAll
    rw [List.foldl_append, List.foldl_cons]
    rfl
  have hshows : (s.redactBefore kind text).2.Shows ps := by
    have hstart : Redaction.Shows ⟨text, 0⟩ (text.map .kept) :=
      ⟨.of_kept text, (masks_kept text).symm⟩
    exact List.foldl_rel (r := fun (run : Session × Redaction) ps => run.2.Shows ps) hstart
      fun kind _ run _ h => h.redactKind run.1 kind
  have hfresh : valuesOf kind ps = [] := (hother _ _ hbefore).trans valuesOf_kept
  rw [hparts, hother later _ hlater]
  exact (passes_pass kind none ps).matchesIn_scan hshows.text rfl hfresh

/-- A session numbers values one to one, whatever texts it redacts.  Each text has parts, and what
is masked of a kind are the matches of its rule; the text is written with a token for each of them
and without any other change.  Two matches, in one text or in two, have the same token if and only
if they have the same kind and differ in the case of ASCII letters only.  The tokens of a kind are
numbered without gaps in the order in which values are first replaced. -/
theorem redactEach_numbers (texts : List (List Char)) :
    let run := redactEach {} texts
    let replaced := fun kind => texts.flatMap fun text => valuesOf kind (parts text)
    List.Forall₂ (fun text r => (parts text).flatMap Part.chars = text ∧
      r.text = written run.1.number (parts text) ∧ r.replaced = masks (parts text)) texts run.2 ∧
    (∀ (s : Session) (kind : Kind) (text : List Char),
      matchesIn (kind.pattern.pieces (s.redactBefore kind text).2.text) =
        valuesOf kind (parts text)) ∧
    (∀ kind, ∀ v ∈ replaced kind, ∀ kind', ∀ v' ∈ replaced kind',
      (token kind (run.1.number kind v) = token kind' (run.1.number kind' v') ↔
        kind = kind' ∧ v.map Char.toLower = v'.map Char.toLower)) ∧
    ∀ kind, ((replaced kind).map (run.1.number kind)).eraseDups =
      List.range' 1 ((replaced kind).map (key kind)).eraseDups.length := by
  intro run replaced
  obtain ⟨hreplaced, htexts⟩ := redactEach_shows replaced_start texts
  have hreplaced : run.1.Replaced replaced := hreplaced
  refine ⟨?_, matchesIn_redactBefore, ?_, hreplaced.eraseDups_map_number⟩
  · exact htexts.imp fun text r h => ⟨flatMap_chars_parts text, h⟩
  · intro kind v hv kind' v' hv'
    exact hreplaced.token_eq_iff hv hv'

end Session

end Dossier.Pii

namespace Dossier.Policy

/-- The standard policy redacts its texts one after the other in one session. -/
lemma map_text_redactIn (s : Pii.Session) (items : List RedactionItem) :
    (redactIn s items).map (·.text.toList) =
      (s.redactEach (items.map (·.text.toList))).2.map (·.text) := by
  induction items generalizing s with
  | nil => rfl
  | cons item items ih =>
    rw [redactIn, List.map_cons, ih, String.toList_ofList, List.map_cons, Pii.Session.redactEach,
      List.map_cons]

end Dossier.Policy
