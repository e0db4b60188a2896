import Mathlib.Algebra.Order.Group.Nat
import Mathlib.Data.List.Basic
import Mathlib.Data.List.Induction
import Mathlib.Order.Lattice
import Dossier.Event.Bus

/-!
# What a reader of a topic is owed

A reader of a topic takes part in two things only: payloads are published on its topic, and it asks
for the next one that it can read.  `Reading` follows these turns without any channel: it remembers
all that was published since the reader listens, up to where the reader has read, and what it got.
`Reading.Laws` says what the reader got in terms of what was published: the payloads that it has
passed, in the order in which they were published, without those that cannot be read and without
those that it missed, because more payloads than a channel keeps had been published from them on
when it asked next.
-/

namespace Dossier

/-- What a reader takes part in. -/
inductive Turn where
  | publish (payload : Json)
  | ask

/-- The payload that is published in a turn. -/
def Turn.payload? : Turn → Option Json
  | publish payload => some payload
  | ask => none

/-- Where a reader stands: what was published since it listens, up to which place it has read, and
what it got, each with the place where it was published. -/
structure Reading (α : Type) where
  published : List Json := []
  passed : Nat := 0
  delivered : List (Nat × α) := []

namespace Reading

variable {α : Type} {read : Json → Option α} {r : Reading α}

/-- The first place that a reader can still read. -/
def first (r : Reading α) : Nat := max r.passed (r.published.length - channelCapacity)

/-- What a reader can still read, the oldest first, each with its place. -/
def waiting (r : Reading α) : List (Nat × Json) :=
  (r.published.drop r.first).mapIdx fun i payload => (r.first + i, payload)

/-- What a reader gets when it asks, with its place. -/
def found? (read : Json → Option α) (r : Reading α) : Option (Nat × α) :=
  r.waiting.findSome? fun (n, payload) => (read payload).map fun a => (n, a)

/-- The reader once one more payload was published. -/
def publish (r : Reading α) (payload : Json) : Reading α :=
  { r with published := r.published ++ [payload] }

/-- The reader once it has asked. -/
def ask (read : Json → Option α) (r : Reading α) : Reading α :=
  match r.found? read with
  | some (n, a) => { r with passed := n + 1, delivered := r.delivered ++ [(n, a)] }
  | none => { r with passed := r.published.length }

/-- The reader after one more turn. -/
def turn (read : Json → Option α) (r : Reading α) : Turn → Reading α
  | .publish payload => r.publish payload
  | .ask => r.ask read

/-- The reader after some turns. -/
def after (read : Json → Option α) (turns : List Turn) : Reading α := turns.foldl (turn read) {}

/-- The reader after one more turn, from the reader after those before. -/
lemma after_append (read : Json → Option α) (turns : List Turn) (t : Turn) :
    after read (turns ++ [t]) = turn read (after read turns) t := by
  unfold after
  rw [List.foldl_append, List.foldl_cons, List.foldl_nil]

/-- Asking publishes nothing. -/
lemma published_ask (r : Reading α) : (r.ask read).published = r.published := by
  unfold ask
  rcases r.found? read with _ | ⟨n, a⟩ <;> rfl

/-- What was published in some turns. -/
lemma published_after (turns : List Turn) :
    (after read turns).published = turns.filterMap Turn.payload? := by
  induction turns using List.reverseRecOn with
  | nil => rfl
  | append_singleton turns t ih =>
    rw [after_append, List.filterMap_append, ← ih]
    cases t with
    | publish payload => rfl
    | ask => exact (published_ask _).trans (List.append_nil _).symm

/-- A reader misses a place when it asks, has not yet passed it, and more payloads than a channel
keeps were published from there on. -/
def Missed (read : Json → Option α) (turns : List Turn) (i : Nat) : Prop :=
  ∃ earlier later, turns = earlier ++ .ask :: later ∧ (after read earlier).passed ≤ i ∧
    i + channelCapacity < (after read earlier).published.length

/-! ### What a reader finds -/

/-- What waits at each place. -/
lemma getElem?_waiting (r : Reading α) (j : Nat) :
    r.waiting[j]? = r.published[r.first + j]?.map fun payload => (r.first + j, payload) := by
  unfold waiting
  rw [List.getElem?_mapIdx, List.getElem?_drop]

/-- What waits was published at its place, which the reader can still read. -/
lemma mem_waiting_iff {n : Nat} {payload : Json} :
    (n, payload) ∈ r.waiting ↔ r.first ≤ n ∧ r.published[n]? = some payload := by
  rw [List.mem_iff_getElem?]
  simp only [getElem?_waiting, Option.map_eq_some_iff, Prod.mk.injEq]
  constructor
  · rintro ⟨j, q, hq, rfl, rfl⟩
    exact ⟨Nat.le_add_right _ _, hq⟩
  · rintro ⟨hn, hp⟩
    refine ⟨n - r.first, payload, ?_, Nat.add_sub_of_le hn, rfl⟩
    rwa [Nat.add_sub_of_le hn]

/-- A reader that finds nothing cannot read anything that waits. -/
lemma unreadable_of_found?_eq_none (h : r.found? read = none) {n : Nat} {payload : Json}
    (hn : r.first ≤ n) (hp : r.published[n]? = some payload) : read payload = none := by
  have hall := List.findSome?_eq_none_iff.mp h _ (mem_waiting_iff.mpr ⟨hn, hp⟩)
  exact Option.map_eq_none_iff.mp hall

/-- A reader finds the first payload that waits and that it can read. -/
lemma of_found?_eq_some {n : Nat} {a : α} (h : r.found? read = some (n, a)) :
    r.first ≤ n ∧ (∃ payload, r.published[n]? = some payload ∧ read payload = some a) ∧
      ∀ m payload, r.first ≤ m → m < n → r.published[m]? = some payload → read payload = none := by
  obtain ⟨front, ⟨k, payload⟩, back, heq, hfound, hfront⟩ := List.findSome?_eq_some_iff.mp h
  obtain ⟨b, hread, hpair⟩ := Option.map_eq_some_iff.mp hfound
  obtain ⟨rfl, rfl⟩ := Prod.mk.inj hpair
  have hget : ∀ j, (front ++ (k, payload) :: back)[j]? =
      r.published[r.first + j]?.map fun payload => (r.first + j, payload) :=
    fun j => heq ▸ r.getElem?_waiting j
  have hplace := hget front.length
  rw [List.getElem?_append_right (Nat.le_refl _), Nat.sub_self, List.getElem?_cons_zero] at hplace
  obtain ⟨q, hq, hpair⟩ := Option.map_eq_some_iff.mp hplace.symm
  obtain ⟨rfl, rfl⟩ := Prod.mk.inj hpair
  refine ⟨Nat.le_add_right _ _, ⟨q, hq, hread⟩, ?_⟩
  intro m p hm hlt hp
  -- what waits before the place stands in front of what was found
  have hin : front[m - r.first]? = some (m, p) := by
    have h := hget (m - r.first)
    rwa [List.getElem?_append_left (by omega), Nat.add_sub_of_le hm, hp, Option.map_some] at h
  exact Option.map_eq_none_iff.mp (hfront _ (List.mem_of_getElem? hin))

/-! ### The laws of reading -/

/-- A turn misses nothing else than what it misses itself. -/
lemma missed_append_iff {turns : List Turn} {t : Turn} {i : Nat} :
    Missed read (turns ++ [t]) i ↔ Missed read turns i ∨
      (t = .ask ∧ (after read turns).passed ≤ i ∧
        i + channelCapacity < (after read turns).published.length) := by
  constructor
  · rintro ⟨earlier, later, heq, hpassed, hbehind⟩
    rcases List.eq_nil_or_concat' later with rfl | ⟨later, u, rfl⟩
    · obtain ⟨rfl, hu⟩ := List.append_inj' heq rfl
      exact .inr ⟨(List.cons.inj hu).1, hpassed, hbehind⟩
    · rw [← List.cons_append, ← List.append_assoc] at heq
      exact .inl ⟨earlier, later, (List.append_inj' heq rfl).1, hpassed, hbehind⟩
  · rintro (⟨earlier, later, rfl, hpassed, hbehind⟩ | ⟨rfl, hpassed, hbehind⟩)
    · exact ⟨earlier, later ++ [t], by rw [List.append_assoc, List.cons_append], hpassed, hbehind⟩
    · exact ⟨turns, [], rfl, hpassed, hbehind⟩

/-- What a reader got after some turns, told from what was published. -/
structure Laws (read : Json → Option α) (turns : List Turn) : Prop where
  /-- A reader has passed no more than what was published. -/
  passed_le : (after read turns).passed ≤ (after read turns).published.length
  /-- A reader has passed what it missed. -/
  missed_lt : ∀ {i}, Missed read turns i → i < (after read turns).passed
  /-- A reader gets payloads in the order in which they were published, each at most once. -/
  ordered : (after read turns).delivered.Pairwise (·.1 < ·.1)
  /-- A reader got exactly what it has passed, can read and has not missed. -/
  delivered_iff : ∀ {i a}, (i, a) ∈ (after read turns).delivered ↔
    i < (after read turns).passed ∧
    (∃ payload, (after read turns).published[i]? = some payload ∧ read payload = some a) ∧
    ¬ Missed read turns i

namespace Laws

variable {turns : List Turn}

/-- Publishing keeps the laws. -/
lemma publish (h : Laws read turns) (payload : Json) : Laws read (turns ++ [.publish payload]) := by
  have hmissed : ∀ {i}, Missed read (turns ++ [.publish payload]) i ↔ Missed read turns i := by
    intro i
    rw [missed_append_iff]
    exact ⟨fun h => h.resolve_right fun h => Turn.noConfusion h.1, .inl⟩
  have hafter := after_append read turns (.publish payload)
  refine ⟨?_, ?_, ?_, ?_⟩
  · rw [hafter]
    exact h.passed_le.trans (List.length_append.symm ▸ Nat.le_add_right _ _)
  · intro i hi
    rw [hafter]
    exact h.missed_lt (hmissed.mp hi)
  · rw [hafter]
    exact h.ordered
  · intro i a
    rw [hafter, hmissed]
    refine h.delivered_iff.trans (and_congr_right fun hi => ?_)
    show _ ↔ (∃ p, ((after read turns).published ++ [payload])[i]? = some p ∧ _) ∧ _
    rw [List.getElem?_append_left (hi.trans_le h.passed_le)]

/-- Asking keeps the laws when it finds nothing. -/
lemma ask_none (h : Laws read turns) (hfound : (after read turns).found? read = none) :
    Laws read (turns ++ [.ask]) := by
  have hafter : after read (turns ++ [.ask]) =
      { after read turns with passed := (after read turns).published.length } := by
    rw [after_append]
    show Reading.ask read _ = _
    unfold Reading.ask
    rw [hfound]
  have hpassed := h.passed_le
  refine ⟨?_, ?_, ?_, ?_⟩
  · rw [hafter]
  · intro i hi
    rw [hafter]
    rcases missed_append_iff.mp hi with hi | ⟨-, -, hi⟩
    · exact (h.missed_lt hi).trans_le hpassed
    · exact (Nat.le_add_right _ _).trans_lt hi
  · rw [hafter]
    exact h.ordered
  · intro i a
    rw [hafter, missed_append_iff]
    refine h.delivered_iff.trans ⟨?_, ?_⟩
    · rintro ⟨hi, hread, hmissed⟩
      exact ⟨hi.trans_le hpassed, hread, fun hm => hm.elim hmissed fun hm => hm.2.1.not_gt hi⟩
    · rintro ⟨-, ⟨payload, hp, hread⟩, hmissed⟩
      refine ⟨Nat.lt_of_not_le fun hi => ?_, ⟨payload, hp, hread⟩, fun hm => hmissed (.inl hm)⟩
      -- a payload that was not passed either waits, and then cannot be read, or is missed
      by_cases hbehind : i + channelCapacity < (after read turns).published.length
      · exact hmissed (.inr ⟨rfl, hi, hbehind⟩)
      · have hfirst : (after read turns).first ≤ i := max_le hi (by omega)
        exact Option.some_ne_none a
          (hread.symm.trans (unreadable_of_found?_eq_none hfound hfirst hp))

/-- Asking keeps the laws when it finds a payload. -/
lemma ask_some (h : Laws read turns) {n : Nat} {b : α}
    (hfound : (after read turns).found? read = some (n, b)) : Laws read (turns ++ [.ask]) := by
  have hafter : after read (turns ++ [.ask]) =
      { after read turns with
        passed := n + 1, delivered := (after read turns).delivered ++ [(n, b)] } := by
    rw [after_append]
    show Reading.ask read _ = _
    unfold Reading.ask
    rw [hfound]
  obtain ⟨hfirst, ⟨payload, hp, hread⟩, hnone⟩ := of_found?_eq_some hfound
  have hpassed : (after read turns).passed ≤ n := (le_max_left _ _).trans hfirst
  have hkept : (after read turns).published.length - channelCapacity ≤ n :=
    (le_max_right _ _).trans hfirst
  have hn : n < (after read turns).published.length := (List.getElem?_eq_some_iff.mp hp).1
  refine ⟨?_, ?_, ?_, ?_⟩
  · rw [hafter]
    exact hn
  · intro i hi
    rw [hafter]
    show i < n + 1
    rcases missed_append_iff.mp hi with hi | ⟨-, -, hi⟩
    · exact ((h.missed_lt hi).trans_le hpassed).trans (Nat.lt_succ_self n)
    · omega
  · rw [hafter]
    refine List.pairwise_append.mpr ⟨h.ordered, List.pairwise_singleton _ _, ?_⟩
    rintro ⟨i, a⟩ hi e he
    rw [List.mem_singleton.mp he]
    exact (h.delivered_iff.mp hi).1.trans_le hpassed
  · intro i a
    rw [hafter, missed_append_iff]
    show (i, a) ∈ (after read turns).delivered ++ [(n, b)] ↔ i < n + 1 ∧ _
    rw [List.mem_append, List.mem_singleton, Prod.mk.injEq, h.delivered_iff]
    constructor
    · rintro (⟨hi, hread, hmissed⟩ | ⟨rfl, rfl⟩)
      · exact ⟨by omega, hread, fun hm => hm.elim hmissed fun hm => hm.2.1.not_gt hi⟩
      · refine ⟨Nat.lt_succ_self i, ⟨payload, hp, hread⟩, ?_⟩
        rintro (hm | ⟨-, -, hm⟩)
        · exact (h.missed_lt hm).not_ge hpassed
        · omega
    · rintro ⟨hi, ⟨q, hq, hreadq⟩, hmissed⟩
      rcases Nat.lt_or_ge i (after read turns).passed with hlt | hge
      · exact .inl ⟨hlt, ⟨q, hq, hreadq⟩, fun hm => hmissed (.inl hm)⟩
      · -- of the places that the turn passes only the one that it found is delivered
        have hbehind : ¬ i + channelCapacity < (after read turns).published.length :=
          fun hb => hmissed (.inr ⟨rfl, hge, hb⟩)
        have hwaits : (after read turns).first ≤ i := max_le hge (by omega)
        have hin : n ≤ i := Nat.le_of_not_lt fun hlt =>
          Option.some_ne_none a (hreadq.symm.trans (hnone i q hwaits hlt hq))
        obtain rfl : i = n := by omega
        obtain rfl := Option.some.inj (hq.symm.trans hp)
        exact .inr ⟨rfl, Option.some.inj (hreadq.symm.trans hread)⟩

end Laws

/-- The laws of reading hold after all turns. -/
theorem laws (read : Json → Option α) (turns : List Turn) : Laws read turns := by
  induction turns using List.reverseRecOn with
  | nil =>
    refine ⟨Nat.le_refl _, ?_, List.Pairwise.nil, ?_⟩
    · rintro i ⟨earlier, later, heq, -⟩
      exact absurd heq.symm (by simp)
    · intro i a
      exact ⟨fun h => absurd h List.not_mem_nil, fun h => absurd h.1 (Nat.not_lt_zero i)⟩
  | append_singleton turns t ih =>
    cases t with
    | publish payload => exact ih.publish payload
    | ask =>
      rcases hfound : (after read turns).found? read with _ | ⟨n, b⟩
      · exact ih.ask_none hfound
      · exact ih.ask_some hfound

end Reading

end Dossier
