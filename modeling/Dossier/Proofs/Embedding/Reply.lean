import Mathlib
import Dossier.Embedding.Client
import Dossier.Proofs.Work

/-!
# Which text a vector belongs to

The client accepts a reply with as many items as there are texts, and it gives the vectors of the
items in the order of their numbers, items of one number in the order of the reply
(`Embedding.vectors_eq_ok_iff`).  Nothing is checked of the numbers themselves: a vector stands at
the number of its item, for all items, if and only if every text has an item.
-/

namespace Dossier.Embedding

variable {items items' : List Json} {item : Json} {v v' : Vec} {vs vs' : List Vec}
  {k l n place : ℕ}

/-! ### Items -/

/-- An item carries a vector: its array holds numbers, and the components are these numbers rounded
to single precision. -/
def Carries (item : Json) (v : Vec) : Prop :=
  ∃ numbers : List JsonNumber, arrayField? "embedding" item = some (numbers.map .num) ∧
    v = numbers.map fun number => number.toDouble.convert

/-- Does an item name the number of its text? -/
def namesText (item : Json) : Bool :=
  match item.field? "index" with
  | some (.num (.int i)) => 0 ≤ i
  | _ => false

/-- The number that an item names is not negative. -/
lemma exists_of_namesText (h : namesText item) :
    ∃ i : Int, item.field? "index" = some (.num (.int i)) ∧ 0 ≤ i := by
  unfold namesText at h
  split at h
  · rename_i i hfield
    exact ⟨i, hfield, of_decide_eq_true h⟩
  · cases h

/-- An item that names its text belongs to it wherever the item stands. -/
lemma indexOf_eq_of_namesText (h : namesText item) (k l : ℕ) :
    indexOf k item = indexOf l item := by
  obtain ⟨i, hfield, hi⟩ := exists_of_namesText h
  unfold indexOf
  rw [hfield]
  dsimp only
  rw [if_pos hi, if_pos hi]

/-- An array is read if it holds numbers, each of which is rounded. -/
lemma mapM_component_eq_ok_iff {values : List Json} : values.mapM component = .ok v ↔
    ∃ numbers : List JsonNumber, values = numbers.map .num ∧
      v = numbers.map fun number => number.toDouble.convert := by
  rw [mapM_eq_ok_iff]
  induction values generalizing v with
  | nil =>
    constructor
    · intro h
      exact ⟨[], rfl, List.map_eq_nil_iff.mp h.symm⟩
    · rintro ⟨numbers, hnumbers, rfl⟩
      rw [List.map_eq_nil_iff.mp hnumbers.symm]
      rfl
  | cons value values ih =>
    constructor
    · intro h
      obtain ⟨x, v, rfl, hx, hv⟩ := List.map_eq_cons_iff.mp h.symm
      obtain ⟨numbers, rfl, rfl⟩ := ih.mp hv.symm
      unfold component at hx
      split at hx
      · rename_i number
        cases hx
        exact ⟨number :: numbers, rfl, rfl⟩
      · cases hx
    · rintro ⟨numbers, hnumbers, rfl⟩
      obtain ⟨number, numbers, rfl, rfl, hvalues⟩ := List.map_eq_cons_iff.mp hnumbers.symm
      rw [List.map_cons, List.map_cons, List.map_cons, ih.mpr ⟨numbers, hvalues.symm, rfl⟩]
      rfl

/-- An item is read if it carries a vector, and it belongs to the text of its number. -/
lemma readItem_eq_ok_iff {entry : ℕ × Vec} : readItem place item = .ok entry ↔
    entry.1 = indexOf place item ∧ Carries item entry.2 := by
  obtain ⟨i, v⟩ := entry
  have hcarries : Carries item v ↔
      ∃ values, arrayField? "embedding" item = some values ∧ values.mapM component = .ok v := by
    unfold Carries
    constructor
    · rintro ⟨numbers, harray, hv⟩
      exact ⟨_, harray, mapM_component_eq_ok_iff.mpr ⟨numbers, rfl, hv⟩⟩
    · rintro ⟨values, harray, hread⟩
      obtain ⟨numbers, rfl, hv⟩ := mapM_component_eq_ok_iff.mp hread
      exact ⟨numbers, harray, hv⟩
  rw [hcarries]
  unfold readItem
  rcases arrayField? "embedding" item with _ | values
  · simp
  · dsimp only
    rcases hread : values.mapM component with e | v'
    · simp [Except.map, hread]
    · simp [Except.map, hread, eq_comm]

/-- Items are read if each of them is. -/
lemma readItems_eq_ok_iff {entries : List (ℕ × Vec)} : readItems place items = .ok entries ↔
    List.Forall₂ (fun x entry => readItem x.2 x.1 = .ok entry) (items.zipIdx place) entries := by
  induction items generalizing place entries with
  | nil =>
    rw [List.zipIdx_nil, List.forall₂_nil_left_iff, readItems, Except.ok.injEq, eq_comm]
  | cons item items ih =>
    rw [List.zipIdx_cons, List.forall₂_cons_left_iff]
    simp only [← ih]
    rw [readItems]
    rcases readItem place item with e | entry
    · simp [bind, Except.bind]
    · rcases readItems (place + 1) items with e | more
      · simp [bind, Except.bind]
      · simp [bind, Except.bind, pure, Except.pure, eq_comm]

/-- Items that carry vectors are read. -/
lemma exists_readItems_eq_ok (h : ∀ item ∈ items, ∃ v, Carries item v) (place : ℕ) :
    ∃ entries, readItems place items = .ok entries := by
  induction items generalizing place with
  | nil => exact ⟨[], rfl⟩
  | cons item items ih =>
    obtain ⟨⟨v, hv⟩, hrest⟩ := List.forall_mem_cons.mp h
    obtain ⟨entries, hentries⟩ := ih hrest (place + 1)
    refine ⟨(indexOf place item, v) :: entries, readItems_eq_ok_iff.mpr ?_⟩
    rw [List.zipIdx_cons]
    exact .cons (readItem_eq_ok_iff.mpr ⟨rfl, hv⟩) (readItems_eq_ok_iff.mp hentries)

/-- What is read at a place is the vector of the item there. -/
lemma exists_item_of_readItems {entries : List (ℕ × Vec)} (h : readItems 0 items = .ok entries)
    {entry : ℕ × Vec} (hentry : entries[place]? = some entry) :
    ∃ item, items[place]? = some item ∧ entry.1 = indexOf place item ∧ Carries item entry.2 := by
  obtain ⟨hlength, hread⟩ := List.forall₂_iff_get.mp (readItems_eq_ok_iff.mp h)
  obtain ⟨hplace, rfl⟩ := List.getElem?_eq_some_iff.mp hentry
  have hplace' : place < (items.zipIdx).length := by rw [hlength]; exact hplace
  have hitem := hread place hplace' hplace
  rw [List.length_zipIdx] at hplace'
  rw [List.get_eq_getElem, List.getElem_zipIdx, Nat.zero_add, List.get_eq_getElem] at hitem
  exact ⟨items[place], List.getElem?_eq_getElem hplace', readItem_eq_ok_iff.mp hitem⟩

/-! ### The order of the vectors -/

/-- The number of the text that the item at a place belongs to. -/
def number (items : List Json) (place : ℕ) : ℕ := (items[place]?).elim place (indexOf place)

/-- The item at a place comes before the one at another: its number is less, or it is the same and
the place is earlier. -/
def Before (items : List Json) (k l : ℕ) : Prop :=
  number items k < number items l ∨ number items k = number items l ∧ k < l

/-- The vectors that the items of a reply carry, in the order of their numbers. -/
def Listed (items : List Json) (vs : List Vec) : Prop :=
  ∃ places : List ℕ, places.Perm (List.range items.length) ∧ places.Pairwise (Before items) ∧
    List.Forall₂ (fun place v => ∃ item, items[place]? = some item ∧ Carries item v) places vs

/-- The number of the item at a place. -/
lemma number_eq (h : items[place]? = some item) : number items place = indexOf place item := by
  unfold number
  rw [h]
  rfl

/-- An item carries one vector. -/
lemma Carries.unique (h : Carries item v) (h' : Carries item v') : v = v' := by
  obtain ⟨numbers, harray, rfl⟩ := h
  obtain ⟨numbers', harray', rfl⟩ := h'
  rw [harray, Option.some.injEq] at harray'
  have hinj : Function.Injective Json.num := fun _ _ => Json.num.inj
  rw [hinj.list_map harray']

namespace Listed

/-- Every item has a vector. -/
lemma length_eq (h : Listed items vs) : vs.length = items.length := by
  obtain ⟨places, hperm, -, hcarries⟩ := h
  rw [← hcarries.length_eq, hperm.length_eq, List.length_range]

/-- Every item carries a vector. -/
lemma exists_carries (h : Listed items vs) (hitem : item ∈ items) : ∃ v, Carries item v := by
  obtain ⟨places, hperm, -, hcarries⟩ := h
  obtain ⟨place, hplace, rfl⟩ := List.mem_iff_getElem.mp hitem
  have hmem : place ∈ places := hperm.mem_iff.mpr (List.mem_range.mpr hplace)
  obtain ⟨i, hi, hget⟩ := List.mem_iff_getElem.mp hmem
  obtain ⟨hlength, hall⟩ := List.forall₂_iff_get.mp hcarries
  obtain ⟨item, hitem, hv⟩ := hall i hi (hlength ▸ hi)
  rw [List.get_eq_getElem, hget, List.getElem?_eq_getElem hplace, Option.some.injEq] at hitem
  rw [hitem]
  exact ⟨_, hv⟩

/-- The order of the vectors is determined. -/
lemma unique (h : Listed items vs) (h' : Listed items vs') : vs = vs' := by
  obtain ⟨places, hperm, hbefore, hcarries⟩ := h
  obtain ⟨places', hperm', hbefore', hcarries'⟩ := h'
  obtain rfl : places = places' := by
    refine List.Perm.eq_of_pairwise ?_ hbefore hbefore' (hperm.trans hperm'.symm)
    intro k l _ _ hkl hlk
    unfold Before at hkl hlk
    omega
  refine List.right_unique_forall₂' ?_ hcarries hcarries'
  rintro place v v' ⟨item, hitem, hv⟩ ⟨item', hitem', hv'⟩
  rw [hitem, Option.some.injEq] at hitem'
  exact hv.unique (hitem' ▸ hv')

end Listed

/-- What is read of a reply and sorted by the numbers is in the order of the numbers, because the
sort keeps items of one number as they stand. -/
lemma listed_of_readItems {entries : List (ℕ × Vec)} (h : readItems 0 items = .ok entries) :
    Listed items ((entries.mergeSort fun a b => a.1 ≤ b.1).map (·.2)) := by
  set le : ℕ × Vec → ℕ × Vec → Bool := fun a b => decide (a.1 ≤ b.1) with hle
  set sorted := entries.zipIdx.mergeSort (List.zipIdxLE le) with hsorted
  have hlength : entries.length = items.length := by
    have hread := (readItems_eq_ok_iff.mp h).length_eq
    rw [List.length_zipIdx] at hread
    exact hread.symm
  have hperm : (sorted.map (·.2)).Perm (List.range items.length) := by
    have hzip := (List.mergeSort_perm entries.zipIdx (List.zipIdxLE le)).map (·.2)
    rw [List.zipIdx_map_snd, hlength, ← List.range_eq_range'] at hzip
    exact hzip
  have hitem : ∀ x ∈ sorted, ∃ item, items[x.2]? = some item ∧ x.1.1 = indexOf x.2 item ∧
      Carries item x.1.2 := by
    intro x hx
    rw [hsorted, List.mem_mergeSort, List.mem_zipIdx_iff_getElem?] at hx
    exact exists_item_of_readItems h hx
  have htrans : ∀ a b c, le a b → le b c → le a c := by
    intro a b c hab hbc
    rw [hle, decide_eq_true_eq] at hab hbc ⊢
    exact Nat.le_trans hab hbc
  have htotal : ∀ a b, le a b || le b a := by
    intro a b
    rw [hle, Bool.or_eq_true, decide_eq_true_eq, decide_eq_true_eq]
    exact Nat.le_total _ _
  refine ⟨sorted.map (·.2), hperm, ?_, ?_⟩
  · have hnodup : (sorted.map (·.2)).Nodup := hperm.nodup_iff.mpr List.nodup_range
    rw [List.Nodup, List.pairwise_map] at hnodup
    rw [List.pairwise_map]
    have hpairs := List.pairwise_mergeSort (List.zipIdxLE_trans htrans)
      (List.zipIdxLE_total htotal) entries.zipIdx
    refine (hpairs.and hnodup).imp_of_mem fun {x y} hx hy hxy => ?_
    obtain ⟨item, hxitem, hxnumber, -⟩ := hitem x hx
    obtain ⟨item', hyitem, hynumber, -⟩ := hitem y hy
    obtain ⟨hxy, hne⟩ := hxy
    unfold Before
    rw [number_eq hxitem, number_eq hyitem, ← hxnumber, ← hynumber]
    unfold List.zipIdxLE at hxy
    simp only [hle, decide_eq_true_eq] at hxy
    split at hxy
    · split at hxy
      · rw [decide_eq_true_eq] at hxy
        omega
      · omega
    · cases hxy
  · rw [← List.mergeSort_zipIdx, List.map_map, List.forall₂_map_left_iff,
      List.forall₂_map_right_iff, List.forall₂_same]
    intro x hx
    obtain ⟨item, hxitem, -, hcarries⟩ := hitem x hx
    exact ⟨item, hxitem, hcarries⟩

/-- The vectors of a reply to `n` texts are those of its items in the order of the numbers, if there
are `n` items and each of them carries a vector. -/
theorem vectors_eq_ok_iff {reply : Json} : vectors n reply = .ok vs ↔
    ∃ items, arrayField? "data" reply = some items ∧ items.length = n ∧ Listed items vs := by
  unfold vectors
  rcases arrayField? "data" reply with _ | items
  · simp
  dsimp only
  constructor
  · intro h
    rcases hread : readItems 0 items with e | entries
    · rw [hread] at h
      cases h
    · rw [hread] at h
      have hlisted := listed_of_readItems hread
      dsimp only [bind, Except.bind] at h
      split at h
      · cases h
      · rename_i hlength
        cases h
        exact ⟨items, rfl, hlisted.length_eq.symm.trans (not_not.mp hlength), hlisted⟩
  · rintro ⟨_, heq, rfl, hlisted⟩
    cases heq
    obtain ⟨entries, hread⟩ := exists_readItems_eq_ok (fun item => hlisted.exists_carries) 0
    have hsorted := listed_of_readItems hread
    rw [hread]
    dsimp only [bind, Except.bind]
    rw [if_neg (not_not.mpr hsorted.length_eq), hsorted.unique hlisted]

/-! ### Replies that have an item for every text -/

/-- The numbers of the items are those of the texts: none is left out, and none is repeated. -/
def Complete (items : List Json) : Prop :=
  (items.mapIdx indexOf).Perm (List.range items.length)

/-- None of as many numbers is repeated if none is left out. -/
lemma complete_iff : Complete items ↔
    ∀ i < items.length, ∃ place item, items[place]? = some item ∧ indexOf place item = i := by
  have hmem : ∀ i, i ∈ items.mapIdx indexOf ↔
      ∃ place item, items[place]? = some item ∧ indexOf place item = i := by
    intro i
    rw [List.mem_mapIdx]
    constructor
    · rintro ⟨place, hplace, rfl⟩
      exact ⟨place, items[place], List.getElem?_eq_getElem hplace, rfl⟩
    · rintro ⟨place, item, hitem, rfl⟩
      obtain ⟨hplace, rfl⟩ := List.getElem?_eq_some_iff.mp hitem
      exact ⟨place, hplace, rfl⟩
  simp only [← hmem]
  constructor
  · intro h i hi
    exact h.mem_iff.mpr (List.mem_range.mpr hi)
  · intro h
    have hsubset : List.range items.length ⊆ items.mapIdx indexOf := fun i hi =>
      h i (List.mem_range.mp hi)
    refine ((List.subperm_of_subset List.nodup_range hsubset).perm_of_length_le ?_).symm
    exact Nat.le_of_eq (List.length_mapIdx.trans List.length_range.symm)

/-- No text has two items if every text has one. -/
lemma Complete.place_eq (h : Complete items) {item' : Json} (hitem : items[k]? = some item)
    (hitem' : items[l]? = some item') (heq : indexOf k item = indexOf l item') : k = l := by
  have hnodup : (items.mapIdx indexOf).Nodup := h.nodup_iff.mpr List.nodup_range
  obtain ⟨hk, rfl⟩ := List.getElem?_eq_some_iff.mp hitem
  obtain ⟨hl, rfl⟩ := List.getElem?_eq_some_iff.mp hitem'
  have hk' : k < (items.mapIdx indexOf).length := by rwa [List.length_mapIdx]
  have hl' : l < (items.mapIdx indexOf).length := by rwa [List.length_mapIdx]
  have hsame : (items.mapIdx indexOf)[k] = (items.mapIdx indexOf)[l] := by
    rw [List.getElem_mapIdx, List.getElem_mapIdx, heq]
  exact (List.getElem_inj hnodup).mp hsame

namespace Listed

/-- The vectors stand at the numbers of their items if every text has an item. -/
lemma exists_item (h : Listed items vs) (hcomplete : Complete items) {i : ℕ}
    (hv : vs[i]? = some v) :
    ∃ place item, items[place]? = some item ∧ indexOf place item = i ∧ Carries item v := by
  obtain ⟨places, hperm, hbefore, hcarries⟩ := h
  -- The numbers ascend along the vectors, and they are those of the texts.
  have hnumbers : places.map (number items) = List.range items.length := by
    have hall : (List.range items.length).map (number items) = items.mapIdx indexOf := by
      refine List.ext_getElem (by simp) fun k hk hk' => ?_
      rw [List.length_mapIdx] at hk'
      rw [List.getElem_map, List.getElem_range, List.getElem_mapIdx,
        number_eq (List.getElem?_eq_getElem hk')]
    have hsorted : (places.map (number items)).Pairwise (· ≤ ·) := by
      rw [List.pairwise_map]
      refine hbefore.imp fun hkl => ?_
      unfold Before at hkl
      omega
    have hrange : (List.range items.length).Pairwise (· ≤ ·) :=
      List.pairwise_lt_range.imp Nat.le_of_lt
    have hsame := hperm.map (number items)
    rw [hall] at hsame
    exact (hsame.trans hcomplete).eq_of_pairwise (fun _ _ _ _ => Nat.le_antisymm) hsorted hrange
  obtain ⟨hlength, hall⟩ := List.forall₂_iff_get.mp hcarries
  obtain ⟨hi, rfl⟩ := List.getElem?_eq_some_iff.mp hv
  obtain ⟨item, hitem, hcarried⟩ := hall i (hlength ▸ hi) hi
  refine ⟨_, item, hitem, ?_, hcarried⟩
  have hnumber : (places.map (number items))[i]? = some i := by
    rw [hnumbers, List.getElem?_range]
    rw [← hperm.length_eq.trans List.length_range, hlength]
    exact hi
  rw [List.getElem?_map, List.getElem?_eq_getElem (hlength ▸ hi), Option.map_some,
    Option.some.injEq] at hnumber
  exact (number_eq hitem).symm.trans hnumber

/-- The vectors stand at the numbers of their items if, and only if, every text has an item. -/
lemma in_place_iff (h : Listed items vs) :
    (∀ i v, vs[i]? = some v →
      ∃ place item, items[place]? = some item ∧ indexOf place item = i ∧ Carries item v) ↔
        Complete items := by
  refine ⟨fun hplaces => complete_iff.mpr fun i hi => ?_, fun hcomplete i v =>
    h.exists_item hcomplete⟩
  rw [← h.length_eq] at hi
  obtain ⟨place, item, hitem, hnumber, -⟩ := hplaces i _ (List.getElem?_eq_getElem hi)
  exact ⟨place, item, hitem, hnumber⟩

/-- If every text has an item that names it, the order of the items does not matter. -/
lemma of_perm (h : Listed items vs) (hcomplete : Complete items)
    (hnames : ∀ item ∈ items, namesText item) (hperm : items'.Perm items) : Listed items' vs := by
  have hnumbers : ∀ items : List Json, (∀ item ∈ items, namesText item) →
      items.mapIdx indexOf = items.map (indexOf 0) := by
    intro items hnames
    refine List.ext_getElem (by simp) fun k hk _ => ?_
    rw [List.length_mapIdx] at hk
    rw [List.getElem_mapIdx, List.getElem_map]
    exact indexOf_eq_of_namesText (hnames _ (List.getElem_mem hk)) k 0
  have hnames' : ∀ item ∈ items', namesText item := fun item hitem =>
    hnames item (hperm.mem_iff.mp hitem)
  have hcomplete' : Complete items' := by
    unfold Complete at hcomplete ⊢
    rw [hnumbers _ hnames] at hcomplete
    rw [hnumbers _ hnames', hperm.length_eq]
    exact (hperm.map _).trans hcomplete
  obtain ⟨entries, hread⟩ := exists_readItems_eq_ok
    (fun item hitem => h.exists_carries (hperm.mem_iff.mp hitem)) 0
  have hlisted := listed_of_readItems hread
  convert hlisted using 1
  refine List.ext_getElem ?_ fun i hi hi' => ?_
  · rw [h.length_eq, hlisted.length_eq, hperm.length_eq]
  · -- Both vectors are carried by the item for one text.
    obtain ⟨k, item, hitem, hk, hcarries⟩ :=
      h.exists_item hcomplete (List.getElem?_eq_getElem hi)
    obtain ⟨l, item', hitem', hl, hcarries'⟩ :=
      hlisted.exists_item hcomplete' (List.getElem?_eq_getElem hi')
    obtain ⟨l', hl', heq⟩ := List.mem_iff_getElem.mp
      (hperm.mem_iff.mp (List.mem_of_getElem? hitem'))
    have hsame : items[l']? = some item' := by
      rw [List.getElem?_eq_getElem hl', heq]
    have hnumber : indexOf l' item' = indexOf l item' :=
      indexOf_eq_of_namesText (hnames' _ (List.mem_of_getElem? hitem')) _ _
    obtain rfl := hcomplete.place_eq hitem hsame (hk.trans (hnumber.trans hl).symm)
    rw [hitem, Option.some.injEq] at hsame
    exact hcarries.unique (hsame ▸ hcarries')

end Listed

/-! ### The client -/

/-- The service answers the request for some texts with these items. -/
def Answers (cfg : EmbeddingConfig) (texts : List String) (exchange : Request → Reply)
    (items : List Json) : Prop :=
  ∃ sent json, request cfg texts = .ok sent ∧ (exchange sent).json? = some json ∧
    arrayField? "data" json = some items

variable {cfg : EmbeddingConfig} {texts : List String} {exchange : Request → Reply}

/-- The items of an answer are determined. -/
lemma Answers.unique (h : Answers cfg texts exchange items)
    (h' : Answers cfg texts exchange items') : items = items' := by
  obtain ⟨sent, json, hsent, hjson, hitems⟩ := h
  obtain ⟨sent', json', hsent', hjson', hitems'⟩ := h'
  rw [hsent, Except.ok.injEq] at hsent'
  rw [← hsent', hjson, Option.some.injEq] at hjson'
  rw [← hjson', hitems, Option.some.injEq] at hitems'
  exact hitems'

/-- A reply is of use if it carries a JSON value that is. -/
lemma Reply.vectors_eq_ok_iff {r : Reply} : r.vectors n = .ok vs ↔
    ∃ json, r.json? = some json ∧ Embedding.vectors n json = .ok vs := by
  unfold Reply.vectors
  rcases r.json? with _ | json
  · simp
  · dsimp only
    rcases hread : Embedding.vectors n json with e | vs'
    · simp [Except.mapError, hread]
    · simp [Except.mapError, hread]

/-- Texts are embedded if their request can be made and the reply to it is of use. -/
lemma embed_eq_ok_iff_vectors (hne : texts ≠ []) : embed cfg texts exchange = .ok vs ↔
    ∃ sent, request cfg texts = .ok sent ∧ (exchange sent).vectors texts.length = .ok vs := by
  have hsome : texts.isEmpty = false := List.isEmpty_eq_false_iff.mpr hne
  unfold embed
  rw [hsome, if_neg Bool.false_ne_true]
  rcases request cfg texts with e | sent
  · simp [bind, Except.bind]
  · simp [bind, Except.bind]

/-- Texts are embedded if the answer has as many items as there are texts and each carries a
vector. -/
lemma embed_eq_ok_iff (hne : texts ≠ []) : embed cfg texts exchange = .ok vs ↔
    ∃ items, Answers cfg texts exchange items ∧ items.length = texts.length ∧ Listed items vs := by
  rw [embed_eq_ok_iff_vectors hne]
  unfold Answers
  constructor
  · rintro ⟨sent, hsent, hvectors⟩
    obtain ⟨json, hjson, hread⟩ := Reply.vectors_eq_ok_iff.mp hvectors
    obtain ⟨items, hitems, hlength, hlisted⟩ := vectors_eq_ok_iff.mp hread
    exact ⟨items, ⟨sent, json, hsent, hjson, hitems⟩, hlength, hlisted⟩
  · rintro ⟨items, ⟨sent, json, hsent, hjson, hitems⟩, hlength, hlisted⟩
    refine ⟨sent, hsent, Reply.vectors_eq_ok_iff.mpr ⟨json, hjson, ?_⟩⟩
    exact vectors_eq_ok_iff.mpr ⟨items, hitems, hlength, hlisted⟩

/-- The client gives the vectors of an answer in the order of the numbers of its items, for every
answer with as many items as there are texts, each with a vector.  A vector stands at the number of
its item, for all items, if and only if the numbers of the items are those of the texts, each once;
and then the order of the items does not matter if they name their texts. -/
theorem embed_sorts_by_number (hne : texts ≠ []) :
    (embed cfg texts exchange = .ok vs ↔ ∃ items, Answers cfg texts exchange items ∧
      items.length = texts.length ∧ Listed items vs) ∧
    (embed cfg texts exchange = .ok vs → ∀ items, Answers cfg texts exchange items →
      vs.length = texts.length ∧
      ((∀ i v, vs[i]? = some v →
        ∃ place item, items[place]? = some item ∧ indexOf place item = i ∧ Carries item v) ↔
          Complete items) ∧
      (Complete items → (∀ item ∈ items, namesText item) → ∀ exchange' items',
        Answers cfg texts exchange' items' → items'.Perm items →
          embed cfg texts exchange' = .ok vs)) := by
  refine ⟨embed_eq_ok_iff hne, fun hvs items hanswers => ?_⟩
  obtain ⟨items', hanswers', hlength, hlisted⟩ := (embed_eq_ok_iff hne).mp hvs
  obtain rfl := hanswers.unique hanswers'
  refine ⟨hlisted.length_eq.trans hlength, hlisted.in_place_iff, ?_⟩
  intro hcomplete hnames exchange' items' hanswers' hperm
  exact (embed_eq_ok_iff hne).mpr
    ⟨items', hanswers', hperm.length_eq.trans hlength, hlisted.of_perm hcomplete hnames hperm⟩

/-- What the client gives of an answer with as many items as there are texts is what it reads,
sorted by the numbers. -/
lemma embed_eq_of_readItems (h : Answers cfg texts exchange items) (hne : texts ≠ [])
    {entries : List (ℕ × Vec)} (hread : readItems 0 items = .ok entries)
    (hlength : items.length = texts.length) :
    embed cfg texts exchange = .ok ((entries.mergeSort fun a b => a.1 ≤ b.1).map (·.2)) :=
  (embed_eq_ok_iff hne).mpr ⟨items, h, hlength, listed_of_readItems hread⟩

/-- A service on this machine, with vectors of one component. -/
def onThisMachine : EmbeddingConfig where
  providerId := "test"
  apiBase := "http://127.0.0.1:1"
  apiKey := "key"
  path := "/v1/embeddings"
  model := "test"
  dimensions := 1
  timeoutMs := 1000
  defaultHeaders := []

/-- An item that names its text and carries a vector of one component. -/
def plainItem (i component : ℕ) : Json :=
  .obj [("embedding", .arr [.nat component]), ("index", .nat i)]

/-- The text of such an item. -/
def plainText (i component : ℕ) : String :=
  "\x7b\"index\":" ++ toString i ++ ",\"embedding\":[" ++ toString component ++ "]\x7d"

/-- A service that lists the same items whatever it is asked. -/
def listing (items : List String) : Request → Reply := fun _ =>
  ⟨200, "\x7b\"data\":[" ++ ",".intercalate items ++ "]\x7d"⟩

set_option maxRecDepth 10000 in
/-- Items are an answer if the service lists them. -/
lemma answers_listing {texts : List String} (h : ∀ sent, (listing texts sent).json? =
    some (.obj [("data", .arr items)])) :
    Answers onThisMachine ["first", "second"] (listing texts) items := by
  have hsent : (request onThisMachine ["first", "second"]).toOption.isSome := by decide +kernel
  rcases hrequest : request onThisMachine ["first", "second"] with e | sent
  · rw [hrequest] at hsent
    cases hsent
  · exact ⟨sent, _, hrequest, h sent, rfl⟩

set_option maxRecDepth 10000 in
/-- Two items in the order of their texts, and the other way round. -/
theorem embed_sorts_by_number_swapped :
    let straight := listing [plainText 0 1, plainText 1 2]
    let swapped := listing [plainText 1 2, plainText 0 1]
    let texts := ["first", "second"]
    let items := [plainItem 1 2, plainItem 0 1]
    let vs : List Vec := [[Binary.ofNat 1], [Binary.ofNat 2]]
    texts ≠ [] ∧ Answers onThisMachine texts swapped items ∧
      embed onThisMachine texts swapped = .ok vs ∧ vs.length = texts.length ∧
      (∀ i v, vs[i]? = some v →
        ∃ place item, items[place]? = some item ∧ indexOf place item = i ∧ Carries item v) ∧
      embed onThisMachine texts straight = .ok vs := by
  intro straight swapped texts items vs
  have hne : texts ≠ [] := List.cons_ne_nil _ _
  have hswapped : Answers onThisMachine texts swapped items := answers_listing fun _ => by cbv
  have hstraight : Answers onThisMachine texts straight items.reverse :=
    answers_listing fun _ => by cbv
  have hread : readItems 0 items = .ok [(1, [Binary.ofNat 2]), (0, [Binary.ofNat 1])] := by
    decide +kernel
  have hvs : embed onThisMachine texts swapped = .ok vs := by
    rw [embed_eq_of_readItems hswapped hne hread rfl]
    simp [vs, List.mergeSort]
  have hcomplete : Complete items := by
    unfold Complete
    decide +kernel
  obtain ⟨hlength, hplaces, horder⟩ := (embed_sorts_by_number hne).2 hvs items hswapped
  exact ⟨hne, hswapped, hvs, hlength, hplaces.mpr hcomplete,
    horder hcomplete (by decide +kernel) straight _ hstraight (List.reverse_perm _)⟩

set_option maxRecDepth 10000 in
/-- Two items for the first of two texts are accepted, and the second text gets one of their
vectors. -/
theorem embed_accepts_repeated_number :
    let exchange := listing [plainText 0 1, plainText 0 2]
    let texts := ["first", "second"]
    let items := [plainItem 0 1, plainItem 0 2]
    Answers onThisMachine texts exchange items ∧
      embed onThisMachine texts exchange = .ok [[Binary.ofNat 1], [Binary.ofNat 2]] ∧
      ∀ place item, items[place]? = some item → indexOf place item = 0 := by
  intro exchange texts items
  have hanswers : Answers onThisMachine texts exchange items := answers_listing fun _ => by cbv
  have hread : readItems 0 items = .ok [(0, [Binary.ofNat 1]), (0, [Binary.ofNat 2])] := by
    decide +kernel
  refine ⟨hanswers, ?_, ?_⟩
  · rw [embed_eq_of_readItems hanswers (List.cons_ne_nil _ _) hread rfl]
    simp [List.mergeSort]
  · intro place item hitem
    have hnames : ∀ item ∈ items, namesText item ∧ indexOf 0 item = 0 := by decide +kernel
    obtain ⟨hname, hzero⟩ := hnames item (List.mem_of_getElem? hitem)
    exact (indexOf_eq_of_namesText hname place 0).trans hzero

end Dossier.Embedding
