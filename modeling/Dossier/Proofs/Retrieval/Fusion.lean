import Dossier.Proofs.Number.Exact
import Dossier.Proofs.Retrieval.LexicalOnly

/-!
# The fused ranking

What fusion makes of two legs that name their records once: every record of either leg, with its
places, the sum of what they earn, and its chunks; in an order that is strict, so that no order in
which the records are collected can be seen in it; and in which a record that no leg ranks below
another comes first (`fuse_fused`).  The last is so for every constant of fusion.  For a great one
the scores of many places are the same number, but rounding never turns scores around, and the
better place decides between equal ones.
-/

namespace Dossier.Fusion

open Binary

variable {lexical vector leg : List LegHit} {k rank : ℕ} {hit hit' : FusedHit} {record a b : Id}

/-! ### Places -/

/-- The place of a record in a leg, counted from one. -/
def place? (record : Id) (leg : List LegHit) : Option ℕ :=
  (leg.findIdx? (·.record == record)).map (· + 1)

/-- The chunks of a record in a leg. -/
def chunksAt (record : Id) (leg : List LegHit) : List Id :=
  ((leg.find? (·.record == record)).map LegHit.chunks).getD []

/-- What the places of a record in the two legs earn together. -/
def earned (k : ℕ) : Option ℕ → Option ℕ → Single
  | some l, some v => contribution k l + contribution k v
  | some rank, none => contribution k rank
  | none, some rank => contribution k rank
  | none, none => Binary.zero

/-- A record has a place in a leg if the leg has it. -/
lemma isSome_place? : (place? record leg).isSome ↔ record ∈ leg.map LegHit.record := by
  unfold place?
  rw [Option.isSome_map, List.findIdx?_isSome, List.any_eq_true, List.mem_map]
  simp only [beq_iff_eq]

/-- The hit at the place of a record. -/
lemma exists_of_place? (h : rank ∈ place? record leg) :
    ∃ i hit, leg[i]? = some hit ∧ hit.record = record ∧ rank = i + 1 := by
  obtain ⟨i, hi, rfl⟩ := Option.map_eq_some_iff.mp h
  obtain ⟨hlt, heq, -⟩ := List.findIdx?_eq_some_iff_getElem.mp hi
  exact ⟨i, leg[i], List.getElem?_eq_getElem hlt, beq_iff_eq.mp heq, rfl⟩

/-- Places are counted from one. -/
lemma one_le_of_place? (h : rank ∈ place? record leg) : 1 ≤ rank := by
  obtain ⟨i, -, -, -, rfl⟩ := exists_of_place? h
  exact Nat.succ_le_succ (Nat.zero_le i)

/-- Two records have two places. -/
lemma eq_of_place? (ha : rank ∈ place? a leg) (hb : rank ∈ place? b leg) : a = b := by
  obtain ⟨i, hit, hhit, rfl, hi⟩ := exists_of_place? ha
  obtain ⟨j, hit', hhit', rfl, hj⟩ := exists_of_place? hb
  obtain rfl : i = j := by omega
  rw [hhit] at hhit'
  rw [Option.some.inj hhit']

/-- A leg that names its records once ranks a record at its place. -/
lemma ranks_eq (h : (leg.map LegHit.record).Nodup) (record : Id) :
    ranks record leg = (place? record leg).toList := by
  rcases hplace : place? record leg with _ | rank
  · have hout : record ∉ leg.map LegHit.record := by
      rw [← isSome_place?, hplace]
      exact Bool.false_ne_true
    exact ranksFrom_of_not_mem hout 1
  · obtain ⟨i, hit, hhit, rfl, rfl⟩ := exists_of_place? hplace
    have hranks := ranksFrom_of_nodup h hhit 1
    rw [Nat.add_comm] at hranks
    exact hranks

/-- A leg that names its records once names the chunks at the place of a record. -/
lemma chunksOf_eq (h : (leg.map LegHit.record).Nodup) (record : Id) :
    chunksOf record leg = chunksAt record leg := by
  rcases hfind : leg.find? (·.record == record) with _ | hit
  · have hout : record ∉ leg.map LegHit.record := by
      rintro hmem
      obtain ⟨hit, hhit, rfl⟩ := List.mem_map.mp hmem
      exact List.find?_eq_none.mp hfind hit hhit (beq_self_eq_true _)
    rw [chunksAt, hfind]
    exact chunksOf_of_not_mem hout
  · have hrecord := List.find?_some hfind
    rw [beq_iff_eq] at hrecord
    rw [chunksAt, hfind, ← hrecord]
    exact chunksOf_of_nodup h (List.mem_of_find?_eq_some hfind)

/-! ### What fusion makes of a record -/

/-- What fusion makes of a record, told by its places in the legs. -/
structure Told (lexical vector : List LegHit) (k : ℕ) (hit : FusedHit) : Prop where
  /-- It has its place in the lexical leg, if it is there. -/
  lexicalRank : hit.lexicalRank = place? hit.record lexical
  /-- It has its place in the vector leg, if it is there. -/
  vectorRank : hit.vectorRank = place? hit.record vector
  /-- It is hybrid if both legs have it. -/
  both : hit.method = .hybrid ↔
    hit.record ∈ lexical.map LegHit.record ∧ hit.record ∈ vector.map LegHit.record
  /-- It is lexical if only the lexical leg has it. -/
  onlyLexical : hit.method = .lexical ↔
    hit.record ∈ lexical.map LegHit.record ∧ hit.record ∉ vector.map LegHit.record
  /-- It is a vector hit if only the vector leg has it. -/
  onlyVector : hit.method = .vector ↔
    hit.record ∉ lexical.map LegHit.record ∧ hit.record ∈ vector.map LegHit.record
  /-- Its score is the sum of what its places earn. -/
  score : hit.score = earned k hit.lexicalRank hit.vectorRank
  /-- Its chunks are those of the lexical leg, and then those of the vector leg, each once. -/
  chunks : hit.chunks = (chunksAt hit.record lexical ++ chunksAt hit.record vector).eraseDups

/-- The last of the ranks of a record is its place. -/
lemma getLast?_ranks (h : (leg.map LegHit.record).Nodup) (record : Id) :
    (ranks record leg).getLast? = place? record leg := by
  rw [ranks_eq h]
  cases place? record leg <;> rfl

/-- The score of a record is what its places earn. -/
lemma score_eq (hlexical : (lexical.map LegHit.record).Nodup)
    (hvector : (vector.map LegHit.record).Nodup) (k : ℕ) (record : Id) :
    (fusedHit lexical vector k record).score =
      earned k (place? record lexical) (place? record vector) := by
  have hzero : ∀ {leg : List LegHit} {rank : ℕ}, rank ∈ place? record leg →
      Binary.zero + contribution k rank = contribution k rank := fun h =>
    (unsigned_contribution k (one_le_of_place? h)).zero_add fraction_pos
  unfold fusedHit
  dsimp only
  rw [ranks_eq hlexical, ranks_eq hvector, List.foldl_append]
  rcases hl : place? record lexical with _ | l
  · rw [Option.toList_none, List.foldl_nil]
    rcases hv : place? record vector with _ | v
    · rw [Option.toList_none, List.foldl_nil, earned]
    · rw [Option.toList_some, List.foldl_cons, List.foldl_nil, earned, hzero hv]
  · rw [Option.toList_some, List.foldl_cons, List.foldl_nil, hzero hl]
    rcases hv : place? record vector with _ | v
    · rw [Option.toList_none, List.foldl_nil, earned]
    · rw [Option.toList_some, List.foldl_cons, List.foldl_nil, earned]

/-- A hit of a fused ranking is told by the places of its record. -/
lemma told_of_mem_fuse (hlexical : (lexical.map LegHit.record).Nodup)
    (hvector : (vector.map LegHit.record).Nodup) (h : hit ∈ fuse lexical vector k) :
    Told lexical vector k hit := by
  have hleg := (of_mem_fuse h).1
  have hfound : hit.record ∈ lexical.map LegHit.record ∨ hit.record ∈ vector.map LegHit.record := by
    rw [← List.mem_append, ← List.map_append, List.mem_map]
    exact hleg
  have heq := eq_fusedHit_of_mem_fuse h
  have hlexicalRank : hit.lexicalRank = place? hit.record lexical := by
    rw [← getLast?_ranks hlexical, heq]
    rfl
  have hvectorRank : hit.vectorRank = place? hit.record vector := by
    rw [← getLast?_ranks hvector, heq]
    rfl
  have hmethod : hit.method = methodOf (place? hit.record lexical) (place? hit.record vector) := by
    rw [← getLast?_ranks hlexical, ← getLast?_ranks hvector, heq]
    rfl
  have hscore := score_eq hlexical hvector k hit.record
  have hchunks : hit.chunks = (chunksOf hit.record lexical ++ chunksOf hit.record vector).eraseDups := by
    rw [heq]
    rfl
  rw [← heq] at hscore
  rw [chunksOf_eq hlexical, chunksOf_eq hvector] at hchunks
  rw [← isSome_place?, ← isSome_place?] at hfound
  refine { lexicalRank := hlexicalRank, vectorRank := hvectorRank, both := ?_,
           onlyLexical := ?_, onlyVector := ?_, score := ?_, chunks := hchunks }
  · rw [hmethod, ← isSome_place?, ← isSome_place?]
    cases place? hit.record lexical <;> cases place? hit.record vector <;> simp [methodOf]
  · rw [hmethod, ← isSome_place?, ← isSome_place?]
    cases hl : place? hit.record lexical <;> cases hv : place? hit.record vector <;>
      simp [methodOf, hl, hv] at hfound ⊢
  · rw [hmethod, ← isSome_place?, ← isSome_place?]
    cases place? hit.record lexical <;> cases place? hit.record vector <;> simp [methodOf]
  · rw [hlexicalRank, hvectorRank]
    exact hscore

/-! ### The order of hits -/

/-- Does a hit rank above another: by its score, by its better place, by its record? -/
def Above (hit hit' : FusedHit) : Prop :=
  hit'.score.lt hit.score = true ∨ hit'.score = hit.score ∧
    (bestRank hit < bestRank hit' ∨
      bestRank hit = bestRank hit' ∧ hit.record.number < hit'.record.number)

/-- A hit of a fused ranking has a score without a minus sign. -/
lemma unsigned_of_mem_fuse (h : hit ∈ fuse lexical vector k) : hit.score.Unsigned := by
  rw [eq_fusedHit_of_mem_fuse h]
  exact unsigned_score hit.record

/-- The order of two scores without a minus sign is that of their places. -/
lemma above_iff (h : hit.score.Unsigned) (h' : hit'.score.Unsigned) : Above hit hit' ↔
    hit'.score.totalPlace < hit.score.totalPlace ∨
      hit'.score.totalPlace = hit.score.totalPlace ∧ (bestRank hit < bestRank hit' ∨
        bestRank hit = bestRank hit' ∧ hit.record.number < hit'.record.number) := by
  have heq : hit'.score = hit.score ↔ hit'.score.totalPlace = hit.score.totalPlace :=
    ⟨fun h => by rw [h], fun hplace => h'.eq_of_totalPlace h hplace⟩
  unfold Above
  rw [h'.lt_iff h, heq]

/-- Identifiers are told apart by their numbers. -/
lemma eq_of_number (h : a.number = b.number) : a = b := by
  rcases a with ⟨m⟩
  rcases b with ⟨n⟩
  exact congrArg Id.mk h

/-- A fused ranking is strictly in order. -/
lemma pairwise_above_fuse : (fuse lexical vector k).Pairwise Above := by
  have hdistinct := List.pairwise_map.mp
    (nodup_record_fuse : ((fuse lexical vector k).map FusedHit.record).Nodup)
  refine (pairwise_before_fuse.and hdistinct).imp_of_mem fun {x y} hx hy hxy => ?_
  obtain ⟨hbefore, hne⟩ := hxy
  have hnumber : x.record.number ≠ y.record.number := fun heq => hne (eq_of_number heq)
  rw [above_iff (unsigned_of_mem_fuse hx) (unsigned_of_mem_fuse hy)]
  rw [before_iff] at hbefore
  omega

/-- Sorting the hits of a fused ranking gives this ranking, in whatever order they are. -/
lemma mergeSort_eq_fuse {hits : List FusedHit} (h : hits.Perm (fuse lexical vector k)) :
    hits.mergeSort before = fuse lexical vector k := by
  have hsorted : (hits.mergeSort before).Pairwise fun x y => before x y = true :=
    List.pairwise_mergeSort before_trans before_total _
  have hperm := (List.mergeSort_perm hits before).trans h
  refine hperm.eq_of_pairwise ?_ hsorted pairwise_before_fuse
  intro x y hx hy hxy hyx
  rw [before_iff] at hxy hyx
  have hrecord : x.record = y.record := eq_of_number (by omega)
  exact List.inj_on_of_nodup_map nodup_record_fuse (hperm.mem_iff.mp hx) hy hrecord

/-! ### Records that no leg ranks below others -/

/-- Is one place no worse than another?  No place is the worst. -/
def NoWorse (place place' : Option ℕ) : Prop := ∀ n ∈ place', ∃ m ∈ place, m ≤ n

/-- What a place in one leg earns, nothing without a place. -/
def gain (k : ℕ) : Option ℕ → Single
  | none => Binary.zero
  | some rank => contribution k rank

/-- Zero has the least place. -/
lemma totalPlace_zero : (Binary.zero : Single).totalPlace = 0 := by decide +kernel

/-- A place earns no number with a minus sign. -/
lemma unsigned_gain (k : ℕ) (record : Id) (leg : List LegHit) :
    (gain k (place? record leg)).Unsigned := by
  rcases hplace : place? record leg with _ | rank
  · exact unsigned_ofRank 0
  · exact unsigned_contribution k (one_le_of_place? hplace)

/-- A place that is no worse earns no less. -/
lemma gain_le (k : ℕ) (h : NoWorse (place? a leg) (place? b leg)) :
    (gain k (place? b leg)).totalPlace ≤ (gain k (place? a leg)).totalPlace := by
  rcases hb : place? b leg with _ | n
  · rw [gain, totalPlace_zero]
    exact (unsigned_gain k a leg).totalPlace_nonneg
  · obtain ⟨m, hm, hle⟩ := h n hb
    have hplace : place? a leg = some m := hm
    rw [hplace, gain, gain]
    exact contribution_le_of_rank (one_le_of_place? hm) hle

/-- Places earn the sum of what each of them earns. -/
lemma earned_eq (k : ℕ) (record : Id) (lexical vector : List LegHit) :
    earned k (place? record lexical) (place? record vector) =
      gain k (place? record lexical) + gain k (place? record vector) := by
  have hl := unsigned_gain k record lexical
  have hv := unsigned_gain k record vector
  rcases hplace : place? record lexical with _ | l
  · rw [gain, hv.zero_add fraction_pos]
    rcases place? record vector with _ | v
    · rw [earned, gain]
    · rw [earned, gain]
  · rw [hplace] at hl
    rcases place? record vector with _ | v
    · rw [earned, gain, gain]
      exact (hl.add_zero fraction_pos).symm
    · rw [earned, gain, gain]

/-- A record that no leg ranks below another earns no less. -/
lemma earned_le (k : ℕ) (hlexical : NoWorse (place? a lexical) (place? b lexical))
    (hvector : NoWorse (place? a vector) (place? b vector)) :
    (earned k (place? b lexical) (place? b vector)).totalPlace ≤
      (earned k (place? a lexical) (place? a vector)).totalPlace := by
  rw [earned_eq, earned_eq]
  exact Unsigned.add_le_add fraction_pos (unsigned_gain k b lexical) (unsigned_gain k a lexical)
    (unsigned_gain k b vector) (unsigned_gain k a vector) (gain_le k hlexical) (gain_le k hvector)

/-- A record that a leg does not rank below another one has a better place in it. -/
lemma NoWorse.exists_lt (h : NoWorse (place? a leg) (place? b leg)) (hne : a ≠ b) :
    ∀ n ∈ place? b leg, ∃ m ∈ place? a leg, m < n := by
  intro n hn
  obtain ⟨m, hm, hle⟩ := h n hn
  refine ⟨m, hm, Nat.lt_of_le_of_ne hle ?_⟩
  rintro rfl
  exact hne (eq_of_place? hm hn)

/-- The better of two places is better if each of them is. -/
lemma bestRank_lt (hlexical : ∀ n ∈ hit'.lexicalRank, ∃ m ∈ hit.lexicalRank, m < n)
    (hvector : ∀ n ∈ hit'.vectorRank, ∃ m ∈ hit.vectorRank, m < n)
    (hplace : hit'.lexicalRank.isSome ∨ hit'.vectorRank.isSome) : bestRank hit < bestRank hit' := by
  unfold bestRank
  rcases hl : hit.lexicalRank with _ | l <;> rcases hv : hit.vectorRank with _ | v <;>
    rcases hl' : hit'.lexicalRank with _ | l' <;> rcases hv' : hit'.vectorRank with _ | v' <;>
      simp [hl, hv, hl', hv'] at hlexical hvector hplace ⊢ <;> omega

/-- A record that no leg ranks below another one ranks above it. -/
lemma above_of_noWorse (hlexical : (lexical.map LegHit.record).Nodup)
    (hvector : (vector.map LegHit.record).Nodup) (h : hit ∈ fuse lexical vector k)
    (h' : hit' ∈ fuse lexical vector k) (hne : hit.record ≠ hit'.record)
    (hl : NoWorse (place? hit.record lexical) (place? hit'.record lexical))
    (hv : NoWorse (place? hit.record vector) (place? hit'.record vector)) : Above hit hit' := by
  have htold := told_of_mem_fuse hlexical hvector h
  have htold' := told_of_mem_fuse hlexical hvector h'
  have hscore := earned_le k hl hv
  rw [← htold.lexicalRank, ← htold.vectorRank, ← htold'.lexicalRank, ← htold'.vectorRank,
    ← htold.score, ← htold'.score] at hscore
  have hbest : bestRank hit < bestRank hit' := by
    apply bestRank_lt
    · rw [htold.lexicalRank, htold'.lexicalRank]
      exact hl.exists_lt hne
    · rw [htold.vectorRank, htold'.vectorRank]
      exact hv.exists_lt hne
    · rw [htold'.lexicalRank, htold'.vectorRank, isSome_place?, isSome_place?, ← List.mem_append,
        ← List.map_append, List.mem_map]
      exact (of_mem_fuse h').1
  rw [above_iff (unsigned_of_mem_fuse h) (unsigned_of_mem_fuse h')]
  omega

/-! ### All of it -/

/-- The fused ranking of two legs. -/
structure Fused (lexical vector : List LegHit) (k : ℕ) (hits : List FusedHit) : Prop where
  /-- It has the records of both legs and no other. -/
  complete : ∀ record, record ∈ hits.map FusedHit.record ↔
    record ∈ lexical.map LegHit.record ∨ record ∈ vector.map LegHit.record
  /-- It has them once. -/
  nodup : (hits.map FusedHit.record).Nodup
  /-- Its hits are told by the places of their records. -/
  told : ∀ hit ∈ hits, Told lexical vector k hit
  /-- It is strictly in order. -/
  ordered : hits.Pairwise Above
  /-- Sorting its hits gives it back, in whatever order they are. -/
  determined : ∀ hits' : List FusedHit, hits'.Perm hits → hits'.mergeSort before = hits
  /-- A record that no leg ranks below another one comes before it. -/
  dominance : ∀ (i j : ℕ) (a b : Id), (hits.map FusedHit.record)[i]? = some a →
    (hits.map FusedHit.record)[j]? = some b → a ≠ b →
      NoWorse (place? a lexical) (place? b lexical) →
        NoWorse (place? a vector) (place? b vector) → i < j

/-- For every constant of fusion and all legs that name their records once, fusion gives the fused
ranking of the legs. -/
theorem fuse_fused (k : ℕ) (hlexical : (lexical.map LegHit.record).Nodup)
    (hvector : (vector.map LegHit.record).Nodup) :
    Fused lexical vector k (fuse lexical vector k) where
  complete record := by
    unfold fuse
    rw [((List.mergeSort_perm _ before).map FusedHit.record).mem_iff, List.map_map]
    have hid : FusedHit.record ∘ fusedHit lexical vector k = id := rfl
    rw [hid, List.map_id, List.mem_eraseDups, List.map_append, List.mem_append]
  nodup := nodup_record_fuse
  told hit h := told_of_mem_fuse hlexical hvector h
  ordered := pairwise_above_fuse
  determined hits h := mergeSort_eq_fuse h
  dominance i j a b hi hj hne hl hv := by
    rw [List.getElem?_map] at hi hj
    obtain ⟨hit, hhit, rfl⟩ := Option.map_eq_some_iff.mp hi
    obtain ⟨hit', hhit', rfl⟩ := Option.map_eq_some_iff.mp hj
    have hmem := List.mem_of_getElem? hhit
    have hmem' := List.mem_of_getElem? hhit'
    have habove := above_of_noWorse hlexical hvector hmem hmem' hne hl hv
    by_contra hle
    rcases (Nat.not_lt.mp hle).lt_or_eq with hlt | rfl
    · -- the hits would be in the other order as well
      obtain ⟨hjlt, rfl⟩ := List.getElem?_eq_some_iff.mp hhit'
      obtain ⟨hilt, rfl⟩ := List.getElem?_eq_some_iff.mp hhit
      have hother := List.pairwise_iff_getElem.mp pairwise_above_fuse j i hjlt hilt hlt
      rw [above_iff (unsigned_of_mem_fuse hmem) (unsigned_of_mem_fuse hmem')] at habove
      rw [above_iff (unsigned_of_mem_fuse hmem') (unsigned_of_mem_fuse hmem)] at hother
      omega
    · rw [hhit] at hhit'
      exact hne (congrArg FusedHit.record (Option.some.inj hhit'))

/-- For the greatest constant of fusion all places earn the same here: the record with two places
comes first, then those that are second in their leg, the smaller identifier first, and then the
third. -/
theorem fuse_fused_of_equal_gains :
    let lexical : List LegHit := [⟨⟨7⟩, Single.one, [⟨70⟩]⟩, ⟨⟨5⟩, Single.one, [⟨50⟩]⟩]
    let vector : List LegHit := [⟨⟨7⟩, Single.one, [⟨71⟩, ⟨70⟩]⟩, ⟨⟨9⟩, Single.one, [⟨90⟩]⟩,
      ⟨⟨3⟩, Single.one, [⟨30⟩]⟩]
    let k := twoTo 32 - 1
    (lexical.map LegHit.record).Nodup ∧ (vector.map LegHit.record).Nodup ∧
      contribution k 1 = contribution k 3 ∧ Fused lexical vector k (fuse lexical vector k) ∧
      (fuse lexical vector k).map (fun hit => (hit.record.number, hit.chunks.map (·.number))) =
        [(7, [70, 71]), (5, [50]), (9, [90]), (3, [30])] := by
  intro lexical vector k
  have horder : fuse lexical vector k =
      [⟨7⟩, ⟨5⟩, ⟨9⟩, ⟨3⟩].map (fusedHit lexical vector k) := by
    have hrecords : ((lexical ++ vector).map LegHit.record).eraseDups = [⟨7⟩, ⟨5⟩, ⟨9⟩, ⟨3⟩] := by
      decide
    unfold fuse
    rw [hrecords]
    exact List.mergeSort_of_pairwise (by decide +kernel)
  refine ⟨by decide, by decide, by decide +kernel, fuse_fused k (by decide) (by decide), ?_⟩
  rw [horder]
  decide +kernel

end Dossier.Fusion
