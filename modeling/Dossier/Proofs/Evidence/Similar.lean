import Dossier.Evidence.Candidate
import Dossier.Proofs.Vector.Bounds
import Dossier.Proofs.Vector.Index

/-!
# What similarities decide

Similarities order a ranking of chunks and tell near duplicates apart.  Between vectors of finite
components they are numbers from minus one to one, unless the sums that they are made of are beyond
the greatest number.  Such a pair of vectors ranks behind all others, and it is never a pair of near
duplicates.
-/

namespace Dossier

open Vec

/-! ### Rankings -/

namespace VectorIndex

variable {index : VectorIndex} {query : Vec}

/-- One hit stands above another: the other has no similarity, or none that is greater, and of
equally similar hits the one with the smaller identifier stands above. -/
structure Hit.Above (a b : Hit) : Prop where
  similarity : b.similarity = .nan true ∨ ∃ p q : ℚ, a.similarity.value? = some (ExtendedRat.of p) ∧
    b.similarity.value? = some (ExtendedRat.of q) ∧ q ≤ p
  chunk : a.similarity = b.similarity → a.chunk.number < b.chunk.number

/-- Of two hits the one that ranks no lower stands above the other, if their similarities are proper
ones or the negative NaN. -/
lemma Hit.above_of_precedes {a b : Hit} (ha : a.similarity = .nan true ∨ Bounded a.similarity)
    (hb : b.similarity = .nan true ∨ Bounded b.similarity)
    (h : precedes (a.similarity, a.chunk) (b.similarity, b.chunk)) (hne : a.chunk ≠ b.chunk) :
    a.Above b where
  similarity := by
    rcases hb with hnan | ⟨q, hq, -⟩
    · exact .inl hnan
    right
    have hplace : b.similarity.totalPlace ≤ a.similarity.totalPlace := by
      rcases precedes_iff.mp h with hlt | ⟨heq, -⟩
      · exact Int.le_of_lt hlt
      · exact Int.le_of_eq heq
    rcases ha with hnan | ⟨p, hp, -⟩
    · -- no number has a place as low as that of the negative NaN
      have hlow := Binary.totalPlace_nan_lt hq
      rw [hnan] at hplace
      omega
    · have hle := Binary.value_le_of_totalPlace_le Single.limit_pos hq hp hplace
      exact ⟨p, q, hp, hq, ExtendedRat.of_le_of.mp hle⟩
  chunk := by
    intro heq
    have hle : a.chunk.number ≤ b.chunk.number := by
      rcases precedes_iff.mp h with hlt | ⟨-, hle⟩
      · rw [heq] at hlt
        exact absurd hlt (Int.lt_irrefl _)
      · exact hle
    refine Nat.lt_of_le_of_ne hle fun hnumber => hne ?_
    exact congrArg Id.mk hnumber

/-- An index of finite vectors that names every chunk once ranks the chunks that compare with a
finite query of its dimension, from the most similar one down. -/
lemma rank_of_finite (hnodup : (index.entries.map (·.1)).Nodup)
    (hfinite : ∀ e ∈ index.entries, Vec.Finite e.2) (hquery : query.Finite)
    (hdim : query.length = index.dimension) :
    ∃ hits, index.rank query = .ok hits ∧ (hits.map (·.chunk)).Nodup ∧ hits.Pairwise Hit.Above ∧
      ∀ hit, hit ∈ hits ↔ ∃ e ∈ index.entries, e.1 = hit.chunk ∧
        similarity? query e.2 = some hit.similarity := by
  obtain ⟨hits, hhits⟩ := rank_isOk_iff.mpr hdim
  obtain ⟨hranked, hmem⟩ := ranked_of_rank hnodup hhits
  have hsimilarity : ∀ hit ∈ hits, hit.similarity = .nan true ∨ Bounded hit.similarity := by
    intro hit hhit
    obtain ⟨e, he, -, hsome⟩ := (hmem hit).mp hhit
    exact (similarity_cases hquery (hfinite e he) hsome).imp And.right And.right
  have hdistinct : hits.Pairwise fun a b => a.chunk ≠ b.chunk := List.pairwise_map.mp hranked.nodup
  refine ⟨hits, hhits, hranked.nodup, ?_, hmem⟩
  refine (hranked.ordered.and hdistinct).imp_of_mem fun ha hb h => ?_
  exact Hit.above_of_precedes (hsimilarity _ ha) (hsimilarity _ hb) h.1 h.2

end VectorIndex

/-! ### Near duplicates -/

namespace Candidate

variable {vectors : List (Id × Vec)} {threshold : Single} {c d : Candidate}

/-- The vector of a candidate is one of the given vectors. -/
lemma mem_of_vectorOf {v : Vec} (h : c.vectorOf vectors = some v) : ∃ e ∈ vectors, e.2 = v := by
  obtain ⟨e, hfind, rfl⟩ := Option.map_eq_some_iff.mp h
  exact ⟨e, List.mem_of_find?_eq_some hfind, rfl⟩

/-- Candidates with finite vectors are near duplicates if these have a similarity from minus one to
one that reaches the threshold. -/
lemma similar_iff (hfinite : ∀ e ∈ vectors, Vec.Finite e.2) :
    similar vectors threshold c d = true ↔ ∃ v w s, c.vectorOf vectors = some v ∧
      d.vectorOf vectors = some w ∧ similarity? v w = some s ∧ ¬ (sums v w).Overflow ∧
      ∃ (q : ℚ) (t : ExtendedRat), s.value? = some (ExtendedRat.of q) ∧ -1 ≤ q ∧ q ≤ 1 ∧
        threshold.value? = some t ∧ t ≤ ExtendedRat.of q := by
  constructor
  · intro h
    unfold similar at h
    split at h
    · rename_i v w hv hw
      obtain ⟨s, hs, hle⟩ := (Option.any_eq_true _ _).mp h
      obtain ⟨e, he, rfl⟩ := mem_of_vectorOf hv
      obtain ⟨e', he', rfl⟩ := mem_of_vectorOf hw
      obtain ⟨t, p, ht, hp, htp⟩ := (Binary.le_iff_value Single.limit_pos).mp hle
      rcases similarity_cases (hfinite e he) (hfinite e' he') hs with ⟨-, rfl⟩ | ⟨hover, q, hq, hbounds⟩
      · cases hp
      · rw [hq] at hp
        cases hp
        exact ⟨_, _, s, hv, hw, hs, hover, q, t, hq, hbounds.1, hbounds.2, ht, htp⟩
    · cases h
  · rintro ⟨v, w, s, hv, hw, hs, -, q, t, hq, -, -, ht, htq⟩
    have hle := (Binary.le_iff_of_value Single.limit_pos ht hq).mpr htq
    unfold similar
    rw [hv, hw]
    dsimp only
    rw [hs]
    exact hle

end Candidate

/-! ### All together -/

/-- The similarity of vectors of finite components goes both ways, and it is a number from minus one
to one unless their sums are beyond the greatest number; then it is the negative NaN.  So an index
of such vectors ranks every chunk once, by similarities that descend and then by identifiers, and
candidates are near duplicates only by such a number. -/
theorem similarities_bounded (a b : Vec) (index : VectorIndex) (query : Vec)
    (vectors : List (Id × Vec)) (threshold : Single) (c d : Candidate) :
    (a.Finite → b.Finite → a.length = b.length →
      similarity? a b = similarity? b a ∧ ∀ s, similarity? a b = some s →
        (s = .nan true ↔ (sums a b).Overflow) ∧ (Bounded s ↔ ¬ (sums a b).Overflow)) ∧
    ((index.entries.map (·.1)).Nodup → (∀ e ∈ index.entries, Vec.Finite e.2) → query.Finite →
      query.length = index.dimension →
      ∃ hits, index.rank query = .ok hits ∧ (hits.map (·.chunk)).Nodup ∧
        hits.Pairwise VectorIndex.Hit.Above ∧
        ∀ hit, hit ∈ hits ↔ ∃ e ∈ index.entries, e.1 = hit.chunk ∧
          similarity? query e.2 = some hit.similarity) ∧
    ((∀ e ∈ vectors, Vec.Finite e.2) →
      (Candidate.similar vectors threshold c d = true ↔ ∃ v w s, c.vectorOf vectors = some v ∧
        d.vectorOf vectors = some w ∧ similarity? v w = some s ∧ ¬ (sums v w).Overflow ∧
        ∃ (q : ℚ) (t : ExtendedRat), s.value? = some (ExtendedRat.of q) ∧ -1 ≤ q ∧ q ≤ 1 ∧
          threshold.value? = some t ∧ t ≤ ExtendedRat.of q)) := by
  refine ⟨fun ha hb _ => ⟨similarity_symm ha hb, fun s hs => ?_⟩, ?_, ?_⟩
  · rcases similarity_cases ha hb hs with ⟨hover, rfl⟩ | ⟨hover, hbounded⟩
    · refine ⟨iff_of_true rfl hover, iff_of_false ?_ (not_not.mpr hover)⟩
      rintro ⟨q, hq, -⟩
      cases hq
    · refine ⟨iff_of_false ?_ hover, iff_of_true hbounded hover⟩
      rintro rfl
      obtain ⟨q, hq, -⟩ := hbounded
      cases hq
  · intro hnodup hfinite hquery hdim
    exact VectorIndex.rank_of_finite hnodup hfinite hquery hdim
  · intro hfinite
    exact Candidate.similar_iff hfinite

/-- A candidate of which nothing matters but its chunk. -/
def Candidate.ofChunk (id : Id) : Candidate where
  context :=
    { chunk := ⟨id, ⟨0⟩, 0, 0, 0, "", 0, .embedded, none⟩
      record := ⟨⟨0⟩, "", ⟨"", "", "", "", "", none, .null⟩, none, none, none, ⟨0⟩, ⟨0⟩, none⟩ }
  method := .vector
  score := Binary.zero
  snippet := ""
  redacted := false
  stale := false

/-- Between the directions of two axes similarities are bounded and ranked, and candidates with the
same direction are near duplicates. -/
theorem similarities_of_axes :
    let east : Vec := [Single.one, Binary.zero]
    let north : Vec := [Binary.zero, Single.one]
    let vectors : List (Id × Vec) := [(⟨1⟩, north), (⟨3⟩, east), (⟨2⟩, east)]
    (∃ s, similarity? east north = some s ∧ Bounded s) ∧
    (∃ hits, VectorIndex.rank ⟨2, vectors⟩ east = .ok hits ∧ hits.Pairwise VectorIndex.Hit.Above ∧
      ⟨⟨1⟩, Binary.zero⟩ ∈ hits) ∧
    ∃ s, ∃ q : ℚ, similarity? east east = some s ∧ s.value? = some (ExtendedRat.of q) ∧ q ≤ 1 ∧
      ExtendedRat.of 1 ≤ ExtendedRat.of q := by
  intro east north vectors
  obtain ⟨hpair, hrank, hsimilar⟩ := similarities_bounded east north ⟨2, vectors⟩ east vectors
    Single.one (.ofChunk ⟨2⟩) (.ofChunk ⟨3⟩)
  have hfinite : ∀ e ∈ vectors, Vec.Finite e.2 := by decide +kernel
  refine ⟨?_, ?_, ?_⟩
  · have hsome : similarity? east north = some Binary.zero := by decide +kernel
    have hover : ¬ (sums east north).Overflow := by decide +kernel
    have hbounds := (hpair (by decide +kernel) (by decide +kernel) rfl).2 _ hsome
    exact ⟨_, hsome, hbounds.2.mpr hover⟩
  · obtain ⟨hits, hok, -, habove, hmem⟩ := hrank (by decide +kernel) hfinite (by decide +kernel) rfl
    refine ⟨hits, hok, habove, (hmem _).mpr ⟨(⟨1⟩, north), List.mem_cons_self, rfl, ?_⟩⟩
    decide +kernel
  · obtain ⟨v, w, s, hv, hw, hs, -, q, t, hq, -, hone, ht, htq⟩ :=
      (hsimilar hfinite).mp (by decide +kernel)
    cases hv
    cases hw
    rw [Single.value_one] at ht
    cases ht
    exact ⟨s, q, hs, hq, hone, htq⟩

/-- Not every similarity of vectors of finite components is a number: the sums of a vector that is
large enough are beyond the greatest number. -/
theorem not_bounded_of_large :
    ¬ ∀ a b : Vec, a.Finite → b.Finite → a.length = b.length →
      ∀ s, similarity? a b = some s → Bounded s := by
  intro h
  have hnan : similarity? [Binary.ofNat (10 ^ 20)] [Binary.ofNat (10 ^ 20)] = some (.nan true) := by
    decide +kernel
  obtain ⟨q, hq, -⟩ := h _ _ (by decide +kernel) (by decide +kernel) rfl _ hnan
  cases hq

end Dossier
