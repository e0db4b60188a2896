import Dossier.Proofs.Retrieval.Postings

/-!
# What a lexical search answers

A search finds the chunks that share a term with the query, each with the sum of what these terms
are worth in it; the ranking is determined by that (`Answer.eq`).  The index that goes through its
chunks answers so (`LexicalIndex.answer_rank`), and so do the tables that represent them
(`Postings.Represents.answer_search`): there the scores are made term by term, and
`Postings.credit` gives each chunk that holds a term what it is worth in it.
-/

namespace Dossier

open LexicalIndex (Hit gain termWeight averageLength holding totalLength weights score? rank)

variable {own own' entries : List LexicalEntry} {entry : LexicalEntry} {ts : List String}

/-! ### Answers -/

/-- What a term adds to the score of a chunk that holds it, among some chunks, by the BM25 formula:
the rarer the term is among them, the more often the chunk holds it and the shorter the chunk is,
the more.  All is rounded to single precision, step by step. -/
def worth (own : List LexicalEntry) (entry : LexicalEntry) (term : String) : Single :=
  let chunks : Single := Binary.ofNat own.length
  let holders : Single := Binary.ofNat (own.countP fun e => e.terms.contains term)
  let total := (own.flatMap fun e => e.terms).length
  let average : Single := (Binary.ofNat total / chunks).max Single.one
  let length : Single := Binary.ofNat entry.terms.length
  let count : Single := Binary.ofNat (entry.terms.count term)
  let half : Single := Binary.ofRatio 1 2
  let k : Single := Binary.ofRatio 12 10
  let b : Single := Binary.ofRatio 75 100
  let weight := (Single.one + (chunks - holders + half) / (holders + half)).log
  weight * count * (k + Single.one) / (count + k * (Single.one - b + b * length / average))

/-- The parts of a score that are computed for a query, for a term and for a chunk come to what the
term is worth in the chunk. -/
lemma gain_eq_worth (own : List LexicalEntry) (entry : LexicalEntry) (term : String) :
    gain (termWeight (Binary.ofNat own.length) (Binary.ofNat (holding own term)))
      (averageLength own) (Binary.ofNat entry.terms.length)
      (Binary.ofNat (entry.terms.count term)) = worth own entry term := by
  have htotal : totalLength own = (own.flatMap fun e => e.terms).length := by
    induction own with
    | nil => rfl
    | cons e rest ih =>
      rw [List.flatMap_cons, List.length_append, ← ih]
      rfl
  unfold worth averageLength
  rw [htotal]
  rfl

/-- The score of a chunk among some chunks: what the terms that it holds are worth, summed in their
order. -/
def scoreOf (own : List LexicalEntry) (ts : List String) (entry : LexicalEntry) : Single :=
  (ts.filter entry.terms.contains).foldl (fun sum term => sum + worth own entry term) Binary.zero

/-- A ranking of those among some chunks that hold one of some terms. -/
structure Answer (own : List LexicalEntry) (ts : List String) (hits : List Hit) : Prop where
  ranked : Ranked (fun hit : Hit => (hit.score, hit.chunk)) hits
  found : ∀ hit, hit ∈ hits ↔ ∃ entry ∈ own, (∃ term ∈ ts, term ∈ entry.terms) ∧
    hit = ⟨entry.chunk, entry.record, scoreOf own ts entry⟩

namespace Answer

variable {hits hits' : List Hit}

/-- There is one answer. -/
theorem eq (h : Answer own ts hits) (h' : Answer own ts hits') : hits = hits' := by
  refine h.ranked.eq_of_members h'.ranked ?_
  intro hit
  rw [h.found, h'.found]

/-- An answer does not depend on the order of the chunks. -/
lemma perm (h : Answer own ts hits) (hperm : own.Perm own') : Answer own' ts hits where
  ranked := h.ranked
  found hit := by
    have hworth : worth own = worth own' := by
      funext entry term
      unfold worth
      rw [(hperm.flatMap_right _).length_eq, hperm.length_eq, hperm.countP_eq]
    rw [h.found]
    simp only [hperm.mem_iff, scoreOf, hworth]

/-- Hits that are found among the chunks, each with its score, make an answer when sorted. -/
lemma mergeSort (hdistinct : (hits.map (·.chunk)).Nodup)
    (hfound : ∀ hit, hit ∈ hits ↔ ∃ entry ∈ own, (∃ term ∈ ts, term ∈ entry.terms) ∧
      hit = ⟨entry.chunk, entry.record, scoreOf own ts entry⟩) :
    Answer own ts (hits.mergeSort Hit.before) where
  ranked := by
    rw [Hit.before_eq]
    exact Ranked.mergeSort hdistinct
  found hit := by rw [List.mem_mergeSort, hfound]

end Answer

/-- A chunk holds one of some terms if it holds any that are left of them. -/
lemma filter_contains_ne_nil :
    ts.filter entry.terms.contains ≠ [] ↔ ∃ term ∈ ts, term ∈ entry.terms := by
  rw [ne_eq, List.filter_eq_nil_iff]
  simp only [List.contains_iff_mem, not_forall, not_not, exists_prop]

/-! ### The index that goes through its chunks -/

namespace LexicalIndex

/-- No term that a chunk holds is left out of the weights among its own. -/
lemma filter_weights (hentry : entry ∈ own) (ts : List String) :
    ((weights own ts).filter fun (term, _) => entry.terms.contains term) =
      (ts.filter entry.terms.contains).map fun term =>
        (term, termWeight (Binary.ofNat own.length) (Binary.ofNat (holding own term))) := by
  unfold weights
  rw [List.filter_filterMap, ← List.filterMap_eq_map, List.filterMap_filter]
  refine List.filterMap_congr fun term _ => ?_
  by_cases hterm : entry.terms.contains term
  · have hholding : holding own term ≠ 0 :=
      Nat.ne_of_gt (List.countP_pos_iff.mpr ⟨entry, hentry, hterm⟩)
    simp only [if_neg hholding, Option.filter_some, if_pos hterm, Function.comp_apply]
  · by_cases hholding : holding own term = 0
    · simp only [if_pos hholding, Option.filter_none, if_neg hterm]
    · simp only [if_neg hholding, Option.filter_some, if_neg hterm]

/-- The score of a chunk among its own is what the terms that it holds are worth. -/
lemma score?_eq (hentry : entry ∈ own) (ts : List String) :
    score? (weights own ts) (averageLength own) entry =
      if ts.filter entry.terms.contains = [] then none else some (scoreOf own ts entry) := by
  unfold score? scoreOf
  rw [filter_weights hentry]
  simp only [List.isEmpty_map, List.isEmpty_iff, List.foldl_map, gain_eq_worth]

/-- Ranking chunks with their own identifiers answers with the chunks that hold one of the terms. -/
theorem answer_rank (hown : (own.map (·.chunk)).Nodup) (ts : List String) :
    Answer own ts (rank own ts) := by
  refine .mergeSort ?_ ?_
  · refine nodup_map_filterMap hown ?_
    intro entry hit hhit
    obtain ⟨score, -, rfl⟩ := Option.map_eq_some_iff.mp hhit
    rfl
  · intro hit
    rw [List.mem_filterMap]
    refine exists_congr fun entry => and_congr_right fun hentry => ?_
    rw [score?_eq hentry, ← filter_contains_ne_nil, Option.map_eq_some_iff]
    split
    · next hnone =>
      constructor
      · rintro ⟨score, hscore, -⟩
        cases hscore
      · rintro ⟨hsome, -⟩
        exact absurd hnone hsome
    · next hsome =>
      constructor
      · rintro ⟨score, hscore, rfl⟩
        rw [← Option.some.inj hscore]
        exact ⟨hsome, rfl⟩
      · rintro ⟨-, rfl⟩
        exact ⟨_, rfl, rfl⟩

end LexicalIndex

/-! ### Tables -/

namespace Postings

variable {p : Postings} {stats : Stats} {tenant : String}

/-- The score of a chunk with what a term is worth in it, as the tables tell it. -/
def credited (p : Postings) (own : List LexicalEntry) (term : String) (chunk : Id)
    (sum : Option Single) : Option Single :=
  match p.docs[chunk]? with
  | none => sum
  | some doc => some (sum.getD Binary.zero +
      gain (termWeight (Binary.ofNat own.length) (Binary.ofNat (holding own term)))
        (averageLength own) (Binary.ofNat doc.length) (Binary.ofNat (doc.counts.getD term 0)))

/-- A chunk that is held is credited with what the term is worth in it. -/
lemma credited_of_mem (h : Represents p entries) (hentry : entry ∈ entries) (own) (term : String)
    (sum : Option Single) :
    p.credited own term entry.chunk sum = some (sum.getD Binary.zero + worth own entry term) := by
  unfold credited
  rw [h.docs_of_mem hentry]
  simp only [Doc.of, getD_tally, gain_eq_worth]

/-- A term credits the chunks that hold it. -/
lemma getElem?_credit (hown : (own.map (·.chunk)).Nodup) (hstats : Sums stats own)
    (scores : Std.HashMap Id Single) (term : String) (chunk : Id) :
    (p.credit stats scores term)[chunk]? =
      if chunk ∈ (own.filter (·.terms.contains term)).map (·.chunk) then
        p.credited own term chunk scores[chunk]?
      else scores[chunk]? := by
  have hpostings := hstats.postings term
  have hholders : ((own.filter (·.terms.contains term)).map (·.chunk)).Nodup :=
    hown.sublist (List.filter_sublist.map _)
  have hholding : holding own term = (own.filter (·.terms.contains term)).length :=
    List.countP_eq_length_filter
  unfold credit
  generalize stats.postings[term]? = kept at hpostings
  generalize own.filter (·.terms.contains term) = holders at hpostings hholders hholding
  cases hpostings with
  | vacant => simp
  | @held ids _ _ hlists =>
    simp only [hstats.docs, hstats.totalLength, hlists.size_eq hholders, ← hholding]
    rw [getElem?_foldl_of_step (f := p.credited own term) ?_ (Lists.nodup_toList ids)]
    · simp only [Std.HashSet.mem_toList, hlists chunk]
    · intro table key key'
      unfold credited
      rcases eq_or_ne key key' with rfl | hne
      · rw [if_pos rfl]
        cases p.docs[key]? with
        | none => rfl
        | some doc => simp [averageLength]
      · rw [if_neg hne]
        cases p.docs[key]? with
        | none => rfl
        | some doc => simp [Std.HashMap.getElem?_alter, hne]

/-- Sums that start from nothing are sums that start from zero, unless there is nothing to sum. -/
lemma foldl_getD {α β : Type} (op : β → α → β) (zero : β) (l : List α) :
    l.foldl (fun sum a => some (op (sum.getD zero) a)) none =
      if l = [] then none else some (l.foldl op zero) := by
  cases l with
  | nil => rfl
  | cons a l =>
    rw [if_neg (List.cons_ne_nil a l), List.foldl_cons, List.foldl_cons, Option.getD_none]
    exact List.foldl_hom some fun _ _ => rfl

/-- The terms of a query together credit a chunk with its score among its own. -/
lemma getElem?_foldl_credit (h : Represents p entries) (hsub : own.Sublist entries)
    (hstats : Sums stats own) (hentry : entry ∈ own) (ts : List String) :
    (ts.foldl (p.credit stats) ∅)[entry.chunk]? =
      if ts.filter entry.terms.contains = [] then none else some (scoreOf own ts entry) := by
  have hown : (own.map (·.chunk)).Nodup := h.distinct.sublist (hsub.map _)
  -- A chunk holds a term if its identifier is that of a chunk that does.
  have hholds : ∀ term, entry.chunk ∈ (own.filter (·.terms.contains term)).map (·.chunk) ↔
      entry.terms.contains term := by
    intro term
    rw [List.mem_map]
    constructor
    · rintro ⟨e, he, heq⟩
      obtain ⟨hmem, hterm⟩ := List.mem_filter.mp he
      rw [List.inj_on_of_nodup_map hown hentry hmem heq.symm]
      exact hterm
    · exact fun hterm => ⟨entry, List.mem_filter.mpr ⟨hentry, hterm⟩, rfl⟩
  have hrun : ∀ scores : Std.HashMap Id Single, (ts.foldl (p.credit stats) scores)[entry.chunk]? =
      (ts.filter entry.terms.contains).foldl
        (fun sum term => some (sum.getD Binary.zero + worth own entry term))
        scores[entry.chunk]? := by
    intro scores
    induction ts generalizing scores with
    | nil => rfl
    | cons term ts ih =>
      rw [List.foldl_cons, ih, getElem?_credit hown hstats, List.filter_cons]
      simp only [hholds]
      split
      · rw [credited_of_mem h (hsub.subset hentry), List.foldl_cons]
      · rfl
  rw [hrun, Std.HashMap.getElem?_empty]
  exact foldl_getD (fun sum term => sum + worth own entry term) Binary.zero _

/-- Chunks of others are not credited. -/
lemma getElem?_foldl_credit_of_notMem (hown : (own.map (·.chunk)).Nodup) (hstats : Sums stats own)
    {chunk : Id} (hchunk : chunk ∉ own.map (·.chunk)) (ts : List String)
    (scores : Std.HashMap Id Single) :
    (ts.foldl (p.credit stats) scores)[chunk]? = scores[chunk]? := by
  induction ts generalizing scores with
  | nil => rfl
  | cons term ts ih =>
    rw [List.foldl_cons, ih, getElem?_credit hown hstats, if_neg (notMem_map_filter hchunk _)]

/-- After all terms of a query, the scores are those of the chunks that share one of them. -/
lemma getElem?_foldl_credit_eq_some_iff (h : Represents p entries) (hsub : own.Sublist entries)
    (hstats : Sums stats own) (ts : List String) (chunk : Id) (score : Single) :
    (ts.foldl (p.credit stats) ∅)[chunk]? = some score ↔ ∃ entry ∈ own,
      (∃ term ∈ ts, term ∈ entry.terms) ∧ entry.chunk = chunk ∧ scoreOf own ts entry = score := by
  constructor
  · intro hscore
    have hchunk : chunk ∈ own.map (·.chunk) := by
      by_contra hother
      rw [getElem?_foldl_credit_of_notMem (h.distinct.sublist (hsub.map _)) hstats hother] at hscore
      simp at hscore
    obtain ⟨entry, hentry, rfl⟩ := List.mem_map.mp hchunk
    rw [getElem?_foldl_credit h hsub hstats hentry] at hscore
    obtain ⟨hsome, hscore⟩ := Option.ite_none_left_eq_some.mp hscore
    exact ⟨entry, hentry, filter_contains_ne_nil.mp hsome, rfl, Option.some.inj hscore⟩
  · rintro ⟨entry, hentry, hshared, rfl, rfl⟩
    rw [getElem?_foldl_credit h hsub hstats hentry, if_neg (filter_contains_ne_nil.mpr hshared)]

/-- A search in tables answers from the chunks of the tenant that they hold. -/
theorem Represents.answer_search (h : Represents p entries) (tenant : String) (ts : List String) :
    Answer (entries.filter (·.tenant == tenant)) ts (p.search tenant ts) := by
  have htenant := h.tenants tenant
  have hsub : (entries.filter (·.tenant == tenant)).Sublist entries := List.filter_sublist
  unfold search
  generalize p.tenants[tenant]? = kept at htenant
  generalize entries.filter (·.tenant == tenant) = own at htenant hsub
  cases htenant with
  | vacant =>
    refine ⟨⟨.nil, List.nodup_nil⟩, ?_⟩
    simp
  | @held stats _ hne hstats =>
    have hdocs : stats.docs ≠ 0 := by
      rw [hstats.docs]
      exact mt List.length_eq_zero_iff.mp hne
    have hscores := getElem?_foldl_credit_eq_some_iff h hsub hstats ts
    simp only [if_neg hdocs]
    refine .mergeSort ?_ ?_
    · have hkeys : ((ts.foldl (p.credit stats) ∅).toList.map Prod.fst).Nodup := by
        rw [Std.HashMap.map_fst_toList_eq_keys]
        exact Std.HashMap.nodup_keys
      refine nodup_map_filterMap hkeys ?_
      rintro ⟨chunk, score⟩ hit hhit
      obtain ⟨doc, -, rfl⟩ := Option.map_eq_some_iff.mp hhit
      rfl
    · intro hit
      simp only [List.mem_filterMap, Prod.exists, Std.HashMap.mem_toList_iff_getElem?_eq_some,
        hscores]
      constructor
      · rintro ⟨_, _, ⟨entry, hentry, hshared, rfl, rfl⟩, hhit⟩
        rw [h.docs_of_mem (hsub.subset hentry)] at hhit
        exact ⟨entry, hentry, hshared, (Option.some.inj hhit).symm⟩
      · rintro ⟨entry, hentry, hshared, rfl⟩
        refine ⟨_, _, ⟨entry, hentry, hshared, rfl, rfl⟩, ?_⟩
        rw [h.docs_of_mem (hsub.subset hentry)]
        rfl

end Postings

end Dossier
