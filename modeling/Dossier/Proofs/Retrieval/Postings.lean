import Dossier.Proofs.Retrieval.Order

/-!
# The lexical index in tables

`LexicalIndex.search` goes through the chunks of a tenant.  An index that answers from tables keeps
what it knows of each chunk and, for each tenant, the number of its chunks, how many terms they have
together and which of them hold a term.  Every operation brings these numbers up to date and drops
what has become empty.

Tables represent the chunks that are in them (`Represents`), and every operation keeps it so
(`Represents.empty`, `Represents.add`, `Represents.remove`).  What is kept of the chunks of a tenant
and what is kept of those that hold a term are both summaries that are there only if the chunks are
(`Kept`): what happens to one when a chunk is put in or taken out is shown once for both.
-/

namespace Dossier

/-- Identifiers are hashed by their numbers. -/
instance : Hashable Id where
  hash id := hash id.number

/-! ### Passes over tables -/

section Tables

variable {κ ν : Type} [DecidableEq κ] [Hashable κ]

/-- What a table holds after a pass that changes the entries of some keys, each once. -/
lemma getElem?_foldl_of_step {step : Std.HashMap κ ν → κ → Std.HashMap κ ν}
    {f : κ → Option ν → Option ν}
    (hstep : ∀ table key key', (step table key)[key']? =
      if key = key' then f key' table[key']? else table[key']?)
    {keys : List κ} (hkeys : keys.Nodup) (table : Std.HashMap κ ν) (key : κ) :
    (keys.foldl step table)[key]? = if key ∈ keys then f key table[key]? else table[key]? := by
  induction keys generalizing table with
  | nil => simp
  | cons first keys ih =>
    obtain ⟨hfirst, hkeys⟩ := List.nodup_cons.mp hkeys
    rw [List.foldl_cons, ih hkeys, hstep]
    rcases eq_or_ne first key with rfl | hne
    · simp [hfirst]
    · simp [hne, hne.symm]

/-- What a table holds after a pass that alters the entries of its keys in one way. -/
lemma getElem?_foldl_alter {keys : List κ} (hkeys : keys.Nodup) (f : Option ν → Option ν)
    (table : Std.HashMap κ ν) (key : κ) :
    (keys.foldl (fun table key => table.alter key f) table)[key]? =
      if key ∈ keys then f table[key]? else table[key]? := by
  have hstep : ∀ (table : Std.HashMap κ ν) (key key' : κ), (table.alter key f)[key']? =
      if key = key' then f table[key']? else table[key']? := by
    intro table key key'
    rw [Std.HashMap.getElem?_alter]
    rcases eq_or_ne key key' with rfl | hne
    · simp
    · simp [hne]
  exact getElem?_foldl_of_step (f := fun _ => f) hstep hkeys table key

end Tables

/-! ### Counting terms -/

/-- How often each of some terms stands among them. -/
def tally (ts : List String) : Std.HashMap String Nat :=
  ts.foldl (fun counts term => counts.alter term fun n => some (n.getD 0 + 1)) ∅

/-- Counting on adds what stands among further terms. -/
lemma getD_foldl_count (ts : List String) (counts : Std.HashMap String Nat) (term : String) :
    (ts.foldl (fun counts term => counts.alter term fun n => some (n.getD 0 + 1)) counts).getD
      term 0 = counts.getD term 0 + ts.count term := by
  induction ts generalizing counts with
  | nil => simp
  | cons first ts ih =>
    rw [List.foldl_cons, ih, Std.HashMap.getD_alter, List.count_cons]
    rcases eq_or_ne first term with rfl | hne
    · simp [Std.HashMap.getD_eq_getD_getElem?]
      omega
    · simp [hne]

/-- A tally says how often a term stands among those that were counted. -/
lemma getD_tally (ts : List String) (term : String) : (tally ts).getD term 0 = ts.count term := by
  unfold tally
  rw [getD_foldl_count]
  simp

/-- Counting on holds further terms. -/
lemma mem_foldl_count (ts : List String) (counts : Std.HashMap String Nat) (term : String) :
    term ∈ ts.foldl (fun counts term => counts.alter term fun n => some (n.getD 0 + 1)) counts ↔
      term ∈ counts ∨ term ∈ ts := by
  induction ts generalizing counts with
  | nil => simp
  | cons first ts ih =>
    rw [List.foldl_cons, ih, Std.HashMap.mem_alter, List.mem_cons]
    rcases eq_or_ne first term with rfl | hne
    · simp
    · simp [hne, hne.symm]

/-- A tally holds the terms that were counted. -/
lemma mem_keys_tally {ts : List String} {term : String} : term ∈ (tally ts).keys ↔ term ∈ ts := by
  unfold tally
  rw [Std.HashMap.mem_keys, mem_foldl_count]
  simp

/-- A tally holds a term once. -/
lemma nodup_keys_tally (ts : List String) : (tally ts).keys.Nodup := Std.HashMap.nodup_keys

namespace Postings

/-! ### The tables -/

/-- What the tables hold of a chunk. -/
structure Doc where
  record : Id
  tenant : String
  length : Nat
  counts : Std.HashMap String Nat

/-- What the tables hold of the chunks of a tenant together. -/
structure Stats where
  docs : Nat
  totalLength : Nat
  postings : Std.HashMap String (Std.HashSet Id)

/-- What is held of a chunk that is put in. -/
def Doc.of (entry : LexicalEntry) : Doc :=
  ⟨entry.record, entry.tenant, entry.terms.length, tally entry.terms⟩

namespace Stats

/-- What is held of no chunks. -/
def empty : Stats := ⟨0, 0, ∅⟩

/-- What is held with one more chunk. -/
def enroll (stats : Stats) (chunk : Id) (doc : Doc) : Stats where
  docs := stats.docs + 1
  totalLength := stats.totalLength + doc.length
  postings := doc.counts.keys.foldl (fun postings term =>
    postings.alter term fun ids => some ((ids.getD ∅).insert chunk)) stats.postings

/-- What is held without a chunk.  Terms that no other chunk holds are dropped. -/
def dismiss (stats : Stats) (chunk : Id) (doc : Doc) : Stats where
  docs := stats.docs - 1
  totalLength := stats.totalLength - doc.length
  postings := doc.counts.keys.foldl (fun postings term =>
    postings.alter term fun ids => (ids.map (·.erase chunk)).filter (!·.isEmpty)) stats.postings

end Stats

end Postings

/-- A table of chunks and one of tenants. -/
structure Postings where
  docs : Std.HashMap Id Postings.Doc
  tenants : Std.HashMap String Postings.Stats

namespace Postings

/-- Tables without chunks. -/
def empty : Postings := ⟨∅, ∅⟩

/-- The number of chunks. -/
def size (p : Postings) : Nat := p.docs.size

/-- The tables with a chunk that they do not hold. -/
def insert (p : Postings) (entry : LexicalEntry) : Postings where
  docs := p.docs.insert entry.chunk (.of entry)
  tenants := p.tenants.alter entry.tenant fun stats =>
    some ((stats.getD .empty).enroll entry.chunk (.of entry))

/-- The tables without a chunk.  A tenant without other chunks is dropped. -/
def erase (p : Postings) (chunk : Id) : Postings :=
  match p.docs[chunk]? with
  | none => p
  | some doc =>
    { docs := p.docs.erase chunk
      tenants := p.tenants.alter doc.tenant fun stats =>
        (stats.map (·.dismiss chunk doc)).filter (·.docs != 0) }

/-- The tables with a chunk put in place of any that they held under its identifier. -/
def add (p : Postings) (chunk record : Id) (tenant text : String) : Postings :=
  (p.erase chunk).insert ⟨chunk, record, tenant, terms text⟩

/-- The tables without some chunks. -/
def remove (p : Postings) (chunks : List Id) : Postings := chunks.foldl erase p

/-! ### Searches -/

open LexicalIndex (Hit gain termWeight)

/-- The scores with what a term adds to those of the chunks that hold it. -/
def credit (p : Postings) (stats : Stats) (scores : Std.HashMap Id Single) (term : String) :
    Std.HashMap Id Single :=
  match stats.postings[term]? with
  | none => scores
  | some ids =>
    let n : Single := Binary.ofNat stats.docs
    let average := (Binary.ofNat stats.totalLength / n).max Single.one
    let weight := termWeight n (Binary.ofNat ids.size)
    ids.toList.foldl (fun scores chunk =>
      match p.docs[chunk]? with
      | none => scores
      | some doc => scores.alter chunk fun sum =>
          some (sum.getD Binary.zero +
            gain weight average (Binary.ofNat doc.length) (Binary.ofNat (doc.counts.getD term 0))))
      scores

/-- The chunks of a tenant that hold one of some terms, the best first.  The terms are those of a
query, each once, in the order in which a search goes through them. -/
def search (p : Postings) (tenant : String) (ts : List String) : List Hit :=
  match p.tenants[tenant]? with
  | none => []
  | some stats =>
    if stats.docs = 0 then []
    else
      let scores := ts.foldl (p.credit stats) ∅
      let hits := scores.toList.filterMap fun (chunk, score) =>
        p.docs[chunk]?.map fun doc => (⟨chunk, doc.record, score⟩ : Hit)
      hits.mergeSort Hit.before

/-! ### What tables represent -/

/-- What a table keeps of some chunks: nothing if there are none, else a summary of them. -/
inductive Kept {ν : Type} (Sums : ν → List LexicalEntry → Prop) :
    Option ν → List LexicalEntry → Prop
  | vacant : Kept Sums none []
  | held {v : ν} {own : List LexicalEntry} (hown : own ≠ []) (hv : Sums v own) :
      Kept Sums (some v) own

namespace Kept

variable {ν : Type} {Sums : ν → List LexicalEntry → Prop} {kept : Option ν} {entry : LexicalEntry}
  {own own' : List LexicalEntry}

/-- A summary that does not depend on the order of chunks is kept in any order. -/
lemma perm (h : Kept Sums kept own) (hperm : own.Perm own')
    (hsums : ∀ v, Sums v own → Sums v own') : Kept Sums kept own' := by
  cases h with
  | vacant =>
    obtain rfl := hperm.nil_eq
    exact .vacant
  | held hown hv =>
    refine .held ?_ (hsums _ hv)
    rintro rfl
    exact hown hperm.eq_nil

/-- A chunk that is put in starts from a summary of no chunks if nothing is kept. -/
lemma enter {start : ν} {f : ν → ν} (hstart : Sums start [])
    (hf : ∀ v, Sums v own → Sums (f v) (entry :: own)) (h : Kept Sums kept own) :
    Kept Sums (some (f (kept.getD start))) (entry :: own) := by
  refine .held (List.cons_ne_nil _ _) (hf _ ?_)
  cases h with
  | vacant => exact hstart
  | held _ hv => exact hv

/-- When a chunk is taken out, what is left is kept unless it is nothing. -/
lemma leave {keep : ν → Bool} {f : ν → ν} (hkeep : ∀ v, Sums v own → (keep v = true ↔ own ≠ []))
    (hf : ∀ v, Sums v (entry :: own) → Sums (f v) own) (h : Kept Sums kept (entry :: own)) :
    Kept Sums ((kept.map f).filter keep) own := by
  cases h with
  | held _ hv =>
    have hsums := hf _ hv
    rw [Option.map_some, Option.filter_some]
    split
    · next hk => exact .held ((hkeep _ hsums).mp hk) hsums
    · next hk =>
      rw [not_not.mp fun hne => hk ((hkeep _ hsums).mpr hne)]
      exact .vacant

end Kept

variable {p : Postings} {entry : LexicalEntry} {entries entries' own own' : List LexicalEntry}

/-- A chunk that is not among some chunks is not among part of them. -/
lemma notMem_map_filter {chunk : Id} (hchunk : chunk ∉ own.map (·.chunk))
    (part : LexicalEntry → Bool) : chunk ∉ (own.filter part).map (·.chunk) :=
  fun hmem => hchunk ((List.filter_sublist.map _).subset hmem)

/-! #### The chunks that hold a term -/

/-- A set of the identifiers of some chunks. -/
def Lists (ids : Std.HashSet Id) (own : List LexicalEntry) : Prop :=
  ∀ chunk, chunk ∈ ids ↔ chunk ∈ own.map (·.chunk)

namespace Lists

variable {ids : Std.HashSet Id}

/-- The empty set lists no chunks. -/
lemma empty : Lists ∅ [] := by
  intro chunk
  simp

/-- Chunks are listed in any order. -/
lemma perm (h : Lists ids own) (hperm : own.Perm own') : Lists ids own' := by
  intro chunk
  rw [h chunk, (hperm.map _).mem_iff]

/-- One more chunk is listed. -/
lemma enter (h : Lists ids own) : Lists (ids.insert entry.chunk) (entry :: own) := by
  intro chunk
  rw [Std.HashSet.mem_insert, h chunk, List.map_cons, List.mem_cons, beq_iff_eq]
  exact or_congr_left eq_comm

/-- A chunk is no longer listed. -/
lemma leave (hnew : entry.chunk ∉ own.map (·.chunk)) (h : Lists ids (entry :: own)) :
    Lists (ids.erase entry.chunk) own := by
  intro chunk
  rw [Std.HashSet.mem_erase, h chunk, List.map_cons, List.mem_cons]
  rcases eq_or_ne chunk entry.chunk with rfl | hne
  · simp [hnew]
  · simp [hne, hne.symm]

/-- A set that lists chunks is empty only if there are none. -/
lemma keep (h : Lists ids own) : (!ids.isEmpty) = true ↔ own ≠ [] := by
  rw [Bool.not_eq_true', Std.HashSet.isEmpty_eq_false_iff_exists_mem]
  cases own with
  | nil => simp [h _]
  | cons entry own =>
    have hmem : entry.chunk ∈ ids := (h _).mpr (by simp)
    exact ⟨fun _ => List.cons_ne_nil _ _, fun _ => ⟨_, hmem⟩⟩

/-- The members of a set are listed once. -/
lemma nodup_toList (ids : Std.HashSet Id) : ids.toList.Nodup := by
  simpa [List.Nodup] using ids.distinct_toList

/-- A set that lists chunks has as many members as there are chunks. -/
lemma size_eq (hown : (own.map (·.chunk)).Nodup) (h : Lists ids own) : ids.size = own.length := by
  have hperm : ids.toList.Perm (own.map (·.chunk)) := by
    refine (List.perm_ext_iff_of_nodup (nodup_toList ids) hown).mpr ?_
    intro chunk
    rw [Std.HashSet.mem_toList, h chunk]
  rw [← Std.HashSet.length_toList, hperm.length_eq, List.length_map]

end Lists

/-! #### The chunks of a tenant -/

/-- Numbers and sets that are those of some chunks. -/
structure Sums (stats : Stats) (own : List LexicalEntry) : Prop where
  docs : stats.docs = own.length
  totalLength : stats.totalLength = LexicalIndex.totalLength own
  postings : ∀ term, Kept Lists stats.postings[term]? (own.filter (·.terms.contains term))

namespace Sums

variable {stats : Stats}

/-- No chunks have the numbers that a tenant starts from. -/
lemma empty : Sums .empty [] where
  docs := rfl
  totalLength := rfl
  postings term := by
    simp only [Stats.empty, Std.HashMap.getElem?_empty, List.filter_nil]
    exact .vacant

/-- The numbers do not depend on the order of the chunks. -/
lemma perm (h : Sums stats own) (hperm : own.Perm own') : Sums stats own' where
  docs := by rw [h.docs, hperm.length_eq]
  totalLength := by rw [h.totalLength, LexicalIndex.totalLength_eq_of_perm hperm]
  postings term :=
    (h.postings term).perm (hperm.filter _) fun _ hlists => hlists.perm (hperm.filter _)

/-- Enrolling a chunk makes the numbers those with it. -/
lemma enter (h : Sums stats own) : Sums (stats.enroll entry.chunk (.of entry)) (entry :: own) where
  docs := by simp only [Stats.enroll, h.docs, List.length_cons]
  totalLength := by
    simp only [Stats.enroll, Doc.of, h.totalLength, LexicalIndex.totalLength, List.foldr_cons]
    omega
  postings term := by
    have hold := h.postings term
    simp only [Stats.enroll, Doc.of, getElem?_foldl_alter (nodup_keys_tally _), mem_keys_tally,
      List.filter_cons, List.contains_iff_mem]
    by_cases hterm : term ∈ entry.terms
    · rw [if_pos hterm, if_pos hterm]
      exact hold.enter .empty fun _ hlists => hlists.enter
    · rw [if_neg hterm, if_neg hterm]
      exact hold

/-- Dismissing a chunk makes the numbers those without it. -/
lemma leave (hnew : entry.chunk ∉ own.map (·.chunk)) (h : Sums stats (entry :: own)) :
    Sums (stats.dismiss entry.chunk (.of entry)) own where
  docs := by simp only [Stats.dismiss, h.docs, List.length_cons, Nat.add_sub_cancel]
  totalLength := by
    simp only [Stats.dismiss, Doc.of, h.totalLength, LexicalIndex.totalLength, List.foldr_cons]
    omega
  postings term := by
    have hold := h.postings term
    simp only [List.filter_cons, List.contains_iff_mem] at hold
    simp only [Stats.dismiss, Doc.of, getElem?_foldl_alter (nodup_keys_tally _), mem_keys_tally]
    by_cases hterm : term ∈ entry.terms
    · rw [if_pos hterm] at hold ⊢
      have hothers := notMem_map_filter hnew (·.terms.contains term)
      exact hold.leave (fun _ hlists => hlists.keep) fun _ hlists => hlists.leave hothers
    · rw [if_neg hterm] at hold ⊢
      exact hold

/-- A tenant is dropped when it has no chunks. -/
lemma keep (h : Sums stats own) : (stats.docs != 0) = true ↔ own ≠ [] := by
  rw [h.docs, bne_iff_ne, ne_eq, List.length_eq_zero_iff]

end Sums

/-! #### All chunks -/

/-- Tables that hold some chunks, each of which has its own identifier. -/
structure Represents (p : Postings) (entries : List LexicalEntry) : Prop where
  distinct : (entries.map (·.chunk)).Nodup
  docs : ∀ chunk doc, p.docs[chunk]? = some doc ↔ ∃ e ∈ entries, e.chunk = chunk ∧ Doc.of e = doc
  tenants : ∀ tenant, Kept Sums p.tenants[tenant]? (entries.filter (·.tenant == tenant))

/-- A chunk and all others are all chunks. -/
lemma perm_cons_filter (hdistinct : (entries.map (·.chunk)).Nodup) (hentry : entry ∈ entries) :
    entries.Perm (entry :: entries.filter (·.chunk != entry.chunk)) := by
  have hnodup : entries.Nodup := .of_map _ hdistinct
  have hfront : entry ∉ entries.filter (·.chunk != entry.chunk) := by simp
  refine (List.perm_ext_iff_of_nodup hnodup
    (List.nodup_cons.mpr ⟨hfront, hnodup.filter _⟩)).mpr ?_
  intro e
  rw [List.mem_cons, List.mem_filter, bne_iff_ne]
  constructor
  · intro he
    by_cases heq : e.chunk = entry.chunk
    · exact .inl (List.inj_on_of_nodup_map hdistinct he hentry heq)
    · exact .inr ⟨he, heq⟩
  · rintro (rfl | ⟨he, -⟩)
    · exact hentry
    · exact he

namespace Represents

/-- Empty tables hold no chunks. -/
lemma empty : Represents .empty [] where
  distinct := List.nodup_nil
  docs chunk doc := by simp [Postings.empty]
  tenants tenant := by
    simp only [Postings.empty, Std.HashMap.getElem?_empty, List.filter_nil]
    exact .vacant

/-- Chunks are held in any order. -/
lemma perm (h : Represents p entries) (hperm : entries.Perm entries') : Represents p entries' where
  distinct := (hperm.map _).nodup_iff.mp h.distinct
  docs chunk doc := by simp only [h.docs, hperm.mem_iff]
  tenants tenant :=
    (h.tenants tenant).perm (hperm.filter _) fun _ hsums => hsums.perm (hperm.filter _)

/-- A chunk is held with what was kept of it. -/
lemma docs_of_mem (h : Represents p entries) (hmem : entry ∈ entries) :
    p.docs[entry.chunk]? = some (.of entry) := (h.docs _ _).mpr ⟨entry, hmem, rfl, rfl⟩

/-- Nothing is kept of a chunk that is not held. -/
lemma docs_of_notMem (h : Represents p entries) {chunk : Id}
    (hchunk : chunk ∉ entries.map (·.chunk)) : p.docs[chunk]? = none := by
  refine Option.eq_none_iff_forall_ne_some.mpr ?_
  intro doc hdoc
  obtain ⟨e, he, rfl, -⟩ := (h.docs _ _).mp hdoc
  exact hchunk (List.mem_map_of_mem he)

/-- A chunk that was not held is held. -/
lemma insert (h : Represents p entries) (hnew : entry.chunk ∉ entries.map (·.chunk)) :
    Represents (p.insert entry) (entry :: entries) where
  distinct := List.nodup_cons.mpr ⟨hnew, h.distinct⟩
  docs chunk doc := by
    simp only [Postings.insert, Std.HashMap.getElem?_insert, beq_iff_eq, List.exists_mem_cons_iff]
    split
    · next heq =>
      subst heq
      rw [Option.some_inj]
      refine ⟨fun hdoc => .inl ⟨rfl, hdoc⟩, ?_⟩
      rintro (⟨-, hdoc⟩ | ⟨e, he, heq, -⟩)
      · exact hdoc
      · exact absurd (heq ▸ List.mem_map_of_mem he) hnew
    · next hne => simp [h.docs, hne]
  tenants tenant := by
    have hold := h.tenants tenant
    simp only [Postings.insert, Std.HashMap.getElem?_alter, beq_iff_eq, List.filter_cons]
    by_cases htenant : entry.tenant = tenant
    · subst htenant
      rw [if_pos rfl, if_pos rfl]
      exact hold.enter .empty fun _ hsums => hsums.enter
    · rw [if_neg htenant, if_neg htenant]
      exact hold

/-- The chunk at the front is no longer held once it is erased. -/
lemma erase_front (h : Represents p (entry :: entries)) :
    Represents (p.erase entry.chunk) entries := by
  have hnodup : (entry.chunk :: entries.map (·.chunk)).Nodup := h.distinct
  obtain ⟨hnew, hdistinct⟩ := List.nodup_cons.mp hnodup
  unfold Postings.erase
  rw [h.docs_of_mem List.mem_cons_self]
  refine ⟨hdistinct, ?_, ?_⟩
  · intro chunk doc
    have hold := h.docs chunk doc
    simp only [List.exists_mem_cons_iff] at hold
    simp only [Std.HashMap.getElem?_erase, beq_iff_eq]
    split
    · next heq =>
      subst heq
      constructor
      · intro hnone
        cases hnone
      · rintro ⟨e, he, heq, -⟩
        exact absurd (heq ▸ List.mem_map_of_mem he) hnew
    · next hne => simp [hold, hne]
  · intro tenant
    have hold := h.tenants tenant
    simp only [List.filter_cons, beq_iff_eq] at hold
    simp only [Std.HashMap.getElem?_alter, beq_iff_eq, Doc.of]
    by_cases htenant : entry.tenant = tenant
    · subst htenant
      rw [if_pos rfl] at hold ⊢
      have hothers := notMem_map_filter hnew (·.tenant == entry.tenant)
      exact hold.leave (fun _ hsums => hsums.keep) fun _ hsums => hsums.leave hothers
    · rw [if_neg htenant] at hold ⊢
      exact hold

/-- A chunk that is erased is no longer held, and all others are. -/
lemma erase (h : Represents p entries) (chunk : Id) :
    Represents (p.erase chunk) (entries.filter (·.chunk != chunk)) := by
  by_cases hchunk : chunk ∈ entries.map (·.chunk)
  · obtain ⟨entry, hentry, rfl⟩ := List.mem_map.mp hchunk
    exact (h.perm (perm_cons_filter h.distinct hentry)).erase_front
  · have hall : entries.filter (·.chunk != chunk) = entries := by
      refine List.filter_eq_self.mpr fun entry hentry => bne_iff_ne.mpr ?_
      rintro rfl
      exact hchunk (List.mem_map_of_mem hentry)
    unfold Postings.erase
    rw [hall, h.docs_of_notMem hchunk]
    exact h

/-- Chunks that are removed are no longer held, and all others are. -/
lemma remove (h : Represents p entries) (chunks : List Id) :
    Represents (p.remove chunks) (entries.filter fun entry => !chunks.contains entry.chunk) := by
  unfold Postings.remove
  induction chunks generalizing p entries with
  | nil => simpa using h
  | cons chunk chunks ih =>
    have hrest : (entries.filter fun entry => !(chunk :: chunks).contains entry.chunk) =
        (entries.filter (·.chunk != chunk)).filter fun entry => !chunks.contains entry.chunk := by
      rw [List.filter_filter]
      refine List.filter_congr fun entry _ => ?_
      rw [List.contains_cons, Bool.not_or, Bool.and_comm, bne]
    rw [List.foldl_cons, hrest]
    exact ih (h.erase chunk)

/-- A chunk that is added is held in place of any under its identifier. -/
lemma add (h : Represents p entries) (chunk record : Id) (tenant text : String) :
    Represents (p.add chunk record tenant text)
      (⟨chunk, record, tenant, terms text⟩ :: entries.filter (·.chunk != chunk)) := by
  refine (h.erase chunk).insert ?_
  intro hmem
  obtain ⟨e, he, heq⟩ := List.mem_map.mp hmem
  exact bne_iff_ne.mp (List.mem_filter.mp he).2 heq

/-- Tables have as many chunks as they hold. -/
lemma size_eq (h : Represents p entries) : p.size = entries.length := by
  have hperm : p.docs.keys.Perm (entries.map (·.chunk)) := by
    refine (List.perm_ext_iff_of_nodup Std.HashMap.nodup_keys h.distinct).mpr ?_
    intro chunk
    rw [Std.HashMap.mem_keys, Std.HashMap.mem_iff_isSome_getElem?, Option.isSome_iff_exists]
    simp only [h.docs, List.mem_map]
    exact ⟨fun ⟨_, e, he, heq, _⟩ => ⟨e, he, heq⟩, fun ⟨e, he, heq⟩ => ⟨_, e, he, heq, rfl⟩⟩
  unfold Postings.size
  rw [← Std.HashMap.length_keys, hperm.length_eq, List.length_map]

end Represents

end Postings

end Dossier
