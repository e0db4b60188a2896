import Mathlib.Data.List.Induction
import Dossier.Proofs.Retrieval.Answers

/-!
# What survives in the lexical index

An index is edited: chunks are put in, again under another record, tenant or text too, taken out, or
all of them at once.  An addition survives a history of edits if nothing after it drops its chunk
(`Survives`).  Whatever came in between, an index answers from the additions that survive
(`Surviving.answer`), and so as one into which these alone were put, and no matter what was done
to the chunks of other tenants (`lexical_index_forgets`).
-/

namespace Dossier

namespace LexicalIndex

/-! ### Histories -/

/-- A chunk as it is put in. -/
structure Addition where
  chunk : Id
  record : Id
  tenant : String
  text : String

/-- What is kept of a chunk that is put in. -/
def Addition.entry (a : Addition) : LexicalEntry := ⟨a.chunk, a.record, a.tenant, terms a.text⟩

/-- What is done to an index. -/
inductive Edit where
  | add (a : Addition)
  | remove (chunks : List Id)
  | clear

/-- Does an edit drop what was put in under an identifier before? -/
def Edit.Drops : Edit → Id → Prop
  | .add a, chunk => a.chunk = chunk
  | .remove chunks, chunk => chunk ∈ chunks
  | .clear, _ => True

instance Edit.decidableDrops (edit : Edit) (chunk : Id) : Decidable (edit.Drops chunk) :=
  match edit with
  | .add a => inferInstanceAs (Decidable (a.chunk = chunk))
  | .remove chunks => inferInstanceAs (Decidable (chunk ∈ chunks))
  | .clear => inferInstanceAs (Decidable True)

/-- The index after an edit. -/
def edit (index : LexicalIndex) : Edit → LexicalIndex
  | .add a => index.add a.chunk a.record a.tenant a.text
  | .remove chunks => index.remove chunks
  | .clear => empty

/-- The index after a history of edits. -/
def after (edits : List Edit) : LexicalIndex := edits.foldl edit empty

end LexicalIndex

open LexicalIndex (Addition Edit Hit)

namespace Postings

/-- The tables after an edit. -/
def edit (p : Postings) : Edit → Postings
  | .add a => p.add a.chunk a.record a.tenant a.text
  | .remove chunks => p.remove chunks
  | .clear => empty

/-- The tables after a history of edits. -/
def after (edits : List Edit) : Postings := edits.foldl edit empty

end Postings

variable {edits others : List Edit} {survivors own order : List Addition} {tenant : String}
  {a : Addition}

/-! ### Survival -/

/-- Is an addition in a history, and its chunk dropped by no edit after it? -/
def Survives (edits : List Edit) (a : Addition) : Prop :=
  ∃ before after, edits = before ++ .add a :: after ∧ ∀ edit ∈ after, ¬edit.Drops a.chunk

/-- Nothing survives in a history without edits. -/
lemma not_survives_nil : ¬Survives [] a := by
  rintro ⟨before, after, heq, -⟩
  simp at heq

/-- What survives two histories, one behind the other: what survives the second one, and what
survives the first one and is dropped by no edit of the second one. -/
lemma survives_append : Survives (edits ++ others) a ↔
    Survives others a ∨ Survives edits a ∧ ∀ edit ∈ others, ¬edit.Drops a.chunk := by
  constructor
  · rintro ⟨before, after, heq, hafter⟩
    rcases List.append_eq_append_iff.mp heq with ⟨later, rfl, rfl⟩ | ⟨rest, rfl, hrest⟩
    · exact .inl ⟨later, after, rfl, hafter⟩
    · rcases List.cons_eq_append_iff.mp hrest with ⟨rfl, rfl⟩ | ⟨between, rfl, rfl⟩
      · exact .inl ⟨[], after, rfl, hafter⟩
      · refine .inr ⟨⟨before, between, rfl, ?_⟩, ?_⟩
        · exact fun edit hedit => hafter edit (List.mem_append_left _ hedit)
        · exact fun edit hedit => hafter edit (List.mem_append_right _ hedit)
  · rintro (⟨before, after, rfl, hafter⟩ | ⟨⟨before, after, rfl, hafter⟩, hothers⟩)
    · exact ⟨edits ++ before, after, by simp, hafter⟩
    · refine ⟨before, after ++ others, by simp, ?_⟩
      intro edit hedit
      exact (List.mem_append.mp hedit).elim (hafter edit) (hothers edit)

/-- What survives one more edit: what it adds, and what survived before and is not dropped by it. -/
lemma survives_concat {edit : Edit} : Survives (edits ++ [edit]) a ↔
    edit = .add a ∨ Survives edits a ∧ ¬edit.Drops a.chunk := by
  have hone : Survives [edit] a ↔ edit = .add a := by
    constructor
    · rintro ⟨before, after, heq, -⟩
      have hmem : Edit.add a ∈ [edit] := heq ▸ List.mem_append_right _ List.mem_cons_self
      exact (List.mem_singleton.mp hmem).symm
    · rintro rfl
      exact ⟨[], [], rfl, by simp⟩
  rw [survives_append, hone, List.forall_mem_singleton]

/-- The additions that survive a history, in some order, no two of them under one identifier. -/
structure Surviving (edits : List Edit) (survivors : List Addition) : Prop where
  distinct : (survivors.map (·.chunk)).Nodup
  members : ∀ a, a ∈ survivors ↔ Survives edits a

/-- Additions under different identifiers all survive. -/
lemma Surviving.of_distinct (hdistinct : (order.map (·.chunk)).Nodup) :
    Surviving (order.map .add) order where
  distinct := hdistinct
  members a := by
    constructor
    · intro ha
      obtain ⟨before, after, rfl⟩ := List.append_of_mem ha
      refine ⟨before.map .add, after.map .add, by simp, ?_⟩
      intro edit hedit
      obtain ⟨b, hb, rfl⟩ := List.mem_map.mp hedit
      rw [List.map_append, List.map_cons] at hdistinct
      have hafter := (List.nodup_cons.mp (List.nodup_append.mp hdistinct).2.1).1
      exact fun heq => hafter (heq ▸ List.mem_map_of_mem hb)
    · rintro ⟨before, after, heq, -⟩
      have hmem : Edit.add a ∈ order.map .add := heq ▸ List.mem_append_right _ List.mem_cons_self
      obtain ⟨b, hb, hba⟩ := List.mem_map.mp hmem
      cases hba
      exact hb

/-! ### What an index keeps -/

/-- The additions that are kept after an edit. -/
def LexicalIndex.Edit.keep (survivors : List Addition) : Edit → List Addition
  | .add a => a :: survivors.filter (·.chunk != a.chunk)
  | .remove chunks => survivors.filter fun a => !chunks.contains a.chunk
  | .clear => []

/-- What is kept after an edit is what survives it. -/
lemma Surviving.keep (h : Surviving edits survivors) (edit : Edit) :
    Surviving (edits ++ [edit]) (edit.keep survivors) := by
  cases edit with
  | add b =>
    refine ⟨?_, ?_⟩
    · have hnew : b.chunk ∉ (survivors.filter (·.chunk != b.chunk)).map (·.chunk) := by simp
      exact List.nodup_cons.mpr ⟨hnew, h.distinct.sublist (List.filter_sublist.map _)⟩
    · intro a
      simp only [Edit.keep, List.mem_cons, List.mem_filter, bne_iff_ne, h.members,
        survives_concat, Edit.Drops, Edit.add.injEq]
      exact or_congr eq_comm (and_congr_right fun _ => not_congr eq_comm)
  | remove chunks =>
    refine ⟨h.distinct.sublist (List.filter_sublist.map _), ?_⟩
    intro a
    simp [Edit.keep, h.members, survives_concat, Edit.Drops]
  | clear =>
    refine ⟨List.nodup_nil, ?_⟩
    intro a
    simp [Edit.keep, survives_concat, Edit.Drops]

/-- The index keeps the entries of the additions that are kept. -/
lemma LexicalIndex.entries_edit (index : LexicalIndex)
    (h : index.entries = survivors.map Addition.entry) (edit : Edit) :
    (index.edit edit).entries = (edit.keep survivors).map Addition.entry := by
  cases edit with
  | add a =>
    simp only [LexicalIndex.edit, add, remove, Edit.keep, h, List.filter_map, List.map_cons,
      List.contains_cons, List.contains_nil, Bool.or_false]
    rfl
  | remove chunks =>
    simp only [LexicalIndex.edit, remove, Edit.keep, h, List.filter_map]
    rfl
  | clear => rfl

/-- Tables that represent additions represent those that are kept after an edit. -/
lemma Postings.Represents.edit {p : Postings} (h : p.Represents (survivors.map Addition.entry))
    (edit : Edit) : (p.edit edit).Represents ((edit.keep survivors).map Addition.entry) := by
  cases edit with
  | add a =>
    have hadd := h.add a.chunk a.record a.tenant a.text
    rw [List.filter_map] at hadd
    exact hadd
  | remove chunks =>
    have hremove := h.remove chunks
    rw [List.filter_map] at hremove
    exact hremove
  | clear => exact .empty

/-- After every history both indexes keep the additions that survive it. -/
theorem exists_surviving (edits : List Edit) : ∃ survivors, Surviving edits survivors ∧
    (LexicalIndex.after edits).entries = survivors.map Addition.entry ∧
    (Postings.after edits).Represents (survivors.map Addition.entry) := by
  induction edits using List.reverseRecOn with
  | nil => exact ⟨[], ⟨List.nodup_nil, by simp [not_survives_nil]⟩, rfl, .empty⟩
  | append_singleton edits edit ih =>
    obtain ⟨survivors, hsurviving, hentries, hrepresents⟩ := ih
    unfold LexicalIndex.after at hentries
    unfold Postings.after at hrepresents
    refine ⟨edit.keep survivors, hsurviving.keep edit, ?_, ?_⟩
    · rw [LexicalIndex.after, List.foldl_concat]
      exact LexicalIndex.entries_edit _ hentries edit
    · rw [Postings.after, List.foldl_concat]
      exact hrepresents.edit edit

/-! ### What an index answers -/

namespace Surviving

/-- Survivors of one history are the same in another order. -/
lemma perm (h : Surviving edits survivors) (h' : Surviving edits order) : survivors.Perm order := by
  refine (List.perm_ext_iff_of_nodup (.of_map _ h.distinct) (.of_map _ h'.distinct)).mpr ?_
  intro a
  rw [h.members, h'.members]

/-- Both indexes hold as many chunks as survive. -/
lemma size_eq (h : Surviving edits survivors) : (Postings.after edits).size = survivors.length ∧
    (LexicalIndex.after edits).size = survivors.length := by
  obtain ⟨kept, hkept, hentries, hrepresents⟩ := exists_surviving edits
  rw [hrepresents.size_eq, LexicalIndex.size, hentries, List.length_map, (h.perm hkept).length_eq]
  exact ⟨rfl, rfl⟩

/-- Tables answer from the survivors of the tenant. -/
lemma answer (h : Surviving edits survivors) (tenant : String) (ts : List String) :
    Answer ((survivors.filter (·.tenant == tenant)).map Addition.entry) ts
      ((Postings.after edits).search tenant ts) := by
  obtain ⟨kept, hkept, -, hrepresents⟩ := exists_surviving edits
  have hanswer := hrepresents.answer_search tenant ts
  rw [List.filter_map] at hanswer
  exact hanswer.perm (((hkept.perm h).filter _).map _)

/-- A search in tables finds the survivors of the tenant that share a term with the query. -/
lemma mem_search_iff (h : Surviving edits survivors) {query : String} {ts : List String}
    (hts : ts.Perm (terms query).eraseDups) (hit : Hit) :
    hit ∈ (Postings.after edits).search tenant ts ↔
      ∃ a ∈ survivors.filter (·.tenant == tenant), (∃ term ∈ terms query, term ∈ terms a.text) ∧
        hit = ⟨a.chunk, a.record,
          scoreOf ((survivors.filter (·.tenant == tenant)).map Addition.entry) ts a.entry⟩ := by
  rw [(h.answer tenant ts).found]
  simp only [hts.mem_iff, List.mem_eraseDups, List.mem_map, exists_exists_and_eq_and]
  rfl

/-- The index that goes through its chunks answers as tables do that go through the same terms in
the same order. -/
lemma search_eq (edits : List Edit) (tenant : String) (ts : List String) :
    (LexicalIndex.after edits).search tenant ts = (Postings.after edits).search tenant ts := by
  obtain ⟨kept, -, hentries, hrepresents⟩ := exists_surviving edits
  have hown : (((kept.map Addition.entry).filter (·.tenant == tenant)).map (·.chunk)).Nodup :=
    hrepresents.distinct.sublist (List.filter_sublist.map _)
  unfold LexicalIndex.search LexicalIndex.ofTenant
  rw [hentries]
  exact (LexicalIndex.answer_rank hown ts).eq (hrepresents.answer_search tenant _)

/-- Tables into which the survivors are put in any order answer in the same way. -/
lemma search_fresh (h : Surviving edits survivors) (horder : order.Perm survivors)
    (tenant : String) (ts : List String) :
    (Postings.after (order.map .add)).search tenant ts =
      (Postings.after edits).search tenant ts := by
  have hfresh : Surviving (order.map .add) order :=
    .of_distinct ((horder.map _).nodup_iff.mpr h.distinct)
  exact (hfresh.answer tenant ts).eq ((h.answer tenant ts).perm ((horder.symm.filter _).map _))

end Surviving

/-! ### Other tenants -/

/-- Does an edit leave the additions of a tenant alone?  It adds none, and it drops none of them. -/
structure LexicalIndex.Edit.Spares (edit : Edit) (tenant : String) (own : List Addition) :
    Prop where
  adds : ∀ a, edit = .add a → a.tenant ≠ tenant
  drops : ∀ a ∈ own, ¬edit.Drops a.chunk

/-- Edits that leave the additions of a tenant alone make none of them survive. -/
lemma not_survives_of_spares (hspares : ∀ edit ∈ others, edit.Spares tenant own)
    (htenant : a.tenant = tenant) : ¬Survives others a := by
  rintro ⟨before, after, rfl, -⟩
  exact (hspares (.add a) (by simp)).adds a rfl htenant

namespace Surviving

/-- The survivors of a tenant are those before edits that leave them alone. -/
lemma filter_perm (h : Surviving edits survivors)
    (hspares : ∀ edit ∈ others, edit.Spares tenant (survivors.filter (·.tenant == tenant)))
    (hlater : Surviving (edits ++ others) order) :
    (order.filter (·.tenant == tenant)).Perm (survivors.filter (·.tenant == tenant)) := by
  have horder : order.Nodup := .of_map _ hlater.distinct
  have hsurvivors : survivors.Nodup := .of_map _ h.distinct
  refine (List.perm_ext_iff_of_nodup (horder.filter _) (hsurvivors.filter _)).mpr ?_
  intro a
  simp only [List.mem_filter, beq_iff_eq, hlater.members, survives_append]
  refine and_congr_left fun htenant => ?_
  rw [or_iff_right (not_survives_of_spares hspares htenant), h.members]
  refine and_iff_left_of_imp fun hsurvives edit hedit => ?_
  refine (hspares edit hedit).drops a (List.mem_filter.mpr ⟨(h.members a).mpr hsurvives, ?_⟩)
  exact beq_iff_eq.mpr htenant

/-- Tables answer in the same way after edits that leave the survivors of the tenant alone. -/
lemma search_append (h : Surviving edits survivors)
    (hspares : ∀ edit ∈ others, edit.Spares tenant (survivors.filter (·.tenant == tenant)))
    (ts : List String) :
    (Postings.after (edits ++ others)).search tenant ts =
      (Postings.after edits).search tenant ts := by
  obtain ⟨later, hlater, -⟩ := exists_surviving (edits ++ others)
  have hlatest := (hlater.answer tenant ts).perm ((h.filter_perm hspares hlater).map _)
  exact hlatest.eq (h.answer tenant ts)

end Surviving

/-- The lexical index forgets what was removed or replaced and keeps tenants apart.  After every
history it holds the additions that survive.  A search of a tenant, with the terms of the query in
any order, ranks those of the tenant's survivors that share a term with the query, with scores among
these survivors.  An index into which the survivors are put in any order finds the same, and so does
the index after more edits that leave the tenant's survivors alone. -/
theorem lexical_index_forgets (edits : List Edit) : ∃ survivors, Surviving edits survivors ∧
    (Postings.after edits).size = survivors.length ∧
    (LexicalIndex.after edits).size = survivors.length ∧
    ∀ tenant query ts, ts.Perm (terms query).eraseDups →
      let own := survivors.filter (·.tenant == tenant)
      let hits := (Postings.after edits).search tenant ts
      Ranked (fun hit : Hit => (hit.score, hit.chunk)) hits ∧
      (∀ hit, hit ∈ hits ↔ ∃ a ∈ own, (∃ term ∈ terms query, term ∈ terms a.text) ∧
        hit = ⟨a.chunk, a.record, scoreOf (own.map Addition.entry) ts a.entry⟩) ∧
      (LexicalIndex.after edits).search tenant ts = hits ∧
      (∀ order : List Addition, order.Perm survivors →
        (Postings.after (order.map .add)).search tenant ts = hits ∧
        (LexicalIndex.after (order.map .add)).search tenant ts = hits) ∧
      (∀ others : List Edit, (∀ edit ∈ others, edit.Spares tenant own) →
        (Postings.after (edits ++ others)).search tenant ts = hits ∧
        (LexicalIndex.after (edits ++ others)).search tenant ts = hits) := by
  obtain ⟨survivors, h, -⟩ := exists_surviving edits
  refine ⟨survivors, h, h.size_eq.1, h.size_eq.2, ?_⟩
  intro tenant query ts hts own hits
  refine ⟨(h.answer tenant ts).ranked, h.mem_search_iff hts,
    Surviving.search_eq edits tenant ts, ?_, ?_⟩
  · intro order horder
    have hfresh := h.search_fresh horder tenant ts
    exact ⟨hfresh, (Surviving.search_eq _ tenant ts).trans hfresh⟩
  · intro others hspares
    have hsame := h.search_append hspares ts
    exact ⟨hsame, (Surviving.search_eq _ tenant ts).trans hsame⟩

/-- A chunk of three terms beside one of a single term, so that their average length is two.  Both
terms of the query weigh `ln 2`, and the chunk holds one of them twice: its score is the sum of
`ln 2 * 4.4 / 3.65` and `ln 2 * 2.2 / 2.65`. -/
example :
    let edits : List Edit := [.add ⟨⟨1⟩, ⟨7⟩, "a", "Renewal call: renewal!"⟩,
      .add ⟨⟨2⟩, ⟨8⟩, "a", "Invoice"⟩, .add ⟨⟨3⟩, ⟨9⟩, "b", "Renewal call"⟩]
    ((LexicalIndex.after edits).search "a" ["renewal", "call"]).map
        (fun hit => (hit.chunk, hit.score)) = [(⟨1⟩, Binary.ofRatio 14110177 10000000)] := by
  decide +kernel

/-- Two chunks of a tenant, the first of which is put in again under another tenant. -/
def LexicalIndex.movedChunk : List Edit :=
  [.add ⟨⟨1⟩, ⟨7⟩, "a", "renewal call"⟩, .add ⟨⟨2⟩, ⟨8⟩, "a", "renewal"⟩,
    .add ⟨⟨1⟩, ⟨9⟩, "b", "renewal call"⟩]

/-- The first tenant keeps the other chunk only, with its score among no others.  An index into
which the survivors are put the other way round finds the same, and so does this one without the
moved chunk. -/
theorem lexical_index_forgets_movedChunk :
    let edits := LexicalIndex.movedChunk
    let kept : Addition := ⟨⟨2⟩, ⟨8⟩, "a", "renewal"⟩
    let moved : Addition := ⟨⟨1⟩, ⟨9⟩, "b", "renewal call"⟩
    let ts := ["renewal", "call"]
    let hits := (Postings.after edits).search "a" ts
    ts.Perm (terms "Call: renewal!").eraseDups ∧ (Postings.after edits).size = 2 ∧
      (∀ hit, hit ∈ hits ↔ hit = ⟨⟨2⟩, ⟨8⟩, scoreOf [kept.entry] ts kept.entry⟩) ∧
      (Postings.after [.add kept, .add moved]).search "a" ts = hits ∧
      (Postings.after (edits ++ [.remove [⟨1⟩]])).search "a" ts = hits := by
  intro edits kept moved ts hits
  have hts : ts.Perm (terms "Call: renewal!").eraseDups := by decide +kernel
  have hkept : Surviving edits [moved, kept] := by
    have hnone : Surviving [] [] := ⟨List.nodup_nil, by simp [not_survives_nil]⟩
    exact ((hnone.keep (.add ⟨⟨1⟩, ⟨7⟩, "a", "renewal call"⟩)).keep (.add kept)).keep (.add moved)
  obtain ⟨survivors, h, hsize, -, hall⟩ := lexical_index_forgets edits
  obtain ⟨-, hfound, -, hfresh, hothers⟩ := hall "a" "Call: renewal!" ts hts
  have hperm : survivors.Perm [moved, kept] := h.perm hkept
  have hown : survivors.filter (·.tenant == "a") = [kept] :=
    List.perm_singleton.mp (hperm.filter _)
  rw [hown] at hfound hothers
  refine ⟨hts, hsize.trans hperm.length_eq, ?_, ?_, ?_⟩
  · intro hit
    have hshared : ∃ term ∈ terms "Call: renewal!", term ∈ terms kept.text :=
      ⟨"renewal", by decide +kernel, by decide +kernel⟩
    rw [hfound]
    simp only [List.mem_singleton, exists_eq_left, List.map_cons, List.map_nil, hshared, true_and]
    rfl
  · exact (hfresh [kept, moved] ((List.Perm.swap moved kept []).trans hperm.symm)).1
  · refine (hothers [.remove [⟨1⟩]] ?_).1
    intro edit hedit
    rw [List.mem_singleton.mp hedit]
    refine ⟨nofun, ?_⟩
    intro a ha
    rw [List.mem_singleton.mp ha]
    decide

end Dossier
