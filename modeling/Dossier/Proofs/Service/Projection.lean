import Dossier.Proofs.Service.Reachable
import Dossier.Proofs.Store.Tenancy

/-!
# Indexes and the store

The indexes of a process never tell of more than the store holds.  `LexicalIndex.Shows` says that
every entry of the lexical index is a live chunk of its record and its tenant; the transactions of a
service drop from the index what they drop from the store.
-/

namespace Dossier

variable {σ : Type}

namespace LexicalIndex

variable {index : LexicalIndex} {e : LexicalEntry}

/-! ### Entries -/

/-- What is left of an index without some chunks. -/
lemma mem_remove {chunks : List Id} :
    e ∈ (index.remove chunks).entries ↔ e ∈ index.entries ∧ e.chunk ∉ chunks := by
  unfold remove
  rw [List.mem_filter, Bool.not_eq_true', ← Bool.not_eq_true, List.contains_iff_mem]

/-- The entries of an index with one more chunk. -/
lemma mem_add {chunk record : Id} {tenant text : String} :
    e ∈ (index.add chunk record tenant text).entries ↔
      e = ⟨chunk, record, tenant, Dossier.terms text⟩ ∨ e ∈ index.entries ∧ e.chunk ≠ chunk := by
  unfold add
  rw [List.mem_cons, mem_remove, List.mem_singleton]

/-- The entries of an index with more chunks are old ones and those of the chunks. -/
lemma of_mem_foldl_add {α : Type} {chunk record : α → Id} {tenant text : α → String} {as : List α}
    (h : e ∈ (as.foldl (fun index a => index.add (chunk a) (record a) (tenant a) (text a))
      index).entries) :
    e ∈ index.entries ∨ ∃ a ∈ as, e = ⟨chunk a, record a, tenant a, Dossier.terms (text a)⟩ := by
  induction as generalizing index with
  | nil => exact .inl h
  | cons a rest ih =>
    rw [List.foldl_cons] at h
    rcases ih h with hone | ⟨a', ha', heq⟩
    · rcases mem_add.mp hone with heq | ⟨hold, -⟩
      · exact .inr ⟨a, List.mem_cons_self, heq⟩
      · exact .inl hold
    · exact .inr ⟨a', List.mem_cons_of_mem _ ha', heq⟩

/-- An entry of another chunk stays in an index with more chunks. -/
lemma mem_foldl_add_of_ne {α : Type} {chunk record : α → Id} {tenant text : α → String}
    {as : List α} (h : e ∈ index.entries) (hne : ∀ a ∈ as, chunk a ≠ e.chunk) :
    e ∈ (as.foldl (fun index a => index.add (chunk a) (record a) (tenant a) (text a))
      index).entries := by
  induction as generalizing index with
  | nil => exact h
  | cons a rest ih =>
    have hfirst : chunk a ≠ e.chunk := hne a List.mem_cons_self
    exact ih (mem_add.mpr (.inr ⟨h, hfirst.symm⟩)) fun a' ha' =>
      hne a' (List.mem_cons_of_mem _ ha')

/-! ### What an index shows -/

/-- Every entry of an index is a live chunk of its record and its tenant. -/
def Shows (index : LexicalIndex) (s : Store) : Prop :=
  ∀ e ∈ index.entries, s.LiveChunk e.tenant e.record e.chunk

/-- An empty index shows nothing. -/
lemma shows_empty (s : Store) : Shows .empty s := by
  intro e he
  cases he

/-- An index shows a store in which every chunk is live that was live before. -/
lemma Shows.mono {s t : Store} (h : index.Shows s)
    (hkept : ∀ {tenant record chunk}, s.LiveChunk tenant record chunk →
      t.LiveChunk tenant record chunk) : index.Shows t :=
  fun e he => hkept (h e he)

variable {chunking : Text.Chunking} {dimension : Nat} {s t : Store}

/-- The index of a process that has staged a draft shows the store behind its transaction. -/
lemma Shows.staging (h : index.Shows s) (hs : s.Sound chunking dimension) {d : Draft}
    {fresh : Nat → Id} {now : Instant} {staged : Staged} (hd : d.CutBy chunking)
    (hstaged : d.Staging fresh now s staged t) :
    Shows (staged.rows.foldl staged.index (index.remove staged.replaced)) t := by
  intro e he
  rcases of_mem_foldl_add he with hold | ⟨row, hrow, rfl⟩
  · obtain ⟨hmem, hchunk⟩ := mem_remove.mp hold
    exact (h e hmem).staging hs hd hstaged hchunk
  · exact Store.liveChunk_of_mem_rows hstaged hrow

/-- An index without chunks that a tenant has no entries for has the same entries for the tenant. -/
lemma ofTenant_remove {tenant : String} {chunks : List Id}
    (h : ∀ e ∈ index.ofTenant tenant, e.chunk ∉ chunks) :
    (index.remove chunks).ofTenant tenant = index.ofTenant tenant := by
  refine Store.filter_filter_of_kept fun e he hown => ?_
  rw [Bool.not_eq_true', ← Bool.not_eq_true, List.contains_iff_mem]
  exact h e (List.mem_filter.mpr ⟨he, hown⟩)

/-- An index with more chunks of another tenant has the same entries for a tenant, if it had none
for these chunks. -/
lemma ofTenant_foldl_add {α : Type} {chunk record : α → Id} {text : α → String} {as : List α}
    {tenant tenant' : String} (htenant : tenant' ≠ tenant)
    (h : ∀ e ∈ index.ofTenant tenant, ∀ a ∈ as, e.chunk ≠ chunk a) :
    LexicalIndex.ofTenant (as.foldl (fun index a => index.add (chunk a) (record a) tenant' (text a))
      index) tenant = index.ofTenant tenant := by
  induction as generalizing index with
  | nil => rfl
  | cons a rest ih =>
    have hadd : (index.add (chunk a) (record a) tenant' (text a)).ofTenant tenant =
        index.ofTenant tenant := by
      unfold add ofTenant
      rw [List.filter_cons_of_neg (by simpa using htenant)]
      refine ofTenant_remove fun e he hmem => ?_
      exact h e he a List.mem_cons_self (List.mem_singleton.mp hmem)
    rw [List.foldl_cons, ih, hadd]
    rw [hadd]
    exact fun e he a' ha' => h e he a' (List.mem_cons_of_mem _ ha')

/-- An entry of a tenant is a live chunk of the tenant. -/
lemma Shows.liveChunk (h : index.Shows s) {tenant : String} (he : e ∈ index.ofTenant tenant) :
    s.LiveChunk tenant e.record e.chunk := by
  obtain ⟨hmem, hown⟩ := List.mem_filter.mp he
  rw [← beq_iff_eq.mp hown]
  exact h e hmem

/-- The index of a process that has staged a draft has the same entries for every other tenant. -/
lemma Shows.ofTenant_staging (h : index.Shows s) (hs : s.Sound chunking dimension) {d : Draft}
    {fresh : Nat → Id} {now : Instant} {staged : Staged} (hd : d.CutBy chunking)
    (hstaged : d.Staging fresh now s staged t) {tenant : String} (htenant : d.tenant ≠ tenant) :
    LexicalIndex.ofTenant (staged.rows.foldl staged.index (index.remove staged.replaced)) tenant =
      index.ofTenant tenant := by
  have hkept : ∀ e ∈ index.ofTenant tenant, e.chunk ∉ staged.replaced := fun e he hgone =>
    htenant (hs.tenant_eq_of_liveChunk (Store.liveChunk_of_mem_replaced hstaged hgone)
      (h.liveChunk he))
  have hremoved := ofTenant_remove hkept
  have hown : staged.tenant ≠ tenant := by rwa [Store.tenant_of_staging hstaged]
  refine (ofTenant_foldl_add hown fun e he row hrow heq => ?_).trans hremoved
  -- A chunk of the tenant stays where it is, so that no new chunk can have its identifier.
  rw [hremoved] at he
  have hnew := Store.liveChunk_of_mem_rows hstaged hrow
  rw [Store.tenant_of_staging hstaged, ← heq] at hnew
  have hthere := (h.liveChunk he).staging hs hd hstaged (hkept e he)
  exact htenant ((hstaged.sound hd hs).tenant_eq_of_liveChunk hnew hthere)

/-- The index of a process that has retired a record has the same entries for every other tenant. -/
lemma Shows.ofTenant_retired (h : index.Shows s) (hs : s.Sound chunking dimension) {r : Record}
    (hr : r ∈ s.records) {tenant : String} (htenant : r.tenant ≠ tenant) :
    (index.remove (s.chunkIds r.id)).ofTenant tenant = index.ofTenant tenant := by
  refine ofTenant_remove fun e he hgone => ?_
  obtain ⟨⟨r', hr', hid', -, hown⟩, c, hc, hcid, hcrecord⟩ := h.liveChunk he
  obtain ⟨c', hc', hrecord, hid⟩ := Store.mem_chunkIds.mp hgone
  obtain rfl := hs.keyed.chunk_eq hc hc' (hcid.trans hid.symm)
  rw [hs.keyed.record_eq hr' hr (hid'.trans (hcrecord.symm.trans hrecord))] at hown
  exact htenant hown

/-- The index of a process that has retired a record shows the store behind the retirement. -/
lemma Shows.retired (h : index.Shows s) (hs : s.Sound chunking dimension) {r : Record}
    (hr : ∀ held ∈ s.records, held.id = r.id → held.tenant = r.tenant) (now : Instant) :
    Shows (index.remove (s.chunkIds r.id)) (s.retired r now) := by
  intro e he
  obtain ⟨hmem, hchunk⟩ := mem_remove.mp he
  exact (h e hmem).retired hs hr now hchunk

/-- An index that is made anew from live chunks shows the store. -/
lemma shows_lexicalOf {sources : List ChunkContext} (h : ∀ ctx ∈ sources, ctx ∈ s.liveChunks) :
    Shows (Memory.lexicalOf sources) s := by
  intro e he
  rcases of_mem_foldl_add he with hnone | ⟨ctx, hctx, rfl⟩
  · cases hnone
  · exact Store.liveChunk_of_mem_liveChunks (h ctx hctx)

end LexicalIndex

variable {svc : Service σ} {w w' : World σ}

/-- Taking vectors into an index leaves the lexical index alone. -/
lemma Memory.lexical_takingIn (m : Memory) (written : List (Id × Vec)) :
    (m.takingIn written).lexical = m.lexical := by
  unfold takingIn
  split <;> rfl

/-- Behind a move for a tenant the lexical index shows the store. -/
lemma MoveOf.shows {tenant : String} (h : MoveOf svc tenant w w') (hs : svc.Keeps w.store)
    (hw : w.memory.lexical.Shows w.store) : w'.memory.lexical.Shows w'.store := by
  cases h with
  | still h =>
    rw [h.lexical]
    exact hw.mono fun hlive => hlive.of_sameTables h.tables
  | staged htenant hd h => exact hw.staging hs hd h
  | @retired r hr htenant now =>
    refine hw.retired hs ?_ now
    intro held hheld hid
    rw [hs.keyed.record_eq hheld hr hid]
  | committed record now hlength hdim =>
    rw [Memory.lexical_takingIn]
    exact hw.mono fun hlive => hlive.committed _ _ _ _ _
  | failed record error => exact hw.mono fun hlive => hlive.changeChunks fun _ => rfl
  | followed h => exact hw

/-- Behind a move the lexical index shows the store. -/
lemma Move.shows (h : Move svc w w') (hs : svc.Keeps w.store)
    (hw : w.memory.lexical.Shows w.store) : w'.memory.lexical.Shows w'.store := by
  cases h with
  | of tenant h => exact h.shows hs hw
  | requeued => exact hw.mono fun hlive => hlive.changeChunks fun _ => rfl
  | rebuilt hsources hrows =>
    exact LexicalIndex.shows_lexicalOf fun ctx hctx => hsources.subset hctx

/-- Moves of a service keep the lexical index showing the store. -/
lemma Moves.shows (h : Moves svc w w') (hs : svc.Keeps w.store)
    (hw : w.memory.lexical.Shows w.store) : w'.memory.lexical.Shows w'.store := by
  induction h with
  | refl => exact hw
  | tail hmoves hmove ih => exact hmove.shows (Moves.sound hmoves hs) ih

/-- Behind a step the lexical index shows the store. -/
lemma Step.shows (hq : svc.Quiet) (h : Step svc w w') (hs : svc.Keeps w.store)
    (hw : w.memory.lexical.Shows w.store) : w'.memory.lexical.Shows w'.store := by
  cases h with
  | operation op => exact (op.moves hq w).shows hs hw
  | elapse now cancelled outside bus refused =>
    exact hw.mono fun hlive => hlive.of_sameTables ⟨rfl, rfl, rfl, rfl⟩
  | restart => exact LexicalIndex.shows_empty w.store

/-- The lexical index of every reachable world shows its store. -/
lemma Reachable.shows (hq : svc.Quiet) (hw : Reachable svc w) :
    w.memory.lexical.Shows w.store := by
  obtain ⟨now, outside, hrun⟩ := hw
  induction hrun with
  | refl => exact LexicalIndex.shows_empty _
  | tail hrun hstep ih => exact hstep.shows hq (Reachable.sound hq ⟨now, outside, hrun⟩) ih

end Dossier
