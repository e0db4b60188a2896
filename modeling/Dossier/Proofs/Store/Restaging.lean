import Dossier.Proofs.Store.Succession

/-!
# Drafts that can be staged

The work on a draft that replaces a record succeeds when its statements are not refused and the
identifiers of its rows are new: the rows of a draft are apart from each other, because their places
are numbered in order, and they are apart from the rows of every other record.
-/

namespace Dossier

/-- The chunks of a text are numbered in order. -/
lemma Text.index_chunks {cfg : Chunking} {cs : List Char} {i : Nat} (h : i < (chunks cfg cs).length) :
    (chunks cfg cs)[i].index = i := by
  unfold chunks at h ⊢
  split at h
  · exact absurd h (Nat.not_lt_zero i)
  · rename_i first rest htokens
    rw [List.getElem_mapIdx]
    rfl

namespace Store

variable {s : Store} {rows : List StoredChunk}

/-! ### Rows that are apart -/

/-- Two rows that one table may hold: they have different identifiers, and different places if they
belong to one record. -/
def Apart (a b : StoredChunk) : Prop := a.id ≠ b.id ∧ (a.record = b.record → a.index ≠ b.index)

/-- A row does not clash with rows that are apart from it. -/
lemma clashes_eq_false_iff {held : List StoredChunk} {c : StoredChunk} :
    clashes held c = false ↔ ∀ a ∈ held, Apart a c := by
  unfold clashes Apart
  simp [List.any_eq_false, not_or]

/-- Rows can be added exactly when they are apart from those that are there and from each other. -/
lemma insertable_iff {held : List StoredChunk} :
    Insertable held rows ↔ (∀ a ∈ held, ∀ b ∈ rows, Apart a b) ∧ rows.Pairwise Apart := by
  induction rows generalizing held with
  | nil => simp [Insertable, addChunks]
  | cons c rest ih =>
    have hstep : Insertable held (c :: rest) ↔
        (∀ a ∈ held, Apart a c) ∧ Insertable (held ++ [c]) rest := by
      unfold Insertable
      conv_lhs => unfold addChunks
      rw [← clashes_eq_false_iff]
      cases hclash : clashes held c
      · simp
      · simp
    rw [hstep, ih, List.pairwise_cons]
    simp only [List.mem_append, List.mem_cons, or_imp, forall_and, forall_eq]
    tauto

/-- Rows that are apart from the others and have records are added with one statement. -/
lemma perform_insertBatch (hopen : .insertChunks ∉ s.refused) (hrows : Insertable s.chunks rows)
    (howner : ∀ c ∈ rows, (s.record? c.record).isSome) :
    perform (insertBatch rows) s = (.ok (), s.withChunks rows) := by
  refine perform_statement_eq_ok.mpr ⟨hopen, ?_⟩
  have hadd : addChunks s.chunks rows = .ok (s.chunks ++ rows) := hrows
  simp only [hadd, bind, Except.bind]
  rw [if_pos (List.all_eq_true.mpr howner)]
  rfl

/-- Rows that are apart from the others and have records are added in batches. -/
lemma perform_insertBatches (parts : List (List StoredChunk)) (hopen : .insertChunks ∉ s.refused)
    (hrows : Insertable s.chunks parts.flatten)
    (howner : ∀ c ∈ parts.flatten, (s.record? c.record).isSome) :
    perform (parts.forM insertBatch) s = (.ok (), s.withChunks parts.flatten) := by
  induction parts generalizing s with
  | nil =>
    unfold withChunks
    rw [List.flatten_nil, List.append_nil]
    rfl
  | cons part parts ih =>
    rw [List.flatten_cons] at hrows howner
    obtain ⟨happart, hpairs⟩ := insertable_iff.mp hrows
    obtain ⟨hfirst, -, -⟩ := List.pairwise_append.mp hpairs
    have hpart : Insertable s.chunks part :=
      insertable_iff.mpr ⟨fun a ha b hb => happart a ha b (List.mem_append_left _ hb), hfirst⟩
    have hrest : Insertable (s.withChunks part).chunks parts.flatten :=
      (insertable_append hpart).mp hrows
    have hbatch := perform_insertBatch hopen hpart
      fun c hc => howner c (List.mem_append_left _ hc)
    have hbatches := ih (s := s.withChunks part) hopen hrest
      fun c hc => howner c (List.mem_append_right _ hc)
    change perform (insertBatch part >>= fun _ => parts.forM insertBatch) s = _
    rw [perform_bind_of_ok hbatch, hbatches]
    unfold withChunks
    rw [List.flatten_cons, List.append_assoc]

/-- Rows that are apart from the others and have records are added. -/
lemma perform_insertChunks (hopen : .insertChunks ∉ s.refused) (hrows : Insertable s.chunks rows)
    (howner : ∀ c ∈ rows, (s.record? c.record).isSome) :
    perform (insertChunks rows) s = (.ok (), s.withChunks rows) := by
  have hall := perform_insertBatches (batches batchLimit rows) hopen
  rw [flatten_batches] at hall
  exact hall hrows howner

end Store

namespace Draft

variable {d : Draft} {fresh : Nat → Id} {chunking : Text.Chunking} {s : Store} {held : Record}

/-- The rows of a draft are apart from each other. -/
lemma pairwise_rows (hd : d.CutBy chunking) (hfresh : Function.Injective fresh) (record : Id) :
    (d.rows fresh record).Pairwise Store.Apart := by
  refine List.pairwise_iff_getElem.mpr fun i j hi hj hij => ?_
  unfold rows at hi hj ⊢
  rw [List.length_mapIdx] at hi hj
  rw [List.getElem_mapIdx, List.getElem_mapIdx]
  refine ⟨fun hid => ?_, fun _ hindex => ?_⟩
  · have heq := hfresh hid
    omega
  · have hnumber : ∀ k (hk : k < d.pieces.length), d.pieces[k].index = k := by
      rw [hd.pieces]
      exact fun k hk => Text.index_chunks hk
    change ((d.pieces[i].index : Nat) : Int) = (d.pieces[j].index : Nat) at hindex
    rw [hnumber i hi, hnumber j hj] at hindex
    omega

/-- The rows of a draft can be put in the place of those of a record, if their identifiers are
new. -/
lemma insertable_rows (hd : d.CutBy chunking) (hfresh : Function.Injective fresh) (record : Id)
    (hnew : ∀ c ∈ s.chunks, ∀ k, c.id ≠ fresh k) :
    Store.Insertable (s.dropChunks record).chunks (d.rows fresh record) := by
  refine Store.insertable_iff.mpr ⟨fun a ha b hb => ?_, pairwise_rows hd hfresh record⟩
  obtain ⟨hmem, hother⟩ := List.mem_filter.mp ha
  obtain ⟨k, -, hid⟩ := Store.exists_of_mem_rows hb
  refine ⟨?_, fun hrecord => ?_⟩
  · rw [hid]
    exact hnew a hmem k
  · exact absurd (hrecord.trans (of_mem_rows hb).1) (bne_iff_ne.mp hother)

/-- A record of a keyed store that is rewritten is the only one that changes. -/
lemma map_rewriteOf (hs : s.Keyed) (hheld : held ∈ s.records) (content : RecordContent)
    (now : Instant) :
    s.records.map (rewriteOf held.tenant held.id content now) = s.records.map fun r =>
      if r.id = held.id then { held with content, updatedAt := now } else r := by
  refine List.map_congr_left fun r hr => ?_
  by_cases hid : r.id = held.id
  · rw [if_pos hid, hs.record_eq hr hheld hid]
    unfold rewriteOf Store.isOf
    rw [beq_self_eq_true, beq_self_eq_true, Bool.true_and, if_pos rfl]
  · rw [if_neg hid, rewriteOf_of_ne hid]

/-- The work on a draft that replaces a record succeeds, if its statements are not refused and its
rows can be added. -/
lemma perform_stage_replaced (now : Instant) (hopen : s.refused = [])
    (hheld : d.target? s = some held)
    (hrows : Store.Insertable (s.dropChunks held.id).chunks (d.rows fresh held.id)) :
    perform (d.stage fresh now) s =
      (.ok ⟨d.tenant, held.id, d.rows fresh held.id, s.chunkIds held.id, false⟩,
        d.replaced fresh now held s) := by
  have hnone : ∀ st, st ∉ s.refused := by
    rw [hopen]
    exact fun _ => List.not_mem_nil
  obtain ⟨hmem, link, hlink, -⟩ := of_target?_eq_some hheld
  have htarget : perform d.target s = (.ok (some held), s) := by
    unfold target? at hheld
    rw [hlink, Option.bind_some] at hheld
    unfold target
    rw [hlink]
    exact Store.perform_reading_eq_ok.mpr ⟨hnone _, hheld, rfl⟩
  have hlist : perform (Store.listChunks held.id) s =
      (.ok (Store.inOrder (s.chunksOf held.id)), s) :=
    Store.perform_reading_eq_ok.mpr ⟨hnone _, rfl, rfl⟩
  have hdelete : perform (Store.deleteChunks held.id) s =
      (.ok ((s.chunksOf held.id).map (·.id)).length, s.dropChunks held.id) :=
    Store.perform_writing_eq_ok.mpr ⟨hnone _, rfl⟩
  have hupdate : perform (Store.updateRecord held.tenant held.id d.content now)
      (s.dropChunks held.id) =
        (.ok (), (s.dropChunks held.id).rewritten held.tenant held.id d.content.kept now) :=
    Store.perform_writing_eq_ok.mpr ⟨hnone _, rfl⟩
  have howner : ∀ c ∈ d.rows fresh held.id,
      (((s.dropChunks held.id).rewritten held.tenant held.id d.content.kept now).record?
        c.record).isSome := by
    intro c hc
    rw [(of_mem_rows hc).1]
    refine List.find?_isSome.mpr ⟨rewriteOf held.tenant held.id d.content.kept now held,
      List.mem_map_of_mem hmem, ?_⟩
    rw [rewriteOf_eq]
    exact beq_self_eq_true held.id
  have hinsert := Store.perform_insertChunks
    (s := (s.dropChunks held.id).rewritten held.tenant held.id d.content.kept now) (hnone _) hrows
    howner
  unfold stage
  rw [perform_bind_of_ok htarget]
  dsimp only
  rw [perform_bind_of_ok hlist, perform_bind_of_ok hdelete, perform_bind_of_ok hupdate,
    perform_bind_of_ok hinsert]
  rfl

end Draft

end Dossier
