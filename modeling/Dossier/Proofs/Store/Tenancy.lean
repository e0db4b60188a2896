import Dossier.Proofs.Store.Live

/-!
# What a store holds for one tenant

The records of a tenant, their chunks and their vectors.  Stores that agree on these three show the
tenant the same live chunks, whatever they hold for others.
-/

namespace Dossier.Store

variable {chunking : Text.Chunking} {dimension : Nat} {s t : Store} {tenant : String}

/-- The records of a tenant. -/
def recordsFor (s : Store) (tenant : String) : List Record :=
  s.records.filter (·.tenant == tenant)

/-- The chunks of the records of a tenant. -/
def chunksFor (s : Store) (tenant : String) : List StoredChunk :=
  s.chunks.filter fun c => (s.recordsFor tenant).any (·.id == c.record)

/-- The chunks with a vector of a tenant, with the texts of these vectors.  Their numbers are left
out, which tell how many vectors were written for others in between. -/
def vectorsFor (s : Store) (tenant : String) : List (Id × String) :=
  (s.vectors.filter (·.tenant == tenant)).map fun v => (v.chunk, v.text)

/-- Two stores hold the same for a tenant. -/
structure AgreeFor (tenant : String) (s t : Store) : Prop where
  records : ∀ r, r ∈ s.recordsFor tenant ↔ r ∈ t.recordsFor tenant
  chunks : ∀ c, c ∈ s.chunksFor tenant ↔ c ∈ t.chunksFor tenant
  vectors : ∀ row, row ∈ s.vectorsFor tenant ↔ row ∈ t.vectorsFor tenant

/-- Holding the same for a tenant is symmetric. -/
lemma AgreeFor.symm (h : AgreeFor tenant s t) : AgreeFor tenant t s :=
  ⟨fun r => (h.records r).symm, fun c => (h.chunks c).symm, fun row => (h.vectors row).symm⟩

/-- The live chunks of a tenant with their records. -/
def contextsFor (s : Store) (tenant : String) : List ChunkContext :=
  s.liveChunks.filter (·.record.tenant == tenant)

/-- The live chunks of a tenant are the chunks whose records are found, live and the tenant's. -/
lemma mem_contextsFor {ctx : ChunkContext} :
    ctx ∈ s.contextsFor tenant ↔ ctx ∈ s.liveChunks ∧ ctx.record.tenant = tenant := by
  unfold contextsFor
  rw [List.mem_filter, beq_iff_eq]

/-- A live chunk of a tenant is one in a sound store that holds the same for the tenant. -/
lemma AgreeFor.contextsFor_subset (h : AgreeFor tenant s t) (ht : t.Sound chunking dimension) :
    s.contextsFor tenant ⊆ t.contextsFor tenant := by
  intro ctx hctx
  obtain ⟨hmem, htenant⟩ := mem_contextsFor.mp hctx
  obtain ⟨hchunk, hfound, hlive⟩ := mem_liveChunks.mp hmem
  obtain ⟨hrecord, hid⟩ := of_record?_eq_some hfound
  have hown : ctx.record ∈ s.recordsFor tenant :=
    List.mem_filter.mpr ⟨hrecord, beq_iff_eq.mpr htenant⟩
  have hpart : ctx.chunk ∈ s.chunksFor tenant :=
    List.mem_filter.mpr ⟨hchunk, List.any_eq_true.mpr ⟨ctx.record, hown, beq_iff_eq.mpr hid⟩⟩
  have hrecord' := (List.mem_filter.mp ((h.records _).mp hown)).1
  have hchunk' := (List.mem_filter.mp ((h.chunks _).mp hpart)).1
  refine mem_contextsFor.mpr ⟨mem_liveChunks.mpr ⟨hchunk', ?_, hlive⟩, htenant⟩
  rw [← hid]
  exact ht.keyed.record?_eq_some hrecord'

/-- Sound stores that hold the same for a tenant have the same live chunks of it. -/
lemma AgreeFor.mem_contextsFor_iff (h : AgreeFor tenant s t) (hs : s.Sound chunking dimension)
    (ht : t.Sound chunking dimension) {ctx : ChunkContext} :
    ctx ∈ s.contextsFor tenant ↔ ctx ∈ t.contextsFor tenant :=
  ⟨fun hctx => h.contextsFor_subset ht hctx, fun hctx => h.symm.contextsFor_subset hs hctx⟩

/-- A live chunk of a sound store is known by its identifier. -/
lemma Sound.context_eq_of_id (hs : s.Sound chunking dimension) {ctx ctx' : ChunkContext}
    (hctx : ctx ∈ s.liveChunks) (hctx' : ctx' ∈ s.liveChunks)
    (hid : ctx.chunk.id = ctx'.chunk.id) : ctx = ctx' := by
  obtain ⟨hchunk, hfound, -⟩ := mem_liveChunks.mp hctx
  obtain ⟨hchunk', hfound', -⟩ := mem_liveChunks.mp hctx'
  rcases ctx with ⟨c, r⟩
  rcases ctx' with ⟨c', r'⟩
  dsimp only at *
  obtain rfl := hs.keyed.chunk_eq hchunk hchunk' hid
  rw [hfound] at hfound'
  cases hfound'
  rfl

/-- The live chunk of a tenant with an identifier is found in a batch as among all, if the batch
asks for it. -/
lemma find?_contextBatch (s : Store) (tenant : String) (ids : List Id) (id : Id) :
    (s.contextBatch tenant ids).find? (·.chunk.id == id) =
      if id ∈ ids then (s.contextsFor tenant).find? (·.chunk.id == id) else none := by
  have hbatch : s.contextBatch tenant ids =
      (s.contextsFor tenant).filter fun ctx => ids.contains ctx.chunk.id := by
    unfold contextBatch contextsFor
    rw [List.filter_filter]
    refine List.filter_congr fun ctx _ => ?_
    rw [Bool.and_comm]
  rw [hbatch, List.find?_filter]
  split
  · rename_i hasked
    congr 1
    funext ctx
    by_cases heq : ctx.chunk.id = id
    · simp [heq, hasked]
    · simp [heq]
  · rename_i hnot
    refine List.find?_eq_none.mpr fun ctx _ hboth => ?_
    rw [decide_eq_true_eq, List.contains_iff_mem, beq_iff_eq] at hboth
    exact hnot (hboth.2 ▸ hboth.1)

/-- The live chunk of a tenant with an identifier is found, among the live chunks of some
identifiers as among all. -/
lemma find?_contextsOf {ids : List Id} {id : Id} (hid : id ∈ ids) :
    (s.contextsOf tenant ids).find? (·.chunk.id == id) =
      (s.contextsFor tenant).find? (·.chunk.id == id) := by
  have hsome : ∀ parts : List (List Id), id ∈ parts.flatten →
      (parts.flatMap (s.contextBatch tenant)).find? (·.chunk.id == id) =
        (s.contextsFor tenant).find? (·.chunk.id == id) := by
    intro parts hmem
    induction parts with
    | nil => cases hmem
    | cons part rest ih =>
      rw [List.flatMap_cons, List.find?_append, find?_contextBatch]
      rw [List.flatten_cons, List.mem_append] at hmem
      by_cases hpart : id ∈ part
      · rw [if_pos hpart]
        rcases hfind : (s.contextsFor tenant).find? (·.chunk.id == id) with _ | ctx
        · -- a chunk that is nowhere is not in a later batch
          rw [hfind, Option.none_or, List.find?_eq_none]
          intro ctx hctx
          obtain ⟨ids', -, hbatch⟩ := List.mem_flatMap.mp hctx
          refine List.find?_eq_none.mp hfind ctx ?_
          obtain ⟨hlive, hasked⟩ := List.mem_filter.mp hbatch
          exact List.mem_filter.mpr ⟨hlive, (Bool.and_eq_true_iff.mp hasked).1⟩
        · rw [hfind]
          exact Option.some_or
      · rw [if_neg hpart, Option.none_or]
        exact ih (hmem.resolve_left hpart)
  refine hsome (batches batchLimit ids) ?_
  rw [flatten_batches]
  exact hid

/-! ### Changes for other tenants -/

/-- The vectors of a tenant as they are stored. -/
def vectorRowsFor (s : Store) (tenant : String) : List StoredVector :=
  s.vectors.filter (·.tenant == tenant)

/-- The second store holds the same rows for a tenant as the first, in the same order. -/
structure Spares (tenant : String) (s t : Store) : Prop where
  records : t.recordsFor tenant = s.recordsFor tenant
  chunks : t.chunksFor tenant = s.chunksFor tenant
  vectors : t.vectorRowsFor tenant = s.vectorRowsFor tenant

/-- Whoever changes nothing spares every tenant. -/
lemma Spares.refl (s : Store) : Spares tenant s s := ⟨rfl, rfl, rfl⟩

/-- A tenant that is spared twice is spared. -/
lemma Spares.trans {u : Store} (h : Spares tenant s t) (h' : Spares tenant t u) :
    Spares tenant s u :=
  ⟨h'.records.trans h.records, h'.chunks.trans h.chunks, h'.vectors.trans h.vectors⟩

/-- Stores hold the same for a tenant that is spared. -/
lemma Spares.agreeFor (h : Spares tenant s t) : AgreeFor tenant s t where
  records := fun r => by rw [h.records]
  chunks := fun c => by rw [h.chunks]
  vectors := by
    intro row
    change row ∈ (s.vectorRowsFor tenant).map _ ↔ row ∈ (t.vectorRowsFor tenant).map _
    rw [h.vectors]

/-- The same tables spare every tenant. -/
lemma SameTables.spares (h : SameTables s t) : Spares tenant s t := by
  have hrecords : t.recordsFor tenant = s.recordsFor tenant := by
    unfold recordsFor
    rw [h.records]
  refine ⟨hrecords, ?_, ?_⟩
  · unfold chunksFor
    rw [hrecords, h.chunks]
  · unfold vectorRowsFor
    rw [h.vectors]

/-- Rows of interest that survive a first choice are those that were there. -/
lemma filter_filter_of_kept {α : Type} {p q : α → Bool} {as : List α}
    (h : ∀ a ∈ as, p a → q a) : (as.filter q).filter p = as.filter p := by
  rw [List.filter_filter]
  refine List.filter_congr fun a ha => ?_
  by_cases hp : p a
  · rw [hp, h a ha hp, Bool.and_self]
  · rw [Bool.eq_false_iff.mpr hp, Bool.false_and]

/-- Rows of interest that a change leaves alone are those that were there. -/
lemma filter_map_of_kept {α : Type} {p : α → Bool} {change : α → α} {as : List α}
    (hsame : ∀ a, p (change a) = p a) (hkept : ∀ a ∈ as, p a → change a = a) :
    (as.map change).filter p = as.filter p := by
  have hcomp : p ∘ change = p := funext hsame
  rw [List.filter_map, hcomp]
  conv_rhs => rw [← List.map_id (as.filter p)]
  refine List.map_congr_left fun a ha => ?_
  obtain ⟨hmem, hp⟩ := List.mem_filter.mp ha
  exact hkept a hmem hp

/-- The chunks of a tenant are the chunks of its records. -/
lemma mem_chunksFor {c : StoredChunk} :
    c ∈ s.chunksFor tenant ↔ c ∈ s.chunks ∧ ∃ r ∈ s.recordsFor tenant, r.id = c.record := by
  unfold chunksFor
  rw [List.mem_filter, List.any_eq_true]
  simp only [beq_iff_eq]

/-- The records of a tenant have other identifiers than a record of another tenant. -/
lemma ne_of_mem_recordsFor {id : Id} (hother : ∀ r ∈ s.records, r.id = id → r.tenant ≠ tenant)
    {r : Record} (hr : r ∈ s.recordsFor tenant) : r.id ≠ id := by
  intro hid
  obtain ⟨hmem, htenant⟩ := List.mem_filter.mp hr
  exact hother r hmem hid (beq_iff_eq.mp htenant)

/-- The vectors of a tenant are not those of the chunks of another tenant's record. -/
lemma Sound.mem_vectorsBeside_of_tenant (hs : s.Sound chunking dimension) {id : Id}
    (hother : ∀ r ∈ s.records, r.id = id → r.tenant ≠ tenant) {v : StoredVector}
    (hv : v ∈ s.vectors) (htenant : v.tenant = tenant) : v ∈ s.vectorsBeside id := by
  refine mem_vectorsBeside.mpr ⟨hv, ?_⟩
  intro c hc hrecord hid
  obtain ⟨ctx, hctx, hof, hown, -⟩ := hs.owner_of_vector hv
  obtain ⟨hchunk, hfound, -⟩ := mem_liveChunks.mp hctx
  obtain ⟨hmem, hrid⟩ := of_record?_eq_some hfound
  obtain rfl := hs.keyed.chunk_eq hc hchunk (hid.trans hof.symm)
  exact hother ctx.record hmem (hrid.trans hrecord) (hown.trans htenant)

/-- Renewing a record of another tenant spares a tenant. -/
lemma Sound.spares_renewed (hs : s.Sound chunking dimension) {id : Id} {records : List Record}
    {rows : List StoredChunk} (hown : ∀ c ∈ rows, c.record = id)
    (hother : ∀ r ∈ s.records, r.id = id → r.tenant ≠ tenant)
    (hrecords : records.filter (·.tenant == tenant) = s.recordsFor tenant) :
    Spares tenant s (s.renewed id records rows) where
  records := hrecords
  chunks := by
    unfold chunksFor
    have hsame : (s.renewed id records rows).recordsFor tenant = s.recordsFor tenant := hrecords
    have hnone : rows.filter (fun c => (s.recordsFor tenant).any (·.id == c.record)) = [] := by
      refine List.filter_eq_nil_iff.mpr fun c hc hany => ?_
      obtain ⟨r, hr, hid⟩ := List.any_eq_true.mp hany
      exact ne_of_mem_recordsFor hother hr ((beq_iff_eq.mp hid).trans (hown c hc))
    rw [hsame]
    change (s.chunks.filter (·.record != id) ++ rows).filter _ = _
    rw [List.filter_append, hnone, List.append_nil]
    refine filter_filter_of_kept fun c hc hany => ?_
    obtain ⟨r, hr, hid⟩ := List.any_eq_true.mp hany
    rw [bne_iff_ne, ← beq_iff_eq.mp hid]
    exact ne_of_mem_recordsFor hother hr
  vectors := by
    refine filter_filter_of_kept fun v hv htenant => ?_
    have hkept := hs.mem_vectorsBeside_of_tenant hother hv (beq_iff_eq.mp htenant)
    exact (List.mem_filter.mp hkept).2

/-- The transaction of a draft of another tenant spares a tenant. -/
lemma Sound.spares_staging (hs : s.Sound chunking dimension) {d : Draft} {fresh : Nat → Id}
    {now : Instant} {staged : Staged} (h : d.Staging fresh now s staged t)
    (htenant : d.tenant ≠ tenant) : Spares tenant s t := by
  cases h with
  | created hnone hid hrows =>
    rw [Draft.created_eq_renewed hs.chunks.owner hid]
    refine hs.spares_renewed (fun c hc => (Draft.of_mem_rows hc).1) ?_ ?_
    · intro r hr heq
      unfold record? at hid
      rw [List.find?_eq_none] at hid
      exact absurd (beq_iff_eq.mpr heq) (hid r hr)
    · have hnew : [d.newRecord (fresh 0) now].filter (·.tenant == tenant) = [] := by
        refine List.filter_eq_nil_iff.mpr fun r hr => ?_
        rw [List.mem_singleton.mp hr, beq_iff_eq]
        exact htenant
      rw [List.filter_append, hnew, List.append_nil]
      rfl
  | @replaced held hheld hrows =>
    obtain ⟨hmem, link, -, hfor⟩ := Draft.of_target?_eq_some hheld
    obtain ⟨-, hown, -⟩ := Record.isLiveFor_iff.mp hfor
    have hheldTenant : held.tenant ≠ tenant := by rwa [hown]
    rw [Draft.replaced_eq_renewed]
    refine hs.spares_renewed (fun c hc => (Draft.of_mem_rows hc).1) ?_ ?_
    · intro r hr hid
      rwa [hs.keyed.record_eq hr hmem hid]
    · refine filter_map_of_kept (fun r => by rw [Draft.rewriteOf_eq]) fun r hr htenant' => ?_
      refine Draft.rewriteOf_of_ne fun hid => ?_
      rw [hs.keyed.record_eq hr hmem hid] at htenant'
      exact hheldTenant (beq_iff_eq.mp htenant')

/-- The transaction of a draft of another tenant leaves what a tenant has. -/
lemma Sound.agreeFor_staging (hs : s.Sound chunking dimension) {d : Draft} {fresh : Nat → Id}
    {now : Instant} {staged : Staged} (h : d.Staging fresh now s staged t)
    (htenant : d.tenant ≠ tenant) : AgreeFor tenant s t :=
  (hs.spares_staging h htenant).agreeFor

/-- The retirement of a record of another tenant spares a tenant. -/
lemma Sound.spares_retired (hs : s.Sound chunking dimension) {r : Record} (hr : r ∈ s.records)
    (htenant : r.tenant ≠ tenant) (now : Instant) : Spares tenant s (s.retired r now) := by
  have hother : ∀ held ∈ s.records, held.id = r.id → held.tenant ≠ tenant := by
    intro held hheld hid
    rwa [hs.keyed.record_eq hheld hr hid]
  rw [retired_eq_renewed]
  refine hs.spares_renewed (by simp) hother ?_
  refine filter_map_of_kept (fun held => by rw [burialOf_eq]) fun held hheld htenant' => ?_
  exact burialOf_of_ne fun hid => hother held hheld hid (beq_iff_eq.mp htenant')

/-- A change of chunks that are none of a tenant's spares the tenant. -/
lemma spares_changeChunks {which : StoredChunk → Bool} {change : StoredChunk → StoredChunk}
    (hrecord : ∀ c, (change c).record = c.record)
    (hother : ∀ c ∈ s.chunksFor tenant, which c = false) :
    Spares tenant s (s.changeChunks which change) where
  records := rfl
  chunks := by
    refine filter_map_of_kept ?_ ?_
    · intro c
      split
      · rw [hrecord]
      · rfl
    · intro c hc hany
      rw [hother c (List.mem_filter.mpr ⟨hc, hany⟩)]
      rfl
  vectors := rfl

/-- A chunk of which somebody knows that it is another tenant's is none of a tenant's. -/
lemma Knows.not_mem_chunksFor {tenant' : String} {record : Id} {batch : List StoredChunk}
    (h : s.Knows tenant' record batch) (htenant : tenant' ≠ tenant) {c held : StoredChunk}
    (hc : c ∈ batch) (hheld : held ∈ s.chunks) (hid : held.id = c.id) :
    held ∉ s.chunksFor tenant := by
  intro hmem
  obtain ⟨-, r, hr, hrecord⟩ := mem_chunksFor.mp hmem
  obtain ⟨hrmem, hrtenant⟩ := List.mem_filter.mp hr
  have hplace : held.record = c.record := congrArg Place.record (h.place c hc held hheld hid)
  have hown := h.tenant r hrmem (hrecord.trans (hplace.trans (h.own c hc)))
  exact htenant (hown.symm.trans (beq_iff_eq.mp hrtenant))

/-- Writing a vector for a tenant spares every other tenant. -/
lemma spares_withVector {tenant' : String} (htenant : tenant' ≠ tenant) (chunk : Id)
    (version : String) (v : Vec) : Spares tenant s (s.withVector chunk tenant' version v) where
  records := rfl
  chunks := rfl
  vectors := by
    have hnew : [s.vectorRow chunk tenant' version v].filter (·.tenant == tenant) = [] := by
      refine List.filter_eq_nil_iff.mpr fun row hrow => ?_
      rw [List.mem_singleton.mp hrow, beq_iff_eq]
      exact htenant
    change (s.vectors.filter _ ++ [s.vectorRow chunk tenant' version v]).filter _ = _
    rw [List.filter_append, hnew, List.append_nil]
    refine filter_filter_of_kept fun held _ hown => ?_
    rw [Bool.not_eq_true', Bool.and_eq_false_iff, beq_eq_false_iff_ne (a := held.tenant)]
    right
    rw [beq_iff_eq.mp hown]
    exact htenant.symm

/-- Committing a batch of another tenant, of which the tenant is known, spares a tenant. -/
lemma Knows.spares_embedAll {tenant' : String} {record : Id} {batch : List (StoredChunk × Vec)}
    (h : s.Knows tenant' record (batch.map (·.1))) (htenant : tenant' ≠ tenant)
    (version : String) : Spares tenant s (embedAll tenant' version s batch) := by
  unfold embedAll
  induction batch generalizing s with
  | nil => exact .refl s
  | cons pair rest ih =>
    have hmarked : Spares tenant s (s.marked pair.1.id) := by
      refine spares_changeChunks (fun _ => rfl) fun c hc => ?_
      have hheld := (mem_chunksFor.mp hc).1
      rw [Bool.and_eq_false_iff, beq_eq_false_iff_ne]
      left
      intro hid
      exact h.not_mem_chunksFor htenant List.mem_cons_self hheld hid hc
    have hone : Spares tenant s (Store.embedOne tenant' version s pair) := by
      unfold Store.embedOne
      split
      · exact hmarked.trans (spares_withVector htenant _ _ _)
      · exact .refl s
    have hrest := (h.mono (List.subset_cons_self _ _)).embedOne version pair
    exact hone.trans (ih hrest)

/-- Noting when a record of another tenant was indexed spares a tenant. -/
lemma spares_noted {record : Id} (hother : ∀ r ∈ s.records, r.id = record → r.tenant ≠ tenant)
    (now : Instant) : Spares tenant s (s.noted record now) := by
  have hrecords : (s.noted record now).recordsFor tenant = s.recordsFor tenant := by
    refine filter_map_of_kept (fun r => ?_) fun r hr htenant => ?_
    · split <;> rfl
    · rw [if_neg]
      exact fun hid => hother r hr (beq_iff_eq.mp hid) (beq_iff_eq.mp htenant)
  refine ⟨hrecords, ?_, rfl⟩
  unfold chunksFor
  rw [hrecords]
  rfl

/-- The commitment of a batch of another tenant spares a tenant. -/
lemma Knows.spares_committed {tenant' : String} {record : Id}
    {batch : List (StoredChunk × Vec)} (h : s.Knows tenant' record (batch.map (·.1)))
    (htenant : tenant' ≠ tenant) (version : String) (now : Instant) :
    Spares tenant s (s.committed tenant' record version now batch) := by
  have hall := h.spares_embedAll htenant version
  unfold committed
  split
  · exact hall
  · refine hall.trans (spares_noted ?_ now)
    rw [records_embedAll]
    intro r hr hid
    rwa [h.tenant r hr hid]

end Dossier.Store
