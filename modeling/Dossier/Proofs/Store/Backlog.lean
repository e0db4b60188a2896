import Dossier.Proofs.Store.Batches

/-!
# What is left of a backlog

The backlog of a store is the live records with a chunk that is not embedded.  A pass over it makes
failed chunks pending again and then ends the batch of one record after the other, each with a
verdict.  Batches of different records do not touch each other, so that the chunks behind a pass are
those before it, each changed as the verdict on its record says (`Verdict.fate`).  What a pass
reports is counted from this.
-/

namespace Dossier

/-- A chunk once failed chunks are pending again. -/
def StoredChunk.requeued (c : StoredChunk) : StoredChunk :=
  if c.status = .failed then { c with status := .pending } else c

/-- A chunk that is not embedded is pending once failed chunks are. -/
lemma StoredChunk.requeued_eq (c : StoredChunk) :
    c.requeued = if c.status = .embedded then c else { c with status := .pending } := by
  obtain ⟨id, record, index, start, stop, text, tokenCount, status, lastError⟩ := c
  cases status <;> rfl

/-! ### Verdicts -/

/-- How the batch of a record ended: with an error, or without one when it was embedded. -/
structure Verdict where
  record : Record
  error : Option ServiceError

namespace Verdict

/-- A chunk once its batch has ended. -/
def apply (v : Verdict) (c : StoredChunk) : StoredChunk :=
  match v.error with
  | none => c.embedded
  | some e => c.failing (Text.maskCredentials e.message)

/-- The verdict on the record of a chunk. -/
def on? (verdicts : List Verdict) (c : StoredChunk) : Option Verdict :=
  verdicts.find? (·.record.id == c.record)

/-- A chunk behind some verdicts: it changes when it was pending and there is one on its record. -/
def settle (verdicts : List Verdict) (c : StoredChunk) : StoredChunk :=
  if c.status = .pending then
    match on? verdicts c with
    | some v => v.apply c
    | none => c
  else c

/-- A chunk behind a pass over the backlog: embedded chunks stay, and the others are as the verdict
on their record says, or pending without one. -/
def fate (verdicts : List Verdict) (c : StoredChunk) : StoredChunk :=
  if c.status = .embedded then c
  else match on? verdicts c with
    | some v => v.apply c
    | none => { c with status := .pending }

variable {verdicts rest : List Verdict} {v : Verdict} {c : StoredChunk}

/-- A chunk whose batch has ended is not pending. -/
lemma status_apply_ne : (v.apply c).status ≠ .pending := by
  unfold apply
  split <;> exact fun h => nomatch h

/-- The end of its batch keeps the place of a chunk. -/
lemma place_apply : (v.apply c).place = c.place := by
  unfold apply
  split <;> rfl

/-- Verdicts keep the place of a chunk. -/
lemma place_settle : (settle verdicts c).place = c.place := by
  unfold settle
  split
  · split
    · exact place_apply
    · rfl
  · rfl

/-- Without verdicts nothing changes. -/
@[simp] lemma settle_nil : settle [] c = c := by
  unfold settle on?
  simp

/-- The first of some verdicts is followed by the others. -/
lemma settle_cons : settle (v :: rest) c = settle rest (settle [v] c) := by
  by_cases hpending : c.status = .pending
  · by_cases hv : v.record.id = c.record
    · have hfirst : settle [v] c = v.apply c := by
        simp [settle, on?, hpending, hv]
      rw [hfirst]
      unfold settle
      rw [if_pos hpending, if_neg status_apply_ne]
      simp [on?, hv]
    · have hfirst : settle [v] c = c := by
        simp [settle, on?, hv]
      rw [hfirst]
      unfold settle
      rw [if_pos hpending, if_pos hpending]
      simp [on?, hv]
  · simp [settle, hpending]

/-- Chunks of which the failed ones are pending again are settled according to their fate. -/
lemma settle_requeued : settle verdicts c.requeued = fate verdicts c := by
  have happly : ∀ v : Verdict, v.apply { c with status := .pending } = v.apply c := by
    intro v
    unfold apply
    split <;> rfl
  unfold fate settle on?
  rw [StoredChunk.requeued_eq]
  by_cases hstatus : c.status = .embedded
  · simp [hstatus]
  · simp [hstatus, happly]

/-- The fate of an embedded chunk is to stay. -/
lemma fate_of_embedded (hc : c.status = .embedded) : fate verdicts c = c := if_pos hc

/-- The fate of a chunk that is not embedded and has a verdict. -/
lemma fate_of_verdict (hc : c.status ≠ .embedded) (hv : on? verdicts c = some v) :
    fate verdicts c = v.apply c := by
  unfold fate
  rw [if_neg hc, hv]

/-- The fate of a chunk that is not embedded and has no verdict. -/
lemma fate_of_none (hc : c.status ≠ .embedded) (hv : on? verdicts c = none) :
    fate verdicts c = { c with status := .pending } := by
  unfold fate
  rw [if_neg hc, hv]

/-- The fate of a chunk keeps its place. -/
lemma place_fate : (fate verdicts c).place = c.place := by
  rw [← settle_requeued, place_settle, StoredChunk.requeued_eq]
  split <;> rfl

/-- The verdict on a record of which there is only one. -/
lemma on?_eq_some (hnodup : (verdicts.map (·.record.id)).Nodup) (hv : v ∈ verdicts)
    (hc : c.record = v.record.id) : on? verdicts c = some v := by
  refine find?_eq_some_of_unique hv (beq_iff_eq.mpr hc.symm) fun other hother hwhich => ?_
  exact List.inj_on_of_nodup_map hnodup hother hv ((beq_iff_eq.mp hwhich).trans hc)

/-- There is no verdict on a record that is not among those that there are verdicts on. -/
lemma on?_eq_none (h : c.record ∉ verdicts.map (·.record.id)) : on? verdicts c = none := by
  refine List.find?_eq_none.mpr fun v hv hwhich => h ?_
  rw [← beq_iff_eq.mp hwhich]
  exact List.mem_map_of_mem hv

end Verdict

namespace Store

variable {chunking : Text.Chunking} {dimension : Nat} {s t : Store} {verdicts : List Verdict}
  {r : Record}

/-! ### The backlog -/

/-- Is a record live, with a chunk that is not embedded? -/
def isUnfinished (s : Store) (r : Record) : Bool :=
  r.live && (s.chunksOf r.id).any (·.status != .embedded)

/-- The live records with a chunk that is not embedded, in increasing order of their identifiers. -/
def backlog (s : Store) : List Record := byId (s.records.filter s.isUnfinished)

/-- A record that waits to be embedded: it is in the store, and a chunk of it is pending. -/
def Waits (s : Store) (r : Record) : Prop :=
  (∃ held ∈ s.records, held.id = r.id ∧ held.tenant = r.tenant) ∧
    ∃ c ∈ s.chunks, c.record = r.id ∧ c.status = .pending

/-- The unfinished records of a store. -/
lemma isUnfinished_iff :
    s.isUnfinished r ↔ r.live ∧ ∃ c ∈ s.chunks, c.record = r.id ∧ c.status ≠ .embedded := by
  unfold isUnfinished chunksOf
  simp

/-- The records of the backlog. -/
lemma mem_backlog : r ∈ s.backlog ↔ r ∈ s.records ∧ s.isUnfinished r := by
  unfold backlog byId
  rw [List.mem_mergeSort, List.mem_filter]

/-- The backlog names every record once. -/
lemma Keyed.nodup_backlog (hs : s.Keyed) : (s.backlog.map (·.id)).Nodup := by
  refine ((List.mergeSort_perm _ _).map _).nodup_iff.mpr ?_
  exact hs.records.sublist (List.filter_sublist.map _)

/-- Every chunk of a keyed store that is not embedded belongs to a record of the backlog. -/
lemma Keyed.exists_backlog (hs : s.Keyed) {c : StoredChunk} (hc : c ∈ s.chunks)
    (hstatus : c.status ≠ .embedded) : ∃ r ∈ s.backlog, r.id = c.record := by
  obtain ⟨r, hr, hid, hlive⟩ := hs.owner c hc
  exact ⟨r, mem_backlog.mpr ⟨hr, isUnfinished_iff.mpr ⟨hlive, c, hc, hid.symm, hstatus⟩⟩, hid⟩

/-- A keyed store makes all of its failed chunks pending again. -/
lemma Keyed.chunks_requeued (hs : s.Keyed) :
    s.requeued.chunks = s.chunks.map StoredChunk.requeued := by
  refine List.map_congr_left fun c hc => ?_
  obtain ⟨r, hr, hid, hlive⟩ := hs.owner c hc
  have hcontext : s.context? c = some ⟨c, r⟩ := by
    unfold context?
    rw [← hid, hs.record?_eq_some hr]
    exact if_pos hlive
  simp [hcontext, StoredChunk.requeued]

/-- The failed chunks that are made pending again are those of live records. -/
lemma countP_requeued (s : Store) :
    s.chunks.countP (fun c => c.status == .failed && (s.context? c).isSome) =
      s.liveChunks.countP (·.chunk.status == .failed) := by
  unfold liveChunks
  rw [List.countP_filterMap]
  refine List.countP_congr fun c _ => ?_
  unfold context?
  split
  · split <;> simp
  · simp

/-- With its failed chunks made pending again, a keyed store lists its backlog. -/
lemma Keyed.listed_requeued (hs : s.Keyed) :
    byId (s.requeued.records.filter fun r =>
      r.live && (s.requeued.chunksOf r.id).any (·.status == .pending)) = s.backlog := by
  unfold backlog
  congr 1
  refine List.filter_congr fun r _ => ?_
  unfold isUnfinished chunksOf
  rw [hs.chunks_requeued]
  congr 1
  rw [List.any_filter, List.any_filter, List.any_map]
  refine List.any_congr rfl fun c => ?_
  rw [Function.comp_apply, StoredChunk.requeued_eq]
  by_cases hstatus : c.status = .embedded <;> simp [hstatus]

/-- The records of the backlog wait when failed chunks have been made pending again. -/
lemma Keyed.waits_requeued (hs : s.Keyed) (hr : r ∈ s.backlog) : s.requeued.Waits r := by
  obtain ⟨hmem, hunfinished⟩ := mem_backlog.mp hr
  obtain ⟨-, c, hc, hrecord, hstatus⟩ := isUnfinished_iff.mp hunfinished
  refine ⟨⟨r, hmem, rfl, rfl⟩, c.requeued, ?_, ?_⟩
  · rw [hs.chunks_requeued]
    exact List.mem_map_of_mem hc
  · rw [StoredChunk.requeued_eq, if_neg hstatus]
    exact ⟨hrecord, rfl⟩

/-- A record that waits has pending chunks. -/
lemma Waits.pendingOf_ne_nil (hs : s.Keyed) (h : s.Waits r) : s.pendingOf r.tenant r.id ≠ [] := by
  obtain ⟨⟨held, hheld, hid, htenant⟩, c, hc, hrecord, hstatus⟩ := h
  have hmem : c ∈ s.pendingOf r.tenant r.id := by
    rw [← hid, ← htenant, hs.mem_pendingOf_iff hheld, hid]
    exact ⟨hc, hrecord, hstatus⟩
  exact List.ne_nil_of_mem hmem

/-- The end of the batch of a record that waits is a verdict on its chunks. -/
lemma Waits.changeBatch_eq (hs : s.Keyed) (h : s.Waits r) (error : Option ServiceError) :
    (s.changeBatch (s.pendingOf r.tenant r.id) (Verdict.apply ⟨r, error⟩)).chunks =
      s.chunks.map (Verdict.settle [⟨r, error⟩]) := by
  obtain ⟨⟨held, hheld, hid, htenant⟩, -⟩ := h
  refine List.map_congr_left fun c hc => ?_
  have hmem : c ∈ s.pendingOf r.tenant r.id ↔ r.id = c.record ∧ c.status = .pending := by
    rw [← hid, ← htenant, hs.mem_pendingOf_iff hheld, eq_comm]
    exact and_iff_right hc
  unfold Verdict.settle Verdict.on?
  simp only [hmem]
  by_cases hstatus : c.status = .pending
  · by_cases hrecord : r.id = c.record <;> simp [hstatus, hrecord]
  · simp [hstatus]

/-! ### Behind a pass -/

/-- A store behind a pass over the backlog of another, however far the pass has come: the chunks
have met their fate and no vector was lost or changed. -/
structure PassedOver (s t : Store) (verdicts : List Verdict) : Prop where
  chunks : t.chunks = s.chunks.map (Verdict.fate verdicts)
  vectors : s.vectors <+: t.vectors

/-- What holds behind a pass that has come to its end: no live chunk is pending, and the chunks of a
live record that were not embedded are all embedded or have all failed. -/
structure Settled (s t : Store) : Prop where
  none_pending : ∀ ctx ∈ t.liveChunks, ctx.chunk.status ≠ .pending
  alike : ∀ r ∈ s.records, r.live →
    (∀ c ∈ s.chunks, c.record = r.id → c.status ≠ .embedded → c.embedded ∈ t.chunks) ∨
      ∃ error, ∀ c ∈ s.chunks, c.record = r.id → c.status ≠ .embedded → c.failing error ∈ t.chunks

/-- The chunk that has met its fate is stored behind a pass. -/
lemma PassedOver.mem (h : s.PassedOver t verdicts) {c : StoredChunk} (hc : c ∈ s.chunks) :
    Verdict.fate verdicts c ∈ t.chunks := by
  rw [h.chunks]
  exact List.mem_map_of_mem hc

/-- Embedded chunks are as they were behind a pass. -/
lemma PassedOver.mem_of_embedded (h : s.PassedOver t verdicts) {c : StoredChunk} (hc : c ∈ s.chunks)
    (hstatus : c.status = .embedded) : c ∈ t.chunks := by
  rw [← Verdict.fate_of_embedded hstatus]
  exact h.mem hc

/-- There is one verdict on every record of a backlog that was gone through. -/
lemma Keyed.nodup_verdicts (hs : s.Keyed) {rest : List Record}
    (hall : s.backlog = verdicts.map (·.record) ++ rest) :
    (verdicts.map (·.record.id)).Nodup := by
  have hnodup := hs.nodup_backlog
  rw [hall, List.map_append, List.map_map] at hnodup
  exact (List.nodup_append.mp hnodup).1

/-- Behind a pass that has come to its end the verdict on a chunk that was not embedded is that on
its record. -/
lemma Keyed.exists_verdict (hs : s.Keyed) (hall : s.backlog = verdicts.map (·.record))
    {c : StoredChunk} (hc : c ∈ s.chunks) (hstatus : c.status ≠ .embedded) :
    ∃ v ∈ verdicts, v.record.id = c.record ∧ Verdict.fate verdicts c = v.apply c := by
  obtain ⟨r, hr, hid⟩ := hs.exists_backlog hc hstatus
  rw [hall] at hr
  obtain ⟨v, hv, rfl⟩ := List.mem_map.mp hr
  have hnodup := hs.nodup_verdicts (hall.trans (List.append_nil _).symm)
  exact ⟨v, hv, hid, Verdict.fate_of_verdict hstatus (Verdict.on?_eq_some hnodup hv hid.symm)⟩

/-- Behind a pass that has come to its end everything is settled. -/
lemma PassedOver.settled (h : s.PassedOver t verdicts) (hs : s.Keyed)
    (hall : s.backlog = verdicts.map (·.record)) : s.Settled t where
  none_pending := by
    intro ctx hctx
    have hc := (mem_liveChunks.mp hctx).1
    rw [h.chunks] at hc
    obtain ⟨c, hc, heq⟩ := List.mem_map.mp hc
    rw [← heq]
    by_cases hstatus : c.status = .embedded
    · rw [Verdict.fate_of_embedded hstatus, hstatus]
      exact fun h => nomatch h
    · obtain ⟨v, -, -, hfate⟩ := hs.exists_verdict hall hc hstatus
      rw [hfate]
      exact Verdict.status_apply_ne
  alike := by
    intro r hr hlive
    have hnodup := hs.nodup_verdicts (hall.trans (List.append_nil _).symm)
    by_cases hnone : ∃ v ∈ verdicts, v.record.id = r.id
    · obtain ⟨v, hv, hid⟩ := hnone
      have hfate : ∀ c ∈ s.chunks, c.record = r.id → c.status ≠ .embedded →
          v.apply c ∈ t.chunks := by
        intro c hc hrecord hstatus
        rw [← Verdict.fate_of_verdict hstatus
          (Verdict.on?_eq_some hnodup hv (hrecord.trans hid.symm))]
        exact h.mem hc
      rcases herror : v.error with _ | e
      · left
        intro c hc hrecord hstatus
        have happly : v.apply c = c.embedded := by simp [Verdict.apply, herror]
        rw [← happly]
        exact hfate c hc hrecord hstatus
      · right
        refine ⟨Text.maskCredentials e.message, ?_⟩
        intro c hc hrecord hstatus
        have happly : v.apply c = c.failing (Text.maskCredentials e.message) := by
          simp [Verdict.apply, herror]
        rw [← happly]
        exact hfate c hc hrecord hstatus
    · left
      intro c hc hrecord hstatus
      obtain ⟨v, hv, hid, -⟩ := hs.exists_verdict hall hc hstatus
      exact absurd ⟨v, hv, hid.trans hrecord⟩ hnone

/-- The records behind a pass that has come to its end which have a failed chunk are those that
there is a verdict with an error on. -/
lemma PassedOver.any_failed (h : s.PassedOver t verdicts) (hs : s.Keyed)
    (hall : s.backlog = verdicts.map (·.record)) {v : Verdict} (hv : v ∈ verdicts) :
    (t.chunksOf v.record.id).any (·.status == .failed) = v.error.isSome := by
  have hnodup := hs.nodup_verdicts (hall.trans (List.append_nil _).symm)
  have hback : v.record ∈ s.backlog := by
    rw [hall]
    exact List.mem_map_of_mem hv
  obtain ⟨-, c, hc, hrecord, hstatus⟩ := isUnfinished_iff.mp (mem_backlog.mp hback).2
  have hfate : ∀ c : StoredChunk, c.record = v.record.id → c.status ≠ .embedded →
      Verdict.fate verdicts c = v.apply c := fun c hrecord hstatus =>
    Verdict.fate_of_verdict hstatus (Verdict.on?_eq_some hnodup hv hrecord)
  rw [Bool.eq_iff_iff, List.any_eq_true]
  unfold chunksOf
  rw [h.chunks]
  constructor
  · rintro ⟨c', hc', hfailed⟩
    obtain ⟨hmem, hwhich⟩ := List.mem_filter.mp hc'
    obtain ⟨c, hc, rfl⟩ := List.mem_map.mp hmem
    rw [beq_iff_eq] at hwhich hfailed
    have hplace : (Verdict.fate verdicts c).record = c.record :=
      congrArg Place.record Verdict.place_fate
    have hnot : c.status ≠ .embedded := by
      intro hembedded
      rw [Verdict.fate_of_embedded hembedded, hembedded] at hfailed
      cases hfailed
    rw [hfate c (hplace.symm.trans hwhich) hnot] at hfailed
    unfold Verdict.apply at hfailed
    split at hfailed
    · cases hfailed
    · rename_i herror
      rw [herror]
      rfl
  · intro hsome
    obtain ⟨e, herror⟩ := Option.isSome_iff_exists.mp hsome
    refine ⟨v.apply c, List.mem_filter.mpr ⟨?_, ?_⟩, ?_⟩
    · rw [← hfate c hrecord hstatus]
      exact List.mem_map_of_mem hc
    · rw [beq_iff_eq, ← hrecord]
      exact congrArg Place.record Verdict.place_apply
    · simp [Verdict.apply, herror, StoredChunk.failing]

/-- Of the unfinished records those end failed that there is a verdict with an error on. -/
lemma PassedOver.countP_failed (h : s.PassedOver t verdicts) (hs : s.Keyed)
    (hall : s.backlog = verdicts.map (·.record)) :
    s.records.countP (fun r => s.isUnfinished r && (t.chunksOf r.id).any (·.status == .failed)) =
      verdicts.countP (·.error.isSome) := by
  have hsplit : s.records.countP (fun r => s.isUnfinished r &&
      (t.chunksOf r.id).any (·.status == .failed)) =
        s.backlog.countP fun r => (t.chunksOf r.id).any (·.status == .failed) := by
    unfold backlog byId
    rw [(List.mergeSort_perm _ _).countP_eq, List.countP_filter]
    simp only [Bool.and_comm]
  rw [hsplit, hall, List.countP_map]
  refine List.countP_congr fun v hv => ?_
  rw [Function.comp_apply, h.any_failed hs hall hv]

/-- There are as many records in the backlog as unfinished ones in the store. -/
lemma length_backlog (s : Store) : s.backlog.length = s.records.countP s.isUnfinished := by
  unfold backlog byId
  rw [List.length_mergeSort, List.countP_eq_length_filter]

/-- A sound store has as many vectors as embedded chunks. -/
lemma Sound.countP_embedded (hs : Sound chunking dimension s) :
    s.chunks.countP (·.status == .embedded) = s.vectors.length := by
  have hperm : ((s.chunks.filter (·.status == .embedded)).map (·.id)).Perm
      (s.vectors.map (·.chunk)) := by
    refine (List.perm_ext_iff_of_nodup
      (hs.chunks.nodup.sublist (List.filter_sublist.map _)) hs.vectors.nodup).mpr fun id => ?_
    rw [List.mem_map, List.mem_map]
    constructor
    · rintro ⟨c, hc, rfl⟩
      obtain ⟨hmem, hstatus⟩ := List.mem_filter.mp hc
      obtain ⟨-, -, -, v, hv, hchunk, -⟩ := hs.vectors.covers c hmem (beq_iff_eq.mp hstatus)
      exact ⟨v, hv, hchunk⟩
    · rintro ⟨v, hv, rfl⟩
      obtain ⟨c, hc, hid, hstatus⟩ := hs.vectors.backed v hv
      exact ⟨c, List.mem_filter.mpr ⟨hc, beq_iff_eq.mpr hstatus⟩, hid⟩
  have hlength := hperm.length_eq
  rw [List.length_map, List.length_map] at hlength
  rw [List.countP_eq_length_filter, hlength]

end Store

end Dossier
