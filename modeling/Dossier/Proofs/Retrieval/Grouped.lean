import Mathlib.Data.Finset.Card
import Mathlib.Data.List.Sort
import Dossier.Proofs.Retrieval.Fusion

/-!
# The ranking of records that a ranking of chunks stands for

A ranking of chunks is grouped in one pass, in which a later chunk still changes an earlier record.
What comes out is described here without a pass: which records there are, in which order, and what
each of them has (`Grouped`).  A list of records fits this description just when grouping gives it
(`byRecord_grouped`).
-/

namespace Dossier.Grouping

open Fusion

variable {recordLimit chunkLimit n : ℕ} {hits : List ChunkHit} {legs : List LegHit} {leg : LegHit}
  {record : Id}

/-- The place at which the first chunk of a record stands in a ranking of chunks. -/
def firstPlace (hits : List ChunkHit) (record : Id) : ℕ := hits.findIdx (·.record == record)

/-- The records that have a chunk in front of the first chunk of a record. -/
def recordsBefore (hits : List ChunkHit) (record : Id) : Finset Id :=
  ((hits.take (firstPlace hits record)).map (·.record)).toFinset

/-- Records as they are grouped from a ranking of chunks. -/
structure Grouped (recordLimit chunkLimit : ℕ) (hits : List ChunkHit) (legs : List LegHit) :
    Prop where
  /-- They stand in the order of their first chunks. -/
  ordered : legs.Pairwise fun a b => firstPlace hits a.record < firstPlace hits b.record
  /-- They are the records of the chunks that have less than the limit of records before them. -/
  mem_iff : ∀ record, record ∈ legs.map (·.record) ↔
    record ∈ hits.map (·.record) ∧ (recordsBefore hits record).card < recordLimit
  /-- Each has the score of its first chunk. -/
  score : ∀ leg ∈ legs, ∃ best, hits[firstPlace hits leg.record]? = some best ∧
    leg.score = best.score
  /-- Each has its first chunks, wherever they stand, as many as the limit and at least one. -/
  chunks : ∀ leg ∈ legs, leg.chunks =
    ((hits.filter (·.record == leg.record)).map (·.chunk)).take (max 1 chunkLimit)

/-! ### The order of records -/

/-- More chunks leave the place of a record as it is that has a chunk already. -/
lemma firstPlace_append (h : record ∈ records hits) (rest : List ChunkHit) :
    firstPlace (hits ++ rest) record = firstPlace hits record := by
  obtain ⟨hit, hhit, heq⟩ := mem_records.mp h
  unfold firstPlace
  rw [List.findIdx_append, if_pos]
  exact List.findIdx_lt_length_of_exists ⟨hit, hhit, beq_iff_eq.mpr heq⟩

/-- The place of a record is among the chunks if it has one. -/
lemma firstPlace_lt (h : record ∈ records hits) : firstPlace hits record < hits.length := by
  obtain ⟨hit, hhit, heq⟩ := mem_records.mp h
  exact List.findIdx_lt_length_of_exists ⟨hit, hhit, beq_iff_eq.mpr heq⟩

/-- The chunk of a record that is new stands behind the others. -/
lemma firstPlace_concat {hit : ChunkHit} (h : hit.record ∉ records hits) :
    firstPlace (hits ++ [hit]) hit.record = hits.length := by
  have hlength : firstPlace hits hit.record = hits.length := by
    refine List.findIdx_eq_length.mpr fun other hother => beq_false_of_ne fun heq => ?_
    exact h (mem_records.mpr ⟨other, hother, heq⟩)
  unfold firstPlace at hlength ⊢
  rw [List.findIdx_append, hlength, if_neg (Nat.lt_irrefl _), List.findIdx_cons, beq_self_eq_true]
  exact Nat.zero_add _

/-- The records of a ranking stand in the order of their first chunks. -/
lemma ordered_records (hits : List ChunkHit) :
    (records hits).Pairwise fun a b => firstPlace hits a < firstPlace hits b := by
  induction hits using List.reverseRecOn with
  | nil => exact List.Pairwise.nil
  | append_singleton hits hit ih =>
    have hkept : (records hits).Pairwise fun a b =>
        firstPlace (hits ++ [hit]) a < firstPlace (hits ++ [hit]) b := by
      refine ih.imp_of_mem fun {a b} ha hb hab => ?_
      rwa [firstPlace_append ha, firstPlace_append hb]
    by_cases hmem : hit.record ∈ records hits
    · rwa [records_append_of_mem hmem]
    · rw [records_append_of_not_mem hmem, List.pairwise_append]
      refine ⟨hkept, List.pairwise_singleton _ _, fun a ha b hb => ?_⟩
      rw [List.mem_singleton.mp hb, firstPlace_append ha, firstPlace_concat hmem]
      exact firstPlace_lt ha

/-- There are as many records as chunks of different records. -/
lemma length_records (hits : List ChunkHit) :
    (records hits).length = (hits.map (·.record)).toFinset.card := by
  rw [← List.toFinset_card_of_nodup (nodup_records hits)]
  refine congrArg Finset.card (Finset.ext fun record => ?_)
  rw [List.mem_toFinset, List.mem_toFinset, records, List.mem_eraseDups]

/-- The records in front of the first chunk of a record are those that come before it. -/
lemma card_recordsBefore (h : record ∈ records hits) :
    (recordsBefore hits record).card = (records hits).idxOf record := by
  have hlt := firstPlace_lt h
  have hat : hits[firstPlace hits record].record = record :=
    beq_iff_eq.mp (List.findIdx_getElem (p := fun hit : ChunkHit => hit.record == record))
  have hnew : record ∉ records (hits.take (firstPlace hits record)) := by
    intro hmem
    obtain ⟨hit, hhit, heq⟩ := mem_records.mp hmem
    obtain ⟨i, hi, rfl⟩ := List.mem_take_iff_getElem.mp hhit
    have hother := List.not_of_lt_findIdx (lt_of_lt_of_le hi (Nat.min_le_left _ _))
    exact ne_of_beq_false hother heq
  have hstart : records (hits.take (firstPlace hits record)) ++ [record] <+: records hits := by
    have hnext : records (hits.take (firstPlace hits record) ++ [hits[firstPlace hits record]]) =
        records (hits.take (firstPlace hits record)) ++ [hits[firstPlace hits record].record] :=
      records_append_of_not_mem (hat.symm ▸ hnew)
    rw [hat, List.take_append_getElem] at hnext
    rw [← hnext]
    exact records_start (List.take_prefix _ _)
  rw [recordsBefore, ← length_records, ← hstart.idxOf_eq_of_mem (by simp),
    List.idxOf_append_of_notMem hnew, List.idxOf_cons_self, Nat.add_zero]

/-- The first records of a ranking are those with few records before them. -/
lemma mem_take_records_iff : record ∈ (records hits).take n ↔
    record ∈ hits.map (·.record) ∧ (recordsBefore hits record).card < n := by
  have hmem : record ∈ records hits ↔ record ∈ hits.map (·.record) := List.mem_eraseDups
  by_cases h : record ∈ records hits
  · rw [List.mem_take_iff_idxOf_lt h, card_recordsBefore h, and_iff_right (hmem.mp h)]
  · refine iff_of_false (fun htake => h (List.mem_of_mem_take htake)) ?_
    exact fun hboth => h (hmem.mpr hboth.1)

/-! ### What a ranking is grouped into -/

/-- The first chunk of a record is the one at its place. -/
lemma getElem?_firstPlace (hits : List ChunkHit) (record : Id) :
    hits[firstPlace hits record]? = hits.find? (·.record == record) :=
  List.find?_eq_getElem?_findIdx.symm

/-- A record has the score of a ranking if it has that of its first chunk. -/
lemma score_legOf {best : ChunkHit} (h : hits[firstPlace hits record]? = some best) :
    (legOf chunkLimit hits record).score = best.score := by
  rw [getElem?_firstPlace] at h
  unfold legOf
  rw [h]
  rfl

/-- Grouping gives records as they are grouped. -/
lemma grouped_byRecord (recordLimit chunkLimit : ℕ) (hits : List ChunkHit) :
    Grouped recordLimit chunkLimit hits (byRecord recordLimit chunkLimit hits) where
  ordered := by
    have hrecords : ((records hits).take recordLimit).Pairwise fun a b =>
        firstPlace hits a < firstPlace hits b :=
      (ordered_records hits).sublist (List.take_sublist _ _)
    rwa [← map_record_byRecord, List.pairwise_map] at hrecords
  mem_iff record := by
    rw [map_record_byRecord]
    exact mem_take_records_iff
  score := by
    rw [byRecord_eq]
    intro leg hleg
    obtain ⟨record, hrecord, rfl⟩ := List.mem_map.mp hleg
    have hlt : firstPlace hits record < hits.length := firstPlace_lt (List.mem_of_mem_take hrecord)
    have hbest := List.getElem?_eq_getElem hlt
    exact ⟨_, hbest, score_legOf hbest⟩
  chunks := by
    rw [byRecord_eq]
    intro leg hleg
    obtain ⟨record, -, rfl⟩ := List.mem_map.mp hleg
    rfl

namespace Grouped

/-- Records as they are grouped are the first ones of the ranking. -/
lemma map_record (h : Grouped recordLimit chunkLimit hits legs) :
    legs.map (·.record) = (records hits).take recordLimit := by
  let Earlier (a b : Id) : Prop := firstPlace hits a < firstPlace hits b
  have : Std.Irrefl Earlier := ⟨fun _ => Nat.lt_irrefl _⟩
  have : Std.Antisymm Earlier := ⟨fun _ _ hab hba => absurd hab (Nat.lt_asymm hba)⟩
  have hlegs : (legs.map (·.record)).Pairwise Earlier := List.pairwise_map.mpr h.ordered
  have hrecords : ((records hits).take recordLimit).Pairwise Earlier :=
    (ordered_records hits).sublist (List.take_sublist _ _)
  refine hlegs.eq_of_mem_iff hrecords fun record => ?_
  rw [h.mem_iff, mem_take_records_iff]

/-- A record as it is grouped has what the ranking has of it. -/
lemma eq_legOf (h : Grouped recordLimit chunkLimit hits legs) (hleg : leg ∈ legs) :
    leg = legOf chunkLimit hits leg.record := by
  obtain ⟨best, hbest, hbestScore⟩ := h.score leg hleg
  have hscore : leg.score = (legOf chunkLimit hits leg.record).score :=
    hbestScore.trans (score_legOf hbest).symm
  have hchunks := h.chunks leg hleg
  rcases leg with ⟨record, score, chunks⟩
  rw [LegHit.mk.injEq]
  exact ⟨rfl, hscore, hchunks⟩

/-- Records as they are grouped are what grouping gives. -/
lemma eq_byRecord (h : Grouped recordLimit chunkLimit hits legs) :
    legs = byRecord recordLimit chunkLimit hits := by
  rw [byRecord_eq, ← h.map_record, List.map_map]
  exact (List.map_id legs).symm.trans (List.map_congr_left fun leg hleg => h.eq_legOf hleg)

end Grouped

/-- Grouping a ranking of chunks, with whatever limits, gives the records that come first, in the
order of their first chunks: each with the score of its first chunk and with its first chunks, also
with those that stand behind the last record that is taken.  Nothing else fits this description.  No
record is named twice, so that what is fused from two groupings tells the places of each record in
both. -/
theorem byRecord_grouped (recordLimit chunkLimit : ℕ) (hits : List ChunkHit) :
    (∀ legs, legs = byRecord recordLimit chunkLimit hits ↔
      Grouped recordLimit chunkLimit hits legs) ∧
    (byRecord recordLimit chunkLimit hits).length =
      min recordLimit (hits.map (·.record)).toFinset.card ∧
    ((byRecord recordLimit chunkLimit hits).map (·.record)).Nodup ∧
    ∀ recordLimit' chunkLimit' hits' k,
      ∀ hit ∈ fuse (byRecord recordLimit chunkLimit hits)
          (byRecord recordLimit' chunkLimit' hits') k,
        Told (byRecord recordLimit chunkLimit hits) (byRecord recordLimit' chunkLimit' hits') k
          hit := by
  refine ⟨fun legs => ⟨?_, Grouped.eq_byRecord⟩, ?_, nodup_record_byRecord, ?_⟩
  · rintro rfl
    exact grouped_byRecord recordLimit chunkLimit hits
  · rw [byRecord_eq, List.length_map, List.length_take, length_records]
  · intro recordLimit' chunkLimit' hits' k hit hhit
    exact told_of_mem_fuse nodup_record_byRecord nodup_record_byRecord hhit

end Dossier.Grouping
