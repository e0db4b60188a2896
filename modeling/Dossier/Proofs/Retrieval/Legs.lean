import Mathlib.Data.List.Induction
import Mathlib.Data.List.Nodup
import Mathlib.Tactic.Common
import Dossier.Retrieval.Grouping

/-!
# Rankings of records

What grouping and fusion do to rankings, in terms of the list that they are given: a grouped ranking
names the first records of a ranking of chunks, each with its first chunks, and a fused ranking
names the records of both legs, ordered by their ranks alone.
-/

namespace Dossier

/-- No identifier stands twice in a list whose repetitions are left out. -/
lemma nodup_eraseDups (ids : List Id) : ids.eraseDups.Nodup := by
  induction hlength : ids.length using Nat.strongRecOn generalizing ids with
  | ind n ih =>
    rcases ids with _ | ⟨id, rest⟩
    · exact List.nodup_nil
    · rw [List.eraseDups_cons, List.nodup_cons, List.mem_eraseDups, List.mem_filter]
      refine ⟨?_, ih _ ?_ _ rfl⟩
      · rintro ⟨-, hne⟩
        rw [beq_self_eq_true] at hne
        cases hne
      · rw [← hlength]
        exact Nat.lt_succ_of_le (List.length_filter_le _ _)

namespace Grouping

/-- The records of a ranking of chunks, each where its best chunk stands. -/
def records (hits : List ChunkHit) : List Id := (hits.map (·.record)).eraseDups

/-- The first chunks of a record in a ranking of chunks, at least one. -/
def named (chunkLimit : Nat) (hits : List ChunkHit) (record : Id) : List Id :=
  ((hits.filter (·.record == record)).map (·.chunk)).take (max 1 chunkLimit)

/-- A record as a ranking of chunks has it. -/
def legOf (chunkLimit : Nat) (hits : List ChunkHit) (record : Id) : LegHit where
  record
  score := ((hits.find? (·.record == record)).map (·.score)).getD Binary.zero
  chunks := named chunkLimit hits record

variable {recordLimit chunkLimit : Nat} {hits : List ChunkHit} {hit : ChunkHit} {record : Id}

/-! ### One more chunk -/

/-- The records of a ranking are those of its chunks. -/
lemma mem_records : record ∈ records hits ↔ ∃ hit ∈ hits, hit.record = record := by
  unfold records
  rw [List.mem_eraseDups, List.mem_map]

/-- A chunk of a record that is there already adds no record. -/
lemma records_append_of_mem (h : hit.record ∈ records hits) :
    records (hits ++ [hit]) = records hits := by
  unfold records at h ⊢
  rw [List.mem_eraseDups] at h
  have hgone : [hit.record].removeAll (hits.map (·.record)) = [] := by
    unfold List.removeAll
    rw [List.filter_cons_of_neg (by simpa using h), List.filter_nil]
  rw [List.map_append, List.eraseDups_append, List.map_singleton, hgone, List.eraseDups_nil,
    List.append_nil]

/-- A chunk of a record that is not there yet adds this record at the end. -/
lemma records_append_of_not_mem (h : hit.record ∉ records hits) :
    records (hits ++ [hit]) = records hits ++ [hit.record] := by
  unfold records at h ⊢
  rw [List.mem_eraseDups] at h
  have hkept : [hit.record].removeAll (hits.map (·.record)) = [hit.record] := by
    unfold List.removeAll
    rw [List.filter_cons_of_pos (by simpa using h), List.filter_nil]
  rw [List.map_append, List.eraseDups_append, List.map_singleton, hkept, List.eraseDups_cons]
  rfl

/-- A record stays as it is when a chunk of another is added. -/
lemma legOf_append_of_ne (h : hit.record ≠ record) :
    legOf chunkLimit (hits ++ [hit]) record = legOf chunkLimit hits record := by
  have hno : (hit.record == record) = false := beq_false_of_ne h
  unfold legOf named
  simp [List.filter_append, List.find?_append, hno]

/-- A record that comes with a chunk has this chunk only. -/
lemma legOf_append_of_not_mem (h : hit.record ∉ records hits) :
    legOf chunkLimit (hits ++ [hit]) hit.record = ⟨hit.record, hit.score, [hit.chunk]⟩ := by
  have hnone : ∀ other ∈ hits, ¬ (other.record == hit.record) = true := by
    intro other hother heq
    exact h (mem_records.mpr ⟨other, hother, beq_iff_eq.mp heq⟩)
  have hfilter : hits.filter (·.record == hit.record) = [] := List.filter_eq_nil_iff.mpr hnone
  have hfind : hits.find? (·.record == hit.record) = none := List.find?_eq_none.mpr hnone
  unfold legOf named
  rw [List.filter_append, hfilter, List.find?_append, hfind]
  simp only [List.filter_cons, beq_self_eq_true, List.filter_nil, if_true, List.nil_append,
    List.map_cons, List.map_nil, List.find?_cons, Option.none_or, Option.map_some,
    Option.getD_some]
  rw [List.take_of_length_le]
  exact Nat.le_max_left 1 chunkLimit

/-- A record that is there already gets one more chunk, unless it has enough. -/
lemma extend_legOf (h : hit.record ∈ records hits) :
    extend chunkLimit hit (legOf chunkLimit hits hit.record) =
      legOf chunkLimit (hits ++ [hit]) hit.record := by
  obtain ⟨first, hfirst, hrecord⟩ := mem_records.mp h
  have hmem : first ∈ hits.filter (·.record == hit.record) :=
    List.mem_filter.mpr ⟨hfirst, beq_iff_eq.mpr hrecord⟩
  have hpos : 0 < (hits.filter (·.record == hit.record)).length := List.length_pos_of_mem hmem
  have hfind : (hits.find? (·.record == hit.record)).isSome := by
    rw [List.find?_isSome]
    exact ⟨first, hfirst, beq_iff_eq.mpr hrecord⟩
  obtain ⟨best, hbest⟩ := Option.isSome_iff_exists.mp hfind
  unfold legOf named extend
  rw [List.filter_append, List.find?_append, hbest]
  set held := hits.filter (·.record == hit.record) with hheld
  simp only [List.map_append, List.filter_cons, beq_self_eq_true, List.filter_nil, if_true,
    List.map_cons, List.map_nil, true_and, List.length_take, List.length_map, Option.some_or]
  by_cases hroom : held.length < max 1 chunkLimit
  · have hmin : min (max 1 chunkLimit) held.length < chunkLimit := by omega
    rw [if_pos hmin, List.take_of_length_le (by simp; omega), List.take_of_length_le]
    simp only [List.length_append, List.length_map, List.length_cons, List.length_nil]
    omega
  · have hmin : ¬ min (max 1 chunkLimit) held.length < chunkLimit := by omega
    rw [if_neg hmin, List.take_append_of_le_length]
    rw [List.length_map]
    omega

/-! ### The whole ranking -/

/-- The records of a leg are those that it was made for. -/
lemma any_record_map_legOf {rs : List Id} :
    (rs.map (legOf chunkLimit hits)).any (·.record == record) = true ↔ record ∈ rs := by
  rw [List.any_map, List.any_eq_true]
  constructor
  · rintro ⟨r, hr, heq⟩
    rwa [← (beq_iff_eq.mp heq : r = record)]
  · intro hr
    exact ⟨record, hr, beq_self_eq_true record⟩

/-- One more chunk of a record that a leg has goes to this record. -/
lemma step_of_mem {rs : List Id} (hin : hit.record ∈ rs) (hrecord : hit.record ∈ records hits) :
    step recordLimit chunkLimit (rs.map (legOf chunkLimit hits)) hit =
      rs.map (legOf chunkLimit (hits ++ [hit])) := by
  unfold step
  rw [if_pos (any_record_map_legOf.mpr hin), List.map_map]
  refine List.map_congr_left ?_
  intro r hr
  rw [Function.comp_apply]
  by_cases heq : hit.record = r
  · subst heq
    exact extend_legOf hrecord
  · have hsame : extend chunkLimit hit (legOf chunkLimit hits r) = legOf chunkLimit hits r := by
      unfold extend
      rw [if_neg fun h => heq h.1.symm]
    rw [hsame]
    exact (legOf_append_of_ne heq).symm

/-- One more chunk of a record that a leg does not have adds the record, if there is room. -/
lemma step_of_not_mem {rs : List Id} (hout : hit.record ∉ rs) :
    step recordLimit chunkLimit (rs.map (legOf chunkLimit hits)) hit =
      rs.map (legOf chunkLimit (hits ++ [hit])) ++
        if rs.length < recordLimit then [⟨hit.record, hit.score, [hit.chunk]⟩] else [] := by
  have hsame : rs.map (legOf chunkLimit hits) = rs.map (legOf chunkLimit (hits ++ [hit])) := by
    refine List.map_congr_left fun r hr => (legOf_append_of_ne ?_).symm
    rintro rfl
    exact hout hr
  unfold step
  rw [if_neg fun h => hout (any_record_map_legOf.mp h), List.length_map, hsame]
  split
  · rfl
  · rw [List.append_nil]

/-- Grouping gives the first records of a ranking of chunks, each with the score of its best chunk
and with its first chunks. -/
theorem byRecord_eq (recordLimit chunkLimit : Nat) (hits : List ChunkHit) :
    byRecord recordLimit chunkLimit hits =
      ((records hits).take recordLimit).map (legOf chunkLimit hits) := by
  induction hits using List.reverseRecOn with
  | nil => simp [byRecord, records]
  | append_singleton hits hit ih =>
    have hstep : byRecord recordLimit chunkLimit (hits ++ [hit]) =
        step recordLimit chunkLimit (byRecord recordLimit chunkLimit hits) hit := by
      unfold byRecord
      rw [List.foldl_append, List.foldl_cons, List.foldl_nil]
    rw [hstep, ih]
    by_cases hthere : hit.record ∈ (records hits).take recordLimit
    · have hrecord : hit.record ∈ records hits := List.mem_of_mem_take hthere
      rw [step_of_mem hthere hrecord, records_append_of_mem hrecord]
    rw [step_of_not_mem hthere, List.length_take]
    by_cases hroom : (records hits).length < recordLimit
    · have hall : (records hits).take recordLimit = records hits :=
        List.take_of_length_le (Nat.le_of_lt hroom)
      rw [hall] at hthere ⊢
      rw [if_pos (by omega), records_append_of_not_mem hthere,
        List.take_of_length_le (by simp; omega), List.map_append, List.map_singleton,
        legOf_append_of_not_mem hthere]
    · have htake : (records (hits ++ [hit])).take recordLimit =
          (records hits).take recordLimit := by
        by_cases hmem : hit.record ∈ records hits
        · rw [records_append_of_mem hmem]
        · rw [records_append_of_not_mem hmem, List.take_append_of_le_length (by omega)]
      rw [if_neg (by omega), List.append_nil, htake]

/-- The records of a grouped ranking. -/
lemma map_record_byRecord : (byRecord recordLimit chunkLimit hits).map (·.record) =
    (records hits).take recordLimit := by
  rw [byRecord_eq, List.map_map]
  exact List.map_id _

/-- A grouped ranking names records that have a chunk in the ranking of chunks, and chunks that are
there with their record. -/
lemma of_mem_byRecord {leg : LegHit} (h : leg ∈ byRecord recordLimit chunkLimit hits) :
    (∃ hit ∈ hits, hit.record = leg.record) ∧
      ∀ chunk ∈ leg.chunks, ∃ hit ∈ hits, hit.record = leg.record ∧ hit.chunk = chunk := by
  rw [byRecord_eq] at h
  obtain ⟨record, hrecord, rfl⟩ := List.mem_map.mp h
  refine ⟨mem_records.mp (List.mem_of_mem_take hrecord), ?_⟩
  intro chunk hchunk
  obtain ⟨hit, hhit, rfl⟩ := List.mem_map.mp (List.mem_of_mem_take hchunk)
  obtain ⟨hmem, heq⟩ := List.mem_filter.mp hhit
  exact ⟨hit, hmem, beq_iff_eq.mp heq, rfl⟩

/-! ### The beginning of a ranking -/

/-- A ranking names a record once. -/
lemma nodup_records (hits : List ChunkHit) : (records hits).Nodup := nodup_eraseDups _

/-- A grouped ranking names a record once. -/
lemma nodup_record_byRecord :
    ((byRecord recordLimit chunkLimit hits).map (·.record)).Nodup := by
  rw [map_record_byRecord]
  exact (nodup_records hits).sublist (List.take_sublist _ _)

variable {part : List ChunkHit}

/-- The records of the beginning of a ranking come first. -/
lemma records_start (h : part <+: hits) : records part <+: records hits := by
  obtain ⟨rest, rfl⟩ := h
  unfold records
  rw [List.map_append, List.eraseDups_append]
  exact List.prefix_append _ _

/-- A beginning of a ranking that suffices to find its first records: all of it, or with enough
records. -/
structure Suffices (recordLimit : Nat) (part hits : List ChunkHit) : Prop where
  start : part <+: hits
  enough : part = hits ∨ recordLimit ≤ (records part).length

/-- The first records of a ranking are those of a part that suffices. -/
lemma Suffices.take_records (h : Suffices recordLimit part hits) :
    (records part).take recordLimit = (records hits).take recordLimit := by
  rcases h.enough with rfl | hlength
  · rfl
  · obtain ⟨rest, hrest⟩ := records_start h.start
    rw [← hrest, List.take_append_of_le_length hlength]

/-- A part that suffices for more records than a ranking has is all of it. -/
lemma Suffices.eq_of_few (h : Suffices recordLimit part hits)
    (hfew : (records hits).length < recordLimit) : part = hits := by
  refine h.enough.resolve_right (Nat.not_le.mpr ?_)
  exact Nat.lt_of_le_of_lt (records_start h.start).length_le hfew

/-- The beginning of a ranking names the first chunks of a record that the ranking names. -/
lemma named_start (h : part <+: hits) (chunkLimit : Nat) (record : Id) :
    named chunkLimit part record <+: named chunkLimit hits record := by
  obtain ⟨rest, rfl⟩ := h
  unfold named
  rw [List.filter_append, List.map_append, List.take_append]
  exact List.prefix_append _ _

/-- The beginning of a ranking names the chunks of a record that are named by the ranking and that
it has. -/
lemma mem_named_of_start (h : part <+: hits) (hnodup : (hits.map (·.chunk)).Nodup)
    (chunkLimit : Nat) (record chunk : Id) :
    chunk ∈ named chunkLimit part record ↔
      chunk ∈ named chunkLimit hits record ∧ chunk ∈ part.map (·.chunk) := by
  constructor
  · intro hchunk
    refine ⟨(named_start h chunkLimit record).subset hchunk, ?_⟩
    exact (List.filter_sublist.map _).subset (List.mem_of_mem_take hchunk)
  · rintro ⟨hchunk, hpart⟩
    obtain ⟨rest, rfl⟩ := h
    rw [List.map_append, List.nodup_append] at hnodup
    unfold named at hchunk ⊢
    rw [List.filter_append, List.map_append, List.take_append, List.mem_append] at hchunk
    rcases hchunk with hfirst | hlater
    · exact hfirst
    · have hrest := (List.filter_sublist.map _).subset (List.mem_of_mem_take hlater)
      exact absurd rfl (hnodup.2.2 chunk hpart chunk hrest)

end Grouping

namespace Fusion

variable {lexical vector : List LegHit} {k : Nat}

/-- The chunks that a leg names for a record. -/
lemma mem_chunksOf {record chunk : Id} {legs : List LegHit} :
    chunk ∈ chunksOf record legs ↔ ∃ leg ∈ legs, leg.record = record ∧ chunk ∈ leg.chunks := by
  unfold chunksOf
  rw [List.mem_flatMap]
  constructor
  · rintro ⟨leg, hleg, hchunk⟩
    obtain ⟨hmem, heq⟩ := List.mem_filter.mp hleg
    exact ⟨leg, hmem, beq_iff_eq.mp heq, hchunk⟩
  · rintro ⟨leg, hmem, heq, hchunk⟩
    exact ⟨leg, List.mem_filter.mpr ⟨hmem, beq_iff_eq.mpr heq⟩, hchunk⟩

/-- A grouped ranking names the first chunks of a record that it has. -/
lemma chunksOf_byRecord {recordLimit chunkLimit : Nat} {hits : List ChunkHit} {record : Id}
    (h : record ∈ (Grouping.records hits).take recordLimit) :
    chunksOf record (Grouping.byRecord recordLimit chunkLimit hits) =
      Grouping.named chunkLimit hits record := by
  have hnodup : ((Grouping.records hits).take recordLimit).Nodup :=
    (Grouping.nodup_records hits).sublist (List.take_sublist _ _)
  unfold chunksOf
  rw [Grouping.byRecord_eq, List.filter_map]
  change List.flatMap _ (List.map _ (List.filter (· == record) _)) = _
  rw [List.filter_beq, List.count_eq_one_of_mem hnodup h]
  exact List.append_nil _

/-- A grouped ranking names nothing for a record that it does not have. -/
lemma chunksOf_of_not_mem {record : Id} {legs : List LegHit} (h : record ∉ legs.map (·.record)) :
    chunksOf record legs = [] := by
  rw [List.eq_nil_iff_forall_not_mem]
  intro chunk hchunk
  obtain ⟨leg, hleg, rfl, -⟩ := mem_chunksOf.mp hchunk
  exact h (List.mem_map_of_mem hleg)

/-- A fused ranking names records of either leg, and chunks that a leg names for them. -/
lemma of_mem_fuse {hit : FusedHit} (h : hit ∈ fuse lexical vector k) :
    (∃ leg ∈ lexical ++ vector, leg.record = hit.record) ∧
      ∀ chunk ∈ hit.chunks, ∃ leg ∈ lexical ++ vector, leg.record = hit.record ∧
        chunk ∈ leg.chunks := by
  unfold fuse at h
  rw [List.mem_mergeSort] at h
  obtain ⟨record, hrecord, rfl⟩ := List.mem_map.mp h
  rw [List.mem_eraseDups, List.mem_map] at hrecord
  refine ⟨hrecord, ?_⟩
  intro chunk hchunk
  unfold fusedHit at hchunk
  rw [List.mem_eraseDups, List.mem_append] at hchunk
  rcases hchunk with hlexical | hvector
  · obtain ⟨leg, hleg, hrest⟩ := mem_chunksOf.mp hlexical
    exact ⟨leg, List.mem_append_left _ hleg, hrest⟩
  · obtain ⟨leg, hleg, hrest⟩ := mem_chunksOf.mp hvector
    exact ⟨leg, List.mem_append_right _ hleg, hrest⟩

/-- A fused ranking names a record once. -/
lemma nodup_record_fuse : ((fuse lexical vector k).map FusedHit.record).Nodup := by
  have hperm := (List.mergeSort_perm ((((lexical ++ vector).map LegHit.record).eraseDups).map
    (fusedHit lexical vector k)) before).map FusedHit.record
  refine hperm.nodup_iff.mpr ?_
  rw [List.map_map]
  have hid : FusedHit.record ∘ fusedHit lexical vector k = id := rfl
  rw [hid, List.map_id]
  exact nodup_eraseDups _

/-- A hit of a fused ranking names a chunk once. -/
lemma nodup_chunks_of_mem_fuse {hit : FusedHit} (h : hit ∈ fuse lexical vector k) :
    hit.chunks.Nodup := by
  unfold fuse at h
  rw [List.mem_mergeSort] at h
  obtain ⟨record, -, rfl⟩ := List.mem_map.mp h
  exact nodup_eraseDups _

/-! ### Legs that rank the same records -/

/-- A hit without the chunks that it names. -/
def bare (hit : FusedHit) : FusedHit := { hit with chunks := [] }

variable {lexical' vector' : List LegHit} {record : Id}

/-- Ranks are places among records. -/
lemma ranks_eq_of_records (h : vector.map (·.record) = vector'.map (·.record)) (record : Id) :
    ranks record vector = ranks record vector' := by
  have hfrom : ∀ rank, ranksFrom record rank vector = ranksFrom record rank vector' := by
    induction vector generalizing vector' with
    | nil =>
      intro rank
      rw [List.map_eq_nil_iff.mp h.symm]
    | cons hit rest ih =>
      rcases vector' with _ | ⟨hit', rest'⟩
      · cases h
      · rw [List.map_cons, List.map_cons, List.cons.injEq] at h
        intro rank
        unfold ranksFrom
        rw [h.1, ih h.2]
  exact hfrom 1

/-- A record has a rank in a leg that has it. -/
lemma isSome_getLast?_ranks :
    (ranks record vector).getLast?.isSome ↔ record ∈ vector.map (·.record) := by
  have hfrom : ∀ rank, ranksFrom record rank vector ≠ [] ↔ record ∈ vector.map (·.record) := by
    induction vector with
    | nil => simp [ranksFrom]
    | cons hit rest ih =>
      intro rank
      unfold ranksFrom
      rw [List.map_cons, List.mem_cons, ← ih (rank + 1)]
      split
      · rename_i heq
        simp [heq]
      · rename_i hne
        simp [Ne.symm hne]
  rw [List.getLast?_isSome]
  exact hfrom 1

/-- A hit but for its chunks depends on the records of the legs only. -/
lemma bare_fusedHit (h : vector.map (·.record) = vector'.map (·.record)) :
    bare (fusedHit lexical vector k record) = bare (fusedHit lexical vector' k record) := by
  unfold fusedHit
  rw [ranks_eq_of_records h]
  rfl

/-- A fused ranking but for the chunks depends on the records of the legs only. -/
theorem map_bare_fuse (h : vector.map (·.record) = vector'.map (·.record)) :
    (fuse lexical vector k).map bare = (fuse lexical vector' k).map bare := by
  have hbefore : ∀ a b, before a b = before (bare a) (bare b) := fun _ _ => rfl
  unfold fuse
  rw [List.map_mergeSort fun a _ b _ => hbefore a b, List.map_mergeSort fun a _ b _ => hbefore a b,
    List.map_map, List.map_map, List.map_append, List.map_append, h]
  refine congrArg (List.mergeSort · before) (List.map_congr_left fun record _ => ?_)
  exact bare_fusedHit h

/-- A hit of a fused ranking is what the legs make of its record. -/
lemma eq_fusedHit_of_mem_fuse {hit : FusedHit} (h : hit ∈ fuse lexical vector k) :
    hit = fusedHit lexical vector k hit.record := by
  unfold fuse at h
  rw [List.mem_mergeSort] at h
  obtain ⟨record, -, rfl⟩ := List.mem_map.mp h
  rfl

/-- Hits that differ in their chunks at most are the same if they name the same chunks. -/
lemma eq_of_bare {a b : FusedHit} (h : bare a = bare b) (hchunks : a.chunks = b.chunks) :
    a = b := by
  rcases a with ⟨_, _, _, _, _, _, _⟩
  rcases b with ⟨_, _, _, _, _, _, _⟩
  cases h
  cases hchunks
  rfl

/-- The first hits of fused rankings whose legs have the same records are the same just when they
name the same chunks. -/
lemma take_fuse_eq_iff (h : vector.map (·.record) = vector'.map (·.record)) (limit : Nat) :
    (fuse lexical vector k).take limit = (fuse lexical vector' k).take limit ↔
      ∀ hit ∈ (fuse lexical vector k).take limit,
        (chunksOf hit.record lexical ++ chunksOf hit.record vector).eraseDups =
          (chunksOf hit.record lexical ++ chunksOf hit.record vector').eraseDups := by
  have hof : ∀ hit ∈ (fuse lexical vector k).take limit,
      hit = fusedHit lexical vector k hit.record :=
    fun hit hhit => eq_fusedHit_of_mem_fuse (List.mem_of_mem_take hhit)
  have hof' : ∀ hit ∈ (fuse lexical vector' k).take limit,
      hit = fusedHit lexical vector' k hit.record :=
    fun hit hhit => eq_fusedHit_of_mem_fuse (List.mem_of_mem_take hhit)
  constructor
  · intro heq hit hhit
    have hchunks := congrArg FusedHit.chunks (hof hit hhit)
    rw [heq] at hhit
    exact hchunks.symm.trans (congrArg FusedHit.chunks (hof' hit hhit))
  · intro hall
    have hrecords : ((fuse lexical vector k).take limit).map (·.record) =
        ((fuse lexical vector' k).take limit).map (·.record) := by
      have hbare : (fuse lexical vector k).map bare = (fuse lexical vector' k).map bare :=
        map_bare_fuse h
      have hmapped := congrArg (List.map FusedHit.record) hbare
      rw [List.map_map, List.map_map] at hmapped
      rw [List.map_take, List.map_take]
      exact congrArg (List.take limit) hmapped
    have hleft : (fuse lexical vector k).take limit =
        (((fuse lexical vector k).take limit).map (·.record)).map (fusedHit lexical vector' k) := by
      rw [List.map_map]
      refine (List.map_id _).symm.trans (List.map_congr_left fun hit hhit => ?_)
      have hbare : bare hit = bare (fusedHit lexical vector' k hit.record) := by
        conv_lhs => rw [hof hit hhit]
        exact bare_fusedHit h
      refine eq_of_bare hbare ?_
      conv_lhs => rw [id, hof hit hhit]
      exact hall hit hhit
    have hright : (fuse lexical vector' k).take limit =
        (((fuse lexical vector' k).take limit).map (·.record)).map
          (fusedHit lexical vector' k) := by
      rw [List.map_map]
      exact (List.map_id _).symm.trans (List.map_congr_left hof')
    rw [hleft, hright, hrecords]

/-- A list and a longer one have the same members in order of appearance if they have the same
members. -/
lemma eraseDups_eq_iff_of_start {l l' : List Id} (h : l <+: l') :
    l.eraseDups = l'.eraseDups ↔ ∀ x ∈ l', x ∈ l := by
  constructor
  · intro heq x hx
    rwa [← List.mem_eraseDups, heq, List.mem_eraseDups]
  · intro hsub
    obtain ⟨rest, rfl⟩ := h
    have hgone : rest.removeAll l = [] := by
      unfold List.removeAll
      rw [List.filter_eq_nil_iff]
      intro x hx
      simpa using hsub x (List.mem_append_right _ hx)
    rw [List.eraseDups_append, hgone, List.eraseDups_nil, List.append_nil]

/-- Two beginnings of a ranking, one longer than the other, name the same chunks of a record behind
others just when every chunk that the ranking names besides is in both or in neither. -/
lemma eraseDups_named_iff_of_start {chunkLimit : Nat} {part part' hits : List ChunkHit}
    (hpart : part <+: part') (hpart' : part' <+: hits) (hnodup : (hits.map (·.chunk)).Nodup)
    (others : List Id) :
    (others ++ Grouping.named chunkLimit part record).eraseDups =
        (others ++ Grouping.named chunkLimit part' record).eraseDups ↔
      ∀ chunk ∈ Grouping.named chunkLimit hits record, chunk ∉ others →
        (chunk ∈ part.map (·.chunk) ↔ chunk ∈ part'.map (·.chunk)) := by
  have hnamed := Grouping.mem_named_of_start (hpart.trans hpart') hnodup chunkLimit record
  have hnamed' := Grouping.mem_named_of_start hpart' hnodup chunkLimit record
  have hprefix := (List.prefix_append_right_inj others).mpr
    (Grouping.named_start hpart chunkLimit record)
  rw [eraseDups_eq_iff_of_start hprefix]
  constructor
  · intro hall chunk hchunk hothers
    refine ⟨fun h => (hpart.map _).subset h, fun h => ?_⟩
    have hmem := hall chunk (List.mem_append_right _ ((hnamed' _).mpr ⟨hchunk, h⟩))
    rcases List.mem_append.mp hmem with hold | hnew
    · exact absurd hold hothers
    · exact ((hnamed _).mp hnew).2
  · intro hboth chunk hchunk
    by_cases hothers : chunk ∈ others
    · exact List.mem_append_left _ hothers
    · rcases List.mem_append.mp hchunk with hold | hnew
      · exact absurd hold hothers
      · obtain ⟨hmem, hin⟩ := (hnamed' _).mp hnew
        exact List.mem_append_right _ ((hnamed _).mpr ⟨hmem, (hboth chunk hmem hothers).mpr hin⟩)

/-- Two beginnings of a ranking name the same chunks of a record behind others just when every chunk
that the ranking names besides is in both or in neither. -/
lemma eraseDups_named_iff {chunkLimit : Nat} {part part' hits : List ChunkHit}
    (hpart : part <+: hits) (hpart' : part' <+: hits) (hnodup : (hits.map (·.chunk)).Nodup)
    (others : List Id) :
    (others ++ Grouping.named chunkLimit part record).eraseDups =
        (others ++ Grouping.named chunkLimit part' record).eraseDups ↔
      ∀ chunk ∈ Grouping.named chunkLimit hits record, chunk ∉ others →
        (chunk ∈ part.map (·.chunk) ↔ chunk ∈ part'.map (·.chunk)) := by
  rcases List.prefix_or_prefix_of_prefix hpart hpart' with hshort | hlong
  · exact eraseDups_named_iff_of_start hshort hpart' hnodup others
  · rw [eq_comm, eraseDups_named_iff_of_start hlong hpart hnodup others]
    exact forall₃_congr fun _ _ _ => iff_comm

end Fusion

end Dossier
