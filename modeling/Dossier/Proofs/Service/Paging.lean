import Dossier.Proofs.Service.Reachable
import Dossier.Proofs.Service.Search

/-!
# Paging through a ranking

The vector leg looks ranked chunks up a page after the other and stops at the end of a page once it
has seen enough records.  What it has then is the beginning of what the whole ranking comes to, with
the first records of it (`Store.suffices_resolvedPages`); so grouping gives the same records with
the same scores, and for each of them the first of its chunks (`paging_agrees`).
-/

namespace Dossier

variable {part hits : List ChunkHit} {recordLimit chunkLimit : Nat} {record : Id}

/-- One leg has a record as another has it, but with the first of its chunks only, at least one. -/
structure LegHit.Begins (leg whole : LegHit) : Prop where
  record : leg.record = whole.record
  score : leg.score = whole.score
  nonempty : leg.chunks ≠ []
  chunks : leg.chunks <+: whole.chunks

namespace Grouping

/-- A record of the beginning of a ranking begins as in the whole ranking. -/
lemma begins_legOf (h : part <+: hits) (hrecord : record ∈ records part) :
    (legOf chunkLimit part record).Begins (legOf chunkLimit hits record) := by
  obtain ⟨first, hfirst, hwhich⟩ := mem_records.mp hrecord
  have hsome : (part.find? (·.record == record)).isSome := by
    rw [List.find?_isSome]
    exact ⟨first, hfirst, beq_iff_eq.mpr hwhich⟩
  obtain ⟨best, hbest⟩ := Option.isSome_iff_exists.mp hsome
  refine ⟨rfl, ?_, ?_, named_start h chunkLimit record⟩
  · obtain ⟨rest, rfl⟩ := h
    unfold legOf
    rw [List.find?_append, hbest, Option.some_or]
  · have hmem : first ∈ part.filter (·.record == record) :=
      List.mem_filter.mpr ⟨hfirst, beq_iff_eq.mpr hwhich⟩
    have hpos : 0 < (part.filter (·.record == record)).length := List.length_pos_of_mem hmem
    unfold legOf named
    rw [← List.length_pos_iff, List.length_take, List.length_map]
    omega

/-- Grouping a part of a ranking that suffices gives the records of the whole ranking in their
order, each with the first of its chunks. -/
lemma Suffices.forall₂_begins (h : Suffices recordLimit part hits) (chunkLimit : Nat) :
    List.Forall₂ LegHit.Begins (byRecord recordLimit chunkLimit part)
      (byRecord recordLimit chunkLimit hits) := by
  rw [byRecord_eq, byRecord_eq, ← h.take_records, List.forall₂_map_left_iff,
    List.forall₂_map_right_iff, List.forall₂_same]
  intro record hrecord
  exact begins_legOf h.start (List.mem_of_mem_take hrecord)

end Grouping

/-- For every ranking of chunks, every size of a page and all limits: in a store that can be read,
looking the ranking up by pages until enough records are found succeeds, and so does looking it up
as a whole; grouping then gives the same records in the same order and with the same scores, each
with the first of the chunks that it has in the whole ranking, at least one; and if the whole
ranking comes to fewer records than are asked for, grouping gives the same. -/
theorem paging_agrees {s : Store} (hread : .readContexts ∉ s.refused) (tenant : String)
    (recordLimit chunkLimit size : Nat) (ranking : List VectorIndex.Hit) :
    ∃ found contexts,
      perform (Service.resolvePages tenant recordLimit [] (batches size ranking)) s =
        (.ok found, s) ∧
      perform (Store.loadContexts tenant (ranking.map (·.chunk))) s = (.ok contexts, s) ∧
      List.Forall₂ LegHit.Begins (Grouping.byRecord recordLimit chunkLimit found)
        (Grouping.byRecord recordLimit chunkLimit (resolve contexts ranking)) ∧
      (recordCount (resolve contexts ranking) < recordLimit →
        Grouping.byRecord recordLimit chunkLimit found =
          Grouping.byRecord recordLimit chunkLimit (resolve contexts ranking)) := by
  have hload : perform (Store.loadContexts tenant (ranking.map (·.chunk))) s =
      (.ok (s.contextsOf tenant (ranking.map (·.chunk))), s) :=
    Store.perform_reading_eq_ok.mpr ⟨hread, rfl, rfl⟩
  have hwhole := s.resolve_contextsOf tenant ranking
  have hsuffices := s.suffices_resolvedPages tenant recordLimit size ranking
  refine ⟨_, _, Store.perform_resolvePages hread tenant recordLimit [] (batches size ranking), hload,
    ?_, fun hfew => ?_⟩
  · rw [hwhole]
    exact hsuffices.forall₂_begins chunkLimit
  · rw [hwhole] at hfew ⊢
    rw [hsuffices.eq_of_few hfew]

/-- A service on its own that cuts a note into two chunks. -/
def Service.cutNote : World Unit :=
  Operation.run (standalone .narrow) (.start (standalone .narrow) ⟨0⟩ ())
    (.ingest (.sampleNote "acme" "Call" "Renewal is due soon."))

/-- Two pages, of which the first has enough: the record is found with one of its two chunks. -/
theorem paging_agrees_cutNote :
    let s := Service.cutNote.store
    let ranking : List VectorIndex.Hit := [⟨⟨9⟩, Single.one⟩, ⟨⟨2⟩, Single.one⟩, ⟨⟨1⟩, Single.one⟩]
    .readContexts ∉ s.refused ∧ ∃ found contexts,
      perform (Service.resolvePages "acme" 1 [] (batches 2 ranking)) s = (.ok found, s) ∧
      perform (Store.loadContexts "acme" (ranking.map (·.chunk))) s = (.ok contexts, s) ∧
      List.Forall₂ LegHit.Begins (Grouping.byRecord 1 3 found)
        (Grouping.byRecord 1 3 (resolve contexts ranking)) ∧
      (recordCount (resolve contexts ranking) < 1 →
        Grouping.byRecord 1 3 found = Grouping.byRecord 1 3 (resolve contexts ranking)) ∧
      (Grouping.byRecord 1 3 found).map (·.chunks) = [[⟨2⟩]] ∧
      (Grouping.byRecord 1 3 (resolve contexts ranking)).map (·.chunks) = [[⟨2⟩, ⟨1⟩]] := by
  intro s ranking
  have hread : .readContexts ∉ s.refused := by decide +kernel
  obtain ⟨found, contexts, hpages, hload, hbegins, hfew⟩ :=
    paging_agrees hread "acme" 1 3 2 ranking
  refine ⟨hread, found, contexts, hpages, hload, hbegins, hfew, ?_, ?_⟩
  · obtain ⟨rfl, -⟩ := Store.resolvePages_eq_ok hpages
    decide +kernel
  · obtain ⟨-, rfl, -⟩ := Store.perform_reading_eq_ok.mp hload
    decide +kernel

end Dossier
