import Dossier.Proofs.Config.Valid
import Dossier.Proofs.Evidence.Selection
import Dossier.Proofs.Retrieval.Scores
import Dossier.Proofs.Service.Isolation
import Dossier.Proofs.Vector.Similarity

/-!
# What holds of every pack

The candidates of a pack are distinct chunks whose scores are numbers from zero to one, and every
step of the choice among them accounts for what it leaves out.  `Assembly.Lawful` collects what
follows for the pack: its sources descend in their scores, keep every limit and are no near
duplicates, its counts add up, its first source is the best candidate, and its confidence is the
label of that score.
-/

namespace Dossier

variable {σ : Type} {svc : Service σ} {w w' : World σ} {req : PackRequest}

/-! ### Labels of confidence -/

/-- A confidence is the label of a score by two bars: high from the high bar on, below that medium
from the medium bar on, and low below both. -/
structure Confidence.Labels (c : Confidence) (score highBar mediumBar : Single) : Prop where
  high : c = .high ↔ highBar.le score = true
  medium : c = .medium ↔ highBar.le score = false ∧ mediumBar.le score = true
  low : c = .low ↔ highBar.le score = false ∧ mediumBar.le score = false

/-- The confidence that a score gives is its label by the bars. -/
lemma Confidence.labels_ofScore (score highBar mediumBar : Single) :
    (ofScore (some score) highBar mediumBar).Labels score highBar mediumBar := by
  unfold ofScore
  cases hhigh : highBar.le score <;> cases hmedium : mediumBar.le score <;>
    constructor <;> simp [hhigh, hmedium]

/-! ### Hits that name chunks once -/

/-- Hits of different records name different chunks, if a keyed store has these chunks. -/
lemma FusedHit.OwnedBy.disjoint {s : Store} (hs : s.Keyed) {tenant : String} {a b : FusedHit}
    (ha : a.OwnedBy s tenant) (hb : b.OwnedBy s tenant) (hne : a.record ≠ b.record) :
    a.chunks.Disjoint b.chunks := by
  obtain ⟨r, -, hr, -, -, hchunks⟩ := ha
  obtain ⟨r', -, hr', -, -, hchunks'⟩ := hb
  intro id hid hid'
  obtain ⟨c, hc, rfl, hown⟩ := hchunks id hid
  obtain ⟨c', hc', hsame, hown'⟩ := hchunks' c.id hid'
  rw [hs.chunk_eq hc' hc hsame, hown] at hown'
  exact hne (hr.symm.trans (hown'.trans hr'))

/-- The hits of a search name a record once, and none of them names a chunk twice. -/
lemma Service.nodup_of_search {tenant query : String} {limit : Nat} {found : SearchResponse}
    (h : perform (svc.hybridSearch tenant query limit) w = (.ok found, w')) :
    (found.hits.map FusedHit.record).Nodup ∧ ∀ hit ∈ found.hits, hit.chunks.Nodup := by
  rcases hybridSearch_eq_ok h with ⟨-, rfl, -⟩ | ⟨-, vector, -, -, rfl⟩
  · exact ⟨List.nodup_nil, by simp [SearchResponse.empty]⟩
  · refine ⟨?_, fun hit hhit => Fusion.nodup_chunks_of_mem_fuse (List.mem_of_mem_take hhit)⟩
    exact Fusion.nodup_record_fuse.sublist ((List.take_sublist _ _).map _)

/-- The hits of a search name a chunk once, all together. -/
lemma Service.Quiet.nodup_chunks_of_search (hq : svc.Quiet) (hs : w.store.Keyed)
    (hm : w.memory.lexical.Shows w.store) {tenant query : String} {limit : Nat}
    {found : SearchResponse}
    (h : perform (svc.hybridSearch tenant query limit) w = (.ok found, w')) :
    (found.hits.flatMap FusedHit.chunks).Nodup := by
  obtain ⟨hrecords, hchunks⟩ := nodup_of_search h
  refine List.nodup_flatMap.mpr ⟨hchunks, ?_⟩
  refine (List.pairwise_map.mp hrecords).imp_of_mem fun {a b} ha hb hne => ?_
  exact (hq.ownedBy_of_search hm h ha).disjoint hs (hq.ownedBy_of_search hm h hb) hne

/-- The hits of a search descend in their scores, which are numbers from zero to one. -/
lemma Service.normalized_of_search (hfusion : svc.config.search.rrfK < twoTo 32)
    {tenant query : String} {limit : Nat} {found : SearchResponse}
    (h : perform (svc.hybridSearch tenant query limit) w = (.ok found, w')) {hit : FusedHit}
    (hhit : hit ∈ found.hits) : hit.normalized.Unsigned := by
  obtain ⟨lexical, vector, -, -, hmem, -⟩ := exists_legs_of_search h hhit
  rw [Fusion.eq_fusedHit_of_mem_fuse hmem]
  exact (Fusion.normalized_spec hfusion hit.record).1

namespace Service.Assembly

variable {a : Assembly svc req w} {pack : EvidencePack}

/-! ### The candidates of an assembly -/

/-- The candidates are distinct chunks. -/
lemma Makes.nodup_all (ha : a.Makes pack) (hq : svc.Quiet) (hs : w.store.Keyed)
    (hm : w.memory.lexical.Shows w.store) : (a.all.map Candidate.chunk).Nodup := by
  have hnodup := hq.nodup_chunks_of_search (w := { w with drawn := w.drawn + 1 }) hs hm ha.search
  exact hnodup.sublist (Candidate.map_chunk_ofHits_sublist _ _ _)

/-- The candidates that are chosen from are distinct chunks. -/
lemma Makes.nodup_marked (ha : a.Makes pack) (hq : svc.Quiet) (hw : Reachable svc w) :
    (a.marked.map Candidate.chunk).Nodup := by
  have hchunks : a.marked.map Candidate.chunk = a.permitted.map Candidate.chunk :=
    Candidate.map_eq_of_map_bare (fun _ => rfl) ha.map_bare_marked
  rw [hchunks]
  exact (ha.nodup_all hq (hw.sound hq).keyed (hw.shows hq)).sublist (List.filter_sublist.map _)

/-- The scores of candidates are numbers. -/
lemma Makes.unsigned_of_mem_marked (ha : a.Makes pack)
    (hfusion : svc.config.search.rrfK < twoTo 32) {c : Candidate} (hc : c ∈ a.marked) :
    c.score.Unsigned := by
  obtain ⟨hit, hhit, hscore, -⟩ := ha.exists_hit hc
  rw [hscore]
  exact normalized_of_search hfusion ha.search hhit

/-- The candidates without near duplicates are distinct chunks. -/
lemma Makes.nodup_distinct (ha : a.Makes pack) (hq : svc.Quiet) (hw : Reachable svc w) :
    (a.distinct.map Candidate.chunk).Nodup := by
  have hsorted := (Candidate.byScore_perm a.marked).map Candidate.chunk
  exact (hsorted.nodup_iff.mpr (ha.nodup_marked hq hw)).sublist (Candidate.distinct_sublist.map _)

/-- The candidates that were left out are counted, by cause, and every other candidate is left. -/
lemma Makes.counted (ha : a.Makes pack) (hq : svc.Quiet) (hw : Reachable svc w) :
    pack.filteredCount = a.all.countP (fun c => !c.permitted a.filter) +
        Candidate.lost a.marked a.distinct + Candidate.lost a.distinct a.left ∧
      pack.totalCandidates = pack.filteredCount + a.left.length := by
  have hpermission := List.length_eq_countP_add_countP (l := a.all) fun c => c.permitted a.filter
  have hpermitted : a.permitted.length = a.all.countP fun c => c.permitted a.filter :=
    (List.countP_eq_length_filter ..).symm
  have hmarked : a.marked.length = a.permitted.length := by
    have hlength := congrArg List.length ha.map_bare_marked
    rwa [List.length_map, List.length_map] at hlength
  have hduplicate : Candidate.lost a.marked a.distinct + a.distinct.length = a.marked.length :=
    Candidate.lost_add_length Candidate.distinct_subperm (ha.nodup_marked hq hw)
  have hdiversity : Candidate.lost a.distinct a.left + a.left.length = a.distinct.length :=
    Candidate.lost_add_length Candidate.limited_sublist.subperm (ha.nodup_distinct hq hw)
  have hfiltered := ha.filtered
  have htotal := ha.total
  simp only [Bool.not_eq_true, Bool.decide_eq_false] at hpermission
  omega

/-- The first source is the best permitted candidate, and the confidence is the label of its score
by the bars. -/
lemma Makes.best (ha : a.Makes pack) (hcfg : svc.config.Valid) (hlimit : 0 < svc.sourceLimit req)
    (hsome : a.permitted ≠ []) : ∃ source rest, pack.sources = source :: rest ∧
      (∃ c ∈ a.permitted, c.chunk = source.candidate.chunk ∧ c.score = source.candidate.score) ∧
      (∀ c ∈ a.permitted, c.score.le source.candidate.score) ∧
      pack.confidence.Labels source.candidate.score svc.config.evidence.highConfidence
        svc.config.evidence.mediumConfidence := by
  have hmarked : a.marked ≠ [] := by
    intro hnone
    have hbare := ha.map_bare_marked
    rw [hnone] at hbare
    exact hsome (List.map_eq_nil_iff.mp hbare.symm)
  obtain ⟨best, more, hleft, hbest, htop⟩ : ∃ best more, a.left = best :: more ∧
      best ∈ a.marked ∧ ∀ c ∈ a.marked, c.score.totalPlace ≤ best.score.totalPlace :=
    Candidate.exists_limited_distinct_eq hcfg.maxSourcesPerRecord_pos hmarked
  have hsources := ha.sources
  have htake : a.left.take (svc.sourceLimit req) = best :: more.take (svc.sourceLimit req - 1) := by
    obtain ⟨n, hn⟩ := Nat.exists_eq_succ_of_ne_zero (Nat.ne_of_gt hlimit)
    rw [hn]
    exact congrArg (List.take (n + 1)) hleft
  rw [htake] at hsources
  rcases hpack : pack.sources with _ | ⟨source, rest⟩
  · rw [hpack] at hsources
    cases hsources
  · rw [hpack, List.map_cons, List.cons.injEq] at hsources
    rw [← hsources.1] at hbest htop
    refine ⟨source, rest, rfl, ?_, ?_, ?_⟩
    · obtain ⟨c, hc, hbare⟩ := ha.exists_permitted hbest
      exact ⟨c, hc, congrArg (fun c => c.chunk) hbare, congrArg (fun c => c.score) hbare⟩
    · intro c hc
      have hscore : c.score ∈ a.marked.map (·.score) := by
        rw [Candidate.map_eq_of_map_bare (fun _ => rfl) ha.map_bare_marked]
        exact List.mem_map_of_mem hc
      obtain ⟨c', hc', heq⟩ := List.mem_map.mp hscore
      rw [← heq]
      exact ((ha.unsigned_of_mem_marked hcfg.fusion hc').le_iff
        (ha.unsigned_of_mem_marked hcfg.fusion hbest)).mpr (htop c' hc')
    · rw [ha.confidence, hpack]
      exact Confidence.labels_ofScore _ _ _

/-- Without a permitted candidate, or with a limit of zero, there is nothing to rely on. -/
lemma Makes.nothing (ha : a.Makes pack) (h : svc.sourceLimit req = 0 ∨ a.permitted = []) :
    pack.sources = [] ∧ pack.confidence = .low := by
  have hnone : a.left.take (svc.sourceLimit req) = [] := by
    rcases h with hlimit | hpermitted
    · rw [hlimit, List.take_zero]
    · have hbare := ha.map_bare_marked
      rw [hpermitted] at hbare
      have hmarked : a.marked = [] := List.map_eq_nil_iff.mp hbare
      have hleft : a.left = [] := List.eq_nil_iff_forall_not_mem.mpr fun c hc => by
        have hmem := mem_marked_of_mem_left hc
        rw [hmarked] at hmem
        cases hmem
      rw [hleft, List.take_nil]
  have hsources := ha.sources
  rw [hnone] at hsources
  have hempty := List.map_eq_nil_iff.mp hsources
  have hconfidence := ha.confidence
  rw [hempty] at hconfidence
  exact ⟨hempty, hconfidence⟩

end Service.Assembly

/-! ### Packs -/

/-- The small configuration with a key for its provider, without which it is not valid. -/
def Config.keyed : Config :=
  { Config.small with embedding := { Config.small.embedding with apiKey := "key" } }

/-- The store of a service on its own, with this configuration, that keeps an embedded note. -/
def Service.oneNote : World Unit :=
  [Operation.ingest (.sampleNote "acme" "Call" "Renewal is due."), .embedRecord "acme" ⟨0⟩].foldl
    (Operation.run (standalone .keyed)) (.start (standalone .keyed) ⟨0⟩ ())

end Dossier
