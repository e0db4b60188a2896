import Dossier.Proofs.Retrieval.Calibration
import Dossier.Proofs.Service.Degraded

/-!
# What a label of confidence says

A pack is labelled by the score of its first source.  Scores are on one scale for every constant of
fusion (`Fusion.Calibrated`), on which a record of one leg has at most a half.  So if the bar of
high confidence lies above a half, both legs stand behind a pack with this label, and a search
without a vector leg never leads to one (`confidence_calibrated`).
-/

namespace Dossier

variable {σ : Type} {svc : Service σ} {w w' : World σ} {req : PackRequest}

namespace Service

/-- A hit of a search with more than a half is a hybrid one, and the search is not degraded. -/
lemma hybrid_of_search (hfusion : svc.config.search.rrfK < twoTo 32) {tenant query : String}
    {limit : Nat} {found : SearchResponse}
    (h : perform (svc.hybridSearch tenant query limit) w = (.ok found, w')) {hit : FusedHit}
    (hhit : hit ∈ found.hits) (habove : Single.half.lt hit.normalized = true) :
    hit.method = .hybrid ∧ found.degraded = false := by
  obtain ⟨lexical, vector, hlexical, hvector, hmem, hdegraded⟩ := exists_legs_of_search h hhit
  have hcalibrated := Fusion.calibrated_of_mem_fuse hfusion hlexical hvector hmem
  have hboth : Fusion.place? hit.record lexical ≠ none ∧ Fusion.place? hit.record vector ≠ none := by
    rw [← not_or]
    intro hsingle
    have hle := Binary.lt_of_lt_of_le habove (hcalibrated.single hsingle)
    obtain ⟨a, b, ha, hb, hab⟩ := Binary.lt_iff.mp hle
    rw [ha] at hb
    cases hb
    exact Int.lt_irrefl _ hab
  refine ⟨?_, ?_⟩
  · rw [(Fusion.told_of_mem_fuse hlexical hvector hmem).both, ← Fusion.isSome_place?,
      ← Fusion.isSome_place?, Option.isSome_iff_ne_none, Option.isSome_iff_ne_none]
    exact hboth
  · by_contra htrue
    have hnil := hdegraded (Bool.eq_true_of_not_eq_false htrue)
    rw [hnil] at hboth
    exact hboth.2 rfl

end Service

/-- For every constant of fusion that is a word of 32 bits: the hits of a fused ranking of legs that
name their records once are on one scale, from zero to one, on which a record of one leg has at most
a half, the first of one leg alone exactly a half, and the first of both legs exactly one; and
whatever the state of a service with this constant, its configuration and the request, if its bar of
high confidence lies above a half, a pack of high confidence has a hybrid first source, and a
degraded pack is not one of high confidence. -/
theorem confidence_calibrated {k : ℕ} (hk : k < twoTo 32) :
    (∀ lexical vector : List LegHit, (lexical.map LegHit.record).Nodup →
      (vector.map LegHit.record).Nodup →
        ∀ hit ∈ Fusion.fuse lexical vector k, Fusion.Calibrated lexical vector k hit) ∧
    ∀ {σ : Type} (svc : Service σ) (w w' : World σ) (req : PackRequest) (pack : EvidencePack),
      svc.config.search.rrfK = k →
        Single.half.lt svc.config.evidence.highConfidence = true →
          perform (svc.pack req) w = (.ok pack, w') →
            (pack.confidence = .high → ∃ first rest, pack.sources = first :: rest ∧
              first.candidate.method = .hybrid) ∧
            (pack.degraded = true → pack.confidence ≠ .high) := by
  refine ⟨fun lexical vector hlexical hvector hit hhit =>
    Fusion.calibrated_of_mem_fuse hk hlexical hvector hhit, ?_⟩
  intro σ svc w w' req pack hconstant hbar h
  have hfusion : svc.config.search.rrfK < twoTo 32 := by rwa [hconstant]
  obtain ⟨u, hassemble, -⟩ := Service.exists_assembled h
  obtain ⟨a, ha, -, hdegraded⟩ := Service.assemble_eq_ok hassemble
  -- a pack of high confidence has a first source, which is a hit above a half
  have hhigh : pack.confidence = .high → ∃ first rest, pack.sources = first :: rest ∧
      first.candidate.method = .hybrid ∧ pack.degraded = false := by
    intro hlabel
    rw [ha.confidence] at hlabel
    rcases hsources : pack.sources with _ | ⟨first, rest⟩
    · rw [hsources] at hlabel
      cases hlabel
    rw [hsources] at hlabel
    have hscore : svc.config.evidence.highConfidence.le first.candidate.score = true :=
      (Confidence.labels_ofScore _ _ _).high.mp hlabel
    have hmem : first ∈ pack.sources := by
      rw [hsources]
      exact List.mem_cons_self
    have hmarked := Service.Assembly.mem_marked_of_mem_left (ha.mem_left_of_mem_sources hmem)
    obtain ⟨hit, hhit, hnormalized, hmethod⟩ := ha.exists_hit hmarked
    have habove : Single.half.lt hit.normalized = true := by
      rw [← hnormalized]
      exact Binary.lt_of_lt_of_le hbar hscore
    obtain ⟨hhybrid, hwhole⟩ := Service.hybrid_of_search hfusion ha.search hhit habove
    exact ⟨first, rest, rfl, hmethod.trans hhybrid, hdegraded.trans hwhole⟩
  refine ⟨fun hlabel => ?_, fun htrue hlabel => ?_⟩
  · obtain ⟨first, rest, hsources, hhybrid, -⟩ := hhigh hlabel
    exact ⟨first, rest, hsources, hhybrid⟩
  · obtain ⟨-, -, -, -, hfalse⟩ := hhigh hlabel
    rw [htrue] at hfalse
    cases hfalse

/-- Two legs with a common first record, a pack of high confidence, and a degraded pack of the same
note. -/
theorem confidence_calibrated_oneNote :
    let lexical : List LegHit := [⟨⟨7⟩, Single.one, [⟨70⟩]⟩, ⟨⟨5⟩, Single.one, [⟨50⟩]⟩]
    let vector : List LegHit := [⟨⟨7⟩, Single.one, [⟨71⟩]⟩]
    let svc := Service.standalone .keyed
    let mute := Service.unembedded .small
    60 < twoTo 32 ∧ (lexical.map LegHit.record).Nodup ∧ (vector.map LegHit.record).Nodup ∧
      (∀ hit ∈ Fusion.fuse lexical vector 60, Fusion.Calibrated lexical vector 60 hit) ∧
      svc.config.search.rrfK = 60 ∧ Single.half.lt svc.config.evidence.highConfidence = true ∧
      (∃ pack w', perform (svc.pack .sample) Service.oneNote = (.ok pack, w') ∧
        pack.confidence = .high ∧ ∃ first rest, pack.sources = first :: rest ∧
          first.candidate.method = .hybrid) ∧
      mute.config.search.rrfK = 60 ∧ Single.half.lt mute.config.evidence.highConfidence = true ∧
      ∃ pack w', perform (mute.pack .sample) Service.unembeddedNote = (.ok pack, w') ∧
        pack.degraded = true ∧ pack.confidence ≠ .high := by
  intro lexical vector svc mute
  have hk : 60 < twoTo 32 := by decide
  have hlexical : (lexical.map LegHit.record).Nodup := by decide
  have hvector : (vector.map LegHit.record).Nodup := by decide
  have hbar : Single.half.lt svc.config.evidence.highConfidence = true := by decide +kernel
  have hbar' : Single.half.lt mute.config.evidence.highConfidence = true := by decide +kernel
  obtain ⟨hfused, hpacks⟩ := confidence_calibrated hk
  refine ⟨hk, hlexical, hvector, hfused lexical vector hlexical hvector, rfl, hbar, ?_, rfl, hbar',
    ?_⟩
  · have hlabel : (perform (svc.pack .sample) Service.oneNote).1.toOption.map
        (·.confidence) = some .high := by decide +kernel
    rcases h : perform (svc.pack .sample) Service.oneNote with ⟨e | pack, w'⟩
    · rw [h] at hlabel
      cases hlabel
    · rw [h] at hlabel
      have hhigh : pack.confidence = .high := Option.some.inj hlabel
      exact ⟨pack, w', rfl, hhigh, (hpacks svc _ w' .sample pack rfl hbar h).1 hhigh⟩
  · have hflag : (perform (mute.pack .sample) Service.unembeddedNote).1.toOption.map
        (·.degraded) = some true := by decide +kernel
    rcases h : perform (mute.pack .sample) Service.unembeddedNote with ⟨e | pack, w'⟩
    · rw [h] at hflag
      cases hflag
    · rw [h] at hflag
      have hdegraded : pack.degraded = true := Option.some.inj hflag
      exact ⟨pack, w', rfl, hdegraded, (hpacks mute _ w' .sample pack rfl hbar' h).2 hdegraded⟩

end Dossier
