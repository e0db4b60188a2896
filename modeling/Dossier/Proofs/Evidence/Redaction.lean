import Mathlib.Data.List.Nodup
import Dossier.Proofs.Evidence.Candidates
import Dossier.Proofs.Work

/-!
# Candidates and their redacted texts

When redacted texts come back one for each candidate and in their order, every candidate is shown
with its own.  The standard policy answers so, and its answer for the first candidates does not
depend on the candidates behind them.
-/

namespace Dossier

namespace Candidate

variable {cs cs' : List Candidate} {items items' : List RedactedItem}

/-- A candidate with a redacted text. -/
def shownAs (c : Candidate) (item : RedactedItem) : Candidate :=
  { c with snippet := item.text, redacted := item.redacted }

/-- Redacted texts that answer some candidates one by one. -/
def Answered (cs : List Candidate) (items : List RedactedItem) : Prop :=
  items.map (·.key) = cs.map chunk

/-- A candidate finds its own text among the answers. -/
lemma withRedaction_of_mem {c : Candidate} {item : RedactedItem}
    (hnodup : (items.map (·.key)).Nodup) (hitem : item ∈ items) (hkey : item.key = c.chunk) :
    withRedaction items c = some (c.shownAs item) := by
  have hfind : items.reverse.find? (·.key == c.chunk) = some item := by
    refine find?_eq_some_of_unique (List.mem_reverse.mpr hitem) (beq_iff_eq.mpr hkey) ?_
    intro other hother hwhich
    exact List.inj_on_of_nodup_map hnodup (List.mem_reverse.mp hother) hitem
      ((beq_iff_eq.mp hwhich).trans hkey.symm)
  unfold withRedaction
  rw [hfind]
  rfl

/-- Candidates that are answered one by one are each shown with its own text. -/
theorem withRedactions_eq_zipWith (h : Answered cs items) (hnodup : (cs.map chunk).Nodup) :
    withRedactions items cs = some (List.zipWith shownAs cs items) := by
  -- The texts are looked up among all answers, so the induction runs over those that are not used
  -- yet and keeps the list that is searched.
  have hpart : ∀ (some' : List Candidate) (part : List RedactedItem), part ⊆ items →
      part.map (·.key) = some'.map chunk →
        withRedactions items some' = some (List.zipWith shownAs some' part) := by
    intro some'
    induction some' with
    | nil =>
      intro part _ _
      rw [List.zipWith_nil_left]
      rfl
    | cons c rest ih =>
      intro part hsub hkeys
      rcases part with _ | ⟨item, part⟩
      · cases hkeys
      · rw [List.map_cons, List.map_cons, List.cons.injEq] at hkeys
        obtain ⟨hitem, hpart⟩ := List.cons_subset.mp hsub
        have hfirst := withRedaction_of_mem (by rw [h]; exact hnodup) hitem hkeys.1
        have hrest := ih part hpart hkeys.2
        unfold withRedactions at hrest ⊢
        rw [List.mapM_cons, hfirst, hrest]
        rfl
  exact hpart cs items (List.Subset.refl _) h

end Candidate

namespace Policy

variable {s : Pii.Session} {items more : List RedactionItem}

/-- The first item is redacted first, and the session goes on with the others. -/
lemma redactIn_cons (s : Pii.Session) (item : RedactionItem) (rest : List RedactionItem) :
    redactIn s (item :: rest) =
      ⟨item.key, String.ofList (s.redact item.text.toList).2.text,
        (s.redact item.text.toList).2.touched⟩ ::
          redactIn (s.redact item.text.toList).1 rest := by
  rw [redactIn]

/-- The standard policy answers items one by one. -/
lemma map_key_redactIn (s : Pii.Session) (items : List RedactionItem) :
    (redactIn s items).map (·.key) = items.map (·.key) := by
  induction items generalizing s with
  | nil => rfl
  | cons item rest ih => rw [redactIn_cons, List.map_cons, List.map_cons, ih]

/-- The standard policy answers candidates one by one. -/
lemma answered_standardRedaction (cs : List Candidate) :
    Candidate.Answered cs (standardRedaction (cs.map Candidate.redactionItem)) := by
  unfold Candidate.Answered standardRedaction
  rw [map_key_redactIn, List.map_map]
  rfl

/-- What the standard policy shows of a candidate is what some session makes of it. -/
lemma exists_session_of_mem_shown {s : Pii.Session} {cs : List Candidate} {c : Candidate}
    (h : c ∈ List.zipWith Candidate.shownAs cs (redactIn s (cs.map Candidate.redactionItem))) :
    ∃ c' ∈ cs, ∃ s' : Pii.Session, c.context = c'.context ∧
      c.snippet = String.ofList (s'.redact c'.snippet.toList).2.text ∧
      c.redacted = (s'.redact c'.snippet.toList).2.touched := by
  induction cs generalizing s with
  | nil => cases h
  | cons first rest ih =>
    rw [List.map_cons, redactIn_cons, List.zipWith_cons_cons] at h
    rcases List.mem_cons.mp h with rfl | hrest
    · refine ⟨first, List.mem_cons_self, s, ?_⟩
      unfold Candidate.shownAs Candidate.redactionItem
      dsimp only
      exact ⟨rfl, rfl, rfl⟩
    · obtain ⟨c', hc', found⟩ := ih hrest
      exact ⟨c', List.mem_cons_of_mem _ hc', found⟩

end Policy

end Dossier
