import Dossier.Proofs.Service.CatchingUp

/-!
# Where identifiers and labels come from

Every chunk in a reachable store has an identifier that the service has drawn, so that the next one
is new (`Reachable.drawn`), and every record has the label of a kind of source
(`Reachable.labelled`).
-/

namespace Dossier

variable {σ : Type} {svc : Service σ} {w w' : World σ}

/-! ### Identifiers -/

/-- A process proceeds behind a run of its service. -/
lemma Run.proceeds (h : Run svc w w') (hq : svc.Quiet) (hs : w.store.Keyed)
    (hw : w.memory.Tracks w.store) : w.Proceeds svc w' := by
  induction h with
  | refl => exact .refl hs hw
  | tail _ hstep ih => exact ih.trans (hstep.proceeds hq ih.keyed ih.tracks)

/-- The identifiers of the chunks in a reachable store were drawn. -/
lemma Reachable.drawn (hq : svc.Quiet) (hw : Reachable svc w) :
    ∀ c ∈ w.store.chunks, svc.Drawn w.drawn c.id := by
  obtain ⟨now, outside, hrun⟩ := hw
  have hproceeds := hrun.proceeds hq Store.keyed_empty (.of_unseen Store.keyed_empty rfl rfl)
  intro c hc
  rcases hproceeds.ensues.chunk c hc with ⟨held, hheld, -⟩ | hnew
  · exact absurd hheld List.not_mem_nil
  · exact hnew.drawn

/-! ### Labels -/

namespace Store

variable {chunking : Text.Chunking} {dimension : Nat} {s t : Store}

/-- Every record has the label of a kind of source. -/
def Labelled (s : Store) : Prop :=
  ∀ r ∈ s.records, ∃ kind : SourceKind, r.content.sourceKind = kind.label

/-- Records whose contents are of the same kind as before have labels. -/
lemma Labelled.map (hs : s.Labelled) (change : Record → Record)
    (h : ∀ r, (change r).content.sourceKind = r.content.sourceKind)
    (ht : t.records = s.records.map change) : t.Labelled := by
  intro r hr
  rw [ht] at hr
  obtain ⟨r', hr', rfl⟩ := List.mem_map.mp hr
  rw [h]
  exact hs r' hr'

/-- The transaction of a draft keeps the labels. -/
lemma Labelled.staging (hs : s.Labelled) {d : Draft} {fresh : Nat → Id} {now : Instant}
    {staged : Staged} (hd : d.CutBy chunking) (h : d.Staging fresh now s staged t) :
    t.Labelled := by
  cases h with
  | created hnone hid hrows =>
    intro r hr
    rcases List.mem_append.mp hr with hold | hnew
    · exact hs r hold
    · rw [List.mem_singleton.mp hnew]
      exact hd.labelled
  | replaced hheld hrows =>
    intro r hr
    obtain ⟨r', hr', rfl⟩ := List.mem_map.mp hr
    dsimp only
    split
    · exact hd.labelled
    · exact hs r' hr'

/-- A change keeps the labels. -/
lemma Change.labelled (h : Change chunking dimension s t) (hs : s.Labelled) : t.Labelled := by
  cases h with
  | still h =>
    intro r hr
    rw [h.records] at hr
    exact hs r hr
  | staged hd h => exact hs.staging hd h
  | @retired r hr now =>
    refine hs.map (burialOf r.tenant r.id now) (fun held => ?_) rfl
    rw [burialOf_eq]
  | @committed tenant record batch hknows hdim version now =>
    unfold Store.committed
    split
    · unfold Labelled
      rw [records_embedAll]
      exact hs
    · intro r hr
      obtain ⟨r', hr', rfl⟩ := mem_records_noted.mp hr
      rw [records_embedAll] at hr'
      rw [noteOn_eq]
      exact hs r' hr'
  | failed chunks error => exact hs
  | requeued => exact hs

end Store

/-- Moves of a service keep the labels. -/
lemma Moves.labelled (h : Moves svc w w') (hw : svc.Keeps w.store) (hs : w.store.Labelled) :
    w'.store.Labelled := by
  induction h with
  | refl => exact hs
  | tail hmoves hmove ih => exact (hmove.change (Moves.sound hmoves hw)).labelled ih

/-- A run keeps the labels. -/
lemma Run.labelled (hq : svc.Quiet) (h : Run svc w w') (hw : svc.Keeps w.store)
    (hs : w.store.Labelled) : w'.store.Labelled := by
  induction h with
  | refl => exact hs
  | @tail u v hrun hstep ih =>
    cases hstep with
    | operation op => exact (op.moves hq u).labelled (Run.sound hq hrun hw) ih
    | elapse now cancelled outside bus refused => exact ih
    | restart => exact ih

/-- Every record in a reachable store has the label of a kind of source. -/
lemma Reachable.labelled (hq : svc.Quiet) (hw : Reachable svc w) : w.store.Labelled := by
  obtain ⟨now, outside, hrun⟩ := hw
  exact Run.labelled hq hrun (Store.sound_empty svc.cutting svc.dimension)
    fun r hr => absurd hr List.not_mem_nil

end Dossier
