import Dossier.Proofs.Service.Blind
import Dossier.Proofs.Service.Covering
import Dossier.Proofs.Service.Interference

/-!
# Rebuilding goes unnoticed

What the indexes of a process hold is settled by the store, however they came about.  Two processes
over one store whose indexes are those of the store are therefore not told apart by any search
(`World.Twins.same_hybridSearch`), and by other operations even less, so that they stay alike.  A
process before and behind the making anew of its indexes is such a pair.
-/

namespace Dossier

variable {σ α : Type}

/-! ### Processes over one store -/

/-- A process with the indexes of the store takes over the vectors of the store unless listing them
is refused, and has the indexes of the store then. -/
lemma World.Current.exists_sync {svc : Service σ} {w : World σ} (h : w.Current svc)
    (hnumeric : svc.Numeric) (hlisting : .listVectors ∉ w.store.refused) :
    ∃ n u, perform Service.sync w = (.ok n, u) ∧ w.Alike u ∧ u.Current svc := by
  obtain ⟨rows, hrows⟩ := h.keeps.keyed.exists_listedAfter w.memory.watermark
  have hsync := Service.perform_sync hlisting hrows
  have hmoves : MovesOf svc "" w (stateAfter Service.sync w) := Service.movesOf_sync w
  have halike := Service.alike_sync w
  rw [stateAfter_eq hsync] at hmoves halike
  exact ⟨_, _, hsync, halike, h.moves hnumeric hmoves.moves⟩

/-- Two worlds that differ at most in how the indexes of the process came about, which are those of
the store in both. -/
structure World.Twins (svc : Service σ) (w w' : World σ) : Prop where
  alike : w.Alike w'
  current : w.Current svc
  current' : w'.Current svc

namespace World.Twins

variable {svc : Service σ} {w w' : World σ} {tenant query : String}

/-- Both have the same entries of the lexical index, for every tenant. -/
lemma agreeFor (h : Twins svc w w') (tenant : String) : w.AgreeFor tenant w' where
  store := by
    rw [h.alike.store_eq]
    exact ⟨fun _ => .rfl, fun _ => .rfl, fun _ => .rfl⟩
  lexical := by
    intro e
    unfold LexicalIndex.ofTenant
    rw [List.mem_filter, List.mem_filter, h.current.mem_lexical, h.current'.mem_lexical,
      h.alike.store_eq]

/-- Both have the same ranking against a vector. -/
lemma rank_eq (h : Twins svc w w') (v : Vec) :
    w.memory.vectors.rank v = w'.memory.vectors.rank v := by
  have hdim := h.current'.follows.dimension.trans h.current.follows.dimension.symm
  have hnodup := h.current.follows.named
  have hperm : w.memory.vectors.entries.Perm w'.memory.vectors.entries := by
    refine (List.perm_ext_iff_of_nodup (.of_map _ hnodup)
      (.of_map _ h.current'.follows.named)).mpr fun e => ?_
    rw [h.current.mem_vectors, h.current'.mem_vectors, h.alike.store_eq]
  exact VectorIndex.rank_eq_of_perm hdim hperm hnodup v

/-- Operations that make moves and leave alike worlds leave twins. -/
lemma moves (h : Twins svc w w') (hnumeric : svc.Numeric) {u u' : World σ} (hu : Moves svc w u)
    (hu' : Moves svc w' u') (halike : u.Alike u') : Twins svc u u' :=
  ⟨halike, h.current.moves hnumeric hu, h.current'.moves hnumeric hu'⟩

/-- An operation that keeps tables and indexes without a look at the latter leaves twins. -/
lemma still (h : Twins svc w w') (hnumeric : svc.Numeric) {act : Action σ α}
    (hstill : Within World.Still act) (hblind : Blind act) :
    Twins svc (stateAfter act w) (stateAfter act w') := by
  have hmoves : ∀ x, Moves svc x (stateAfter act x) := fun x =>
    .single (.of "" (.still (hstill x)))
  exact h.moves hnumeric (hmoves w) (hmoves w') (hblind w w' h.alike).after

/-- Taking over the vectors of the store fails in both with the same error, or succeeds in both. -/
lemma sync_cases (h : Twins svc w w') (hnumeric : svc.Numeric) :
    (∃ e, perform Service.sync w = (.error e, w) ∧ perform Service.sync w' = (.error e, w')) ∨
      ∃ n u n' u', perform Service.sync w = (.ok n, u) ∧ perform Service.sync w' = (.ok n', u') ∧
        Twins svc u u' := by
  have hstore := h.alike.store_eq
  by_cases hlisting : .listVectors ∈ w.store.refused
  · have hlisting' : .listVectors ∈ w'.store.refused := by rwa [hstore]
    exact .inl ⟨_, Service.perform_sync_of_refused hlisting,
      Service.perform_sync_of_refused hlisting'⟩
  · have hlisting' : .listVectors ∉ w'.store.refused := by rwa [hstore]
    obtain ⟨n, u, hsync, halike, hu⟩ := h.current.exists_sync hnumeric hlisting
    obtain ⟨n', u', hsync', halike', hu'⟩ := h.current'.exists_sync hnumeric hlisting'
    exact .inr ⟨n, u, n', u', hsync, hsync', (halike.symm.trans h.alike).trans halike', hu, hu'⟩

/-! ### Searches -/

/-- The vector leg of a search is the same in both. -/
lemma same_vectorLeg (h : Twins svc w w') (hq : svc.Quiet) (hnumeric : svc.Numeric)
    (tenant query : String) :
    Same (svc.vectorLeg tenant query) (svc.vectorLeg tenant query) w w' := by
  unfold Service.vectorLeg
  refine (Service.blind_call [query] w w' h.alike).bind fun reply u u' hcall hcall' halike => ?_
  have htwins := h.still hnumeric (hq.still_call [query]) (Service.blind_call [query])
  rw [stateAfter_eq hcall, stateAfter_eq hcall'] at htwins
  split
  · exact Blind.pure none u u' halike
  · exact Blind.pure none u u' halike
  · rcases htwins.sync_cases hnumeric with ⟨e, hsync, hsync'⟩ | ⟨n, x, n', x', hsync, hsync', hx⟩
    · exact Same.bind_of_error hsync hsync' halike
    · refine Same.bind_of_ok hsync hsync' (Same.get_bind ?_)
      rw [hx.rank_eq]
      split
      · exact Blind.pure none x x' hx.alike
      · exact Blind.bind (Blind.store _) (fun _ => Blind.pure _) x x' hx.alike

/-- A search comes to the same in both. -/
theorem same_hybridSearch (h : Twins svc w w') (hq : svc.Quiet) (hnumeric : svc.Numeric)
    (tenant query : String) (limit : Nat) :
    Same (svc.hybridSearch tenant query limit) (svc.hybridSearch tenant query limit) w w' := by
  have hterms : svc.termsOf w' query = svc.termsOf w query := by
    have halike := h.alike
    cases halike
    rfl
  have hlexical : svc.lexicalLeg w' tenant query = svc.lexicalLeg w tenant query :=
    Service.lexicalLeg_eq rfl h.current.follows h.current'.follows (h.agreeFor tenant) hterms
  unfold Service.hybridSearch
  split
  · exact Blind.pure _ w w' h.alike
  · refine Same.get_bind ?_
    dsimp only
    rw [hlexical]
    exact (h.same_vectorLeg hq hnumeric tenant query).bind fun _ u u' _ _ halike =>
      Blind.pure _ u u' halike

/-- Putting together a pack comes to the same in both. -/
lemma same_assemble (h : Twins svc w w') (hq : svc.Quiet) (hnumeric : svc.Numeric)
    (req : PackRequest) : Same (svc.assemble req) (svc.assemble req) w w' := by
  unfold Service.assemble
  refine (Blind.draw svc.fresh w w' h.alike).bind fun id u u' hdraw hdraw' halike => ?_
  have htwins := h.still hnumeric (still_draw svc.fresh) (Blind.draw svc.fresh)
  rw [stateAfter_eq hdraw, stateAfter_eq hdraw'] at htwins
  have hnow : u'.now = u.now := by
    cases halike
    rfl
  refine Same.get_bind ?_
  dsimp only
  rw [hnow]
  refine (htwins.same_hybridSearch hq hnumeric _ _ _).bind fun found v v' _ _ hv => ?_
  refine Blind.bind (Service.blind_candidates _ _) (fun all => ?_) v v' hv
  refine Blind.bind (Blind.ask _) fun filter => ?_
  refine Blind.bind (Service.blind_redacted _) fun shown => ?_
  refine Blind.bind Service.blind_staleAfter fun after => ?_
  refine Blind.bind (Blind.store _) fun vectors => ?_
  exact Blind.bind (Service.blind_sourcesOf _) fun _ => Blind.pure _

/-- Building a pack comes to the same in both. -/
lemma same_pack (h : Twins svc w w') (hq : svc.Quiet) (hnumeric : svc.Numeric)
    (req : PackRequest) : Same (svc.pack req) (svc.pack req) w w' := by
  unfold Service.pack
  split
  · exact Blind.throw _ w w' h.alike
  · refine (h.same_assemble hq hnumeric req).bind fun pack u u' _ _ halike => ?_
    refine Blind.bind (Blind.store _) (fun _ => ?_) u u' halike
    refine Blind.bind (Blind.draw _) fun id => ?_
    refine Blind.get_bind ?_ fun v => ?_
    · rintro v v' ⟨m, hbus, hdim⟩
      rfl
    · exact Blind.bind (Service.blind_record _) fun _ => Blind.pure _

/-! ### Histories -/

/-- An operation leaves twins behind. -/
lemma operation (h : Twins svc w w') (hq : svc.Quiet) (hnumeric : svc.Numeric) (op : Operation) :
    Twins svc (op.run svc w) (op.run svc w') := by
  refine h.moves hnumeric (op.moves hq w) (op.moves hq w') ?_
  cases op with
  | ingest req => exact (Service.blind_ingest req w w' h.alike).after
  | embedRecord tenant record => exact (Service.blind_embedRecord tenant record w w' h.alike).after
  | embedBacklog => exact (Service.blind_embedBacklog w w' h.alike).after
  | handleChange e => exact (Service.blind_handleChange e w w' h.alike).after
  | queueReindex req => exact (Service.blind_queueReindex req w w' h.alike).after
  | rebuild =>
    exact ((Service.alike_rebuild w).symm.trans h.alike).trans (Service.alike_rebuild w')
  | sync => exact ((Service.alike_sync w).symm.trans h.alike).trans (Service.alike_sync w')
  | search tenant query limit => exact (h.same_hybridSearch hq hnumeric tenant query limit).after
  | pack req => exact (h.same_pack hq hnumeric req).after

end World.Twins

/-- What may happen while a process is at work: an operation from its beginning to its end; or time
passes, the state outside changes, events are delivered, the operations to come are given up or not,
and statements are refused from now on or no longer. -/
inductive Happening (σ : Type) where
  | operation (op : Operation)
  | elapse (now : Instant) (cancelled : Bool) (outside : σ) (bus : Bus) (refused : List Statement)

/-- The world behind something that happens. -/
def Happening.run (svc : Service σ) (w : World σ) : Happening σ → World σ
  | operation op => op.run svc w
  | elapse now cancelled outside bus refused => { w with
      store := { w.store with refused }
      memory := { w.memory with bus }
      now, cancelled, outside }

variable {svc : Service σ} {w w' : World σ}

/-- Whatever happens, the indexes stay those of the store. -/
lemma World.Current.happening (h : w.Current svc) (hq : svc.Quiet) (hnumeric : svc.Numeric)
    (x : Happening σ) : (x.run svc w).Current svc := by
  cases x with
  | operation op => exact h.moves hnumeric (op.moves hq w)
  | elapse now cancelled outside bus refused => exact h.of_same rfl rfl rfl ⟨rfl, rfl, rfl, rfl⟩

/-- Whatever happens one thing after the other, the indexes stay those of the store. -/
lemma World.Current.history (h : w.Current svc) (hq : svc.Quiet) (hnumeric : svc.Numeric)
    (xs : List (Happening σ)) : (xs.foldl (Happening.run svc) w).Current svc := by
  induction xs generalizing w with
  | nil => exact h
  | cons x rest ih => exact ih (h.happening hq hnumeric x)

/-- Whatever happens to twins, they stay twins. -/
lemma World.Twins.happening (h : World.Twins svc w w') (hq : svc.Quiet) (hnumeric : svc.Numeric)
    (x : Happening σ) : World.Twins svc (x.run svc w) (x.run svc w') := by
  cases x with
  | operation op => exact h.operation hq hnumeric op
  | elapse now cancelled outside bus refused =>
    refine ⟨?_, h.current.happening hq hnumeric _, h.current'.happening hq hnumeric _⟩
    obtain ⟨⟨m, hbus, hdim⟩, -, -⟩ := h
    exact .of (Happening.run svc w (.elapse now cancelled outside bus refused))
      { m with bus } rfl hdim

/-- Twins stay twins along a history. -/
lemma World.Twins.history (h : World.Twins svc w w') (hq : svc.Quiet) (hnumeric : svc.Numeric)
    (xs : List (Happening σ)) :
    World.Twins svc (xs.foldl (Happening.run svc) w) (xs.foldl (Happening.run svc) w') := by
  induction xs generalizing w w' with
  | nil => exact h
  | cons x rest ih => exact ih (h.happening hq hnumeric x)

/-- After whatever has happened to a process that works on its own over a store that was empty, its
indexes are projections of the store; and if they are made anew then, every later search has the
same outcome as without that. -/
theorem rebuild_unnoticed (hq : svc.Quiet) (hnumeric : svc.Numeric) (now : Instant) (outside : σ)
    (past : List (Happening σ)) :
    let w := past.foldl (Happening.run svc) (.start svc now outside)
    w.memory.Projects w.store ∧
      ∀ (later : List (Happening σ)) (tenant query : String) (limit : Nat),
        (perform (svc.hybridSearch tenant query limit)
            (later.foldl (Happening.run svc) (Operation.rebuild.run svc w))).1 =
          (perform (svc.hybridSearch tenant query limit)
            (later.foldl (Happening.run svc) w)).1 := by
  intro w
  have hw : w.Current svc := (World.Current.start svc now outside).history hq hnumeric past
  have hrebuilt := hw.happening hq hnumeric (.operation .rebuild)
  refine ⟨hw.projects, fun later tenant query limit => ?_⟩
  have htwins : World.Twins svc w (Operation.rebuild.run svc w) :=
    ⟨Service.alike_rebuild w, hw, hrebuilt⟩
  have hlater := htwins.history hq hnumeric later
  exact (hlater.same_hybridSearch hq hnumeric tenant query limit).outcome

/-- A service on its own that has embedded a note does not notice that its indexes are made anew. -/
theorem rebuild_unnoticed_standalone :
    let svc := Service.standalone .small
    let w := [.operation (.ingest (.sampleNote "acme" "Call" "Renewal is due.")),
      .operation .embedBacklog].foldl (Happening.run svc) (.start svc ⟨0⟩ ())
    svc.Quiet ∧ svc.Numeric ∧ w.store.liveChunks.length = 1 ∧ w.store.vectors.length = 1 ∧
      (∃ found, (perform (svc.hybridSearch "acme" "renewal" 10) w).1 = .ok found ∧
        found.hits.length = 1) ∧
      w.memory.Projects w.store ∧
      ∀ (later : List (Happening Unit)) (tenant query : String) (limit : Nat),
        (perform (svc.hybridSearch tenant query limit)
            (later.foldl (Happening.run svc) (Operation.rebuild.run svc w))).1 =
          (perform (svc.hybridSearch tenant query limit)
            (later.foldl (Happening.run svc) w)).1 := by
  intro svc w
  have hq : svc.Quiet := Service.quiet_standalone .small
  have hnumeric : svc.Numeric := Service.numeric_standalone .small
  obtain ⟨hprojects, hsame⟩ := rebuild_unnoticed hq hnumeric ⟨0⟩ ()
    [.operation (.ingest (.sampleNote "acme" "Call" "Renewal is due.")), .operation .embedBacklog]
  have hfinds : (perform (svc.hybridSearch "acme" "renewal" 10) w).1.toOption.map (·.hits.length) =
      some 1 := by decide +kernel
  obtain ⟨found, hfound, hlength⟩ := Option.map_eq_some_iff.mp hfinds
  have hok : (perform (svc.hybridSearch "acme" "renewal" 10) w).1 = .ok found := by
    rcases hsearch : (perform (svc.hybridSearch "acme" "renewal" 10) w).1 with e | found'
    · rw [hsearch] at hfound
      cases hfound
    · rw [hsearch] at hfound
      cases hfound
      rfl
  exact ⟨hq, hnumeric, by decide +kernel, by decide +kernel, ⟨found, hok, hlength⟩, hprojects,
    hsame⟩

end Dossier
