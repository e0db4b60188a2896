import Dossier.Proofs.Service.Isolation

/-!
# Writes for one tenant concern no other

Many statements name a record or a chunk without its tenant.  Where their identifiers come from, and
that an identifier belongs to one tenant only, is what keeps them within a tenant: a move for one
tenant leaves the rows of every other as they are, and its entries in the lexical index
(`MoveOf.spares`), and so does every operation for the tenant.
-/

namespace Dossier

variable {σ : Type} {svc : Service σ} {w w' : World σ} {tenant other : String}

/-! ### Moves for another tenant -/

/-- The second world has the same for a tenant as the first, in its store and in the lexical index
of its process. -/
structure World.Spares (tenant : String) (w w' : World σ) : Prop where
  store : w.store.Spares tenant w'.store
  lexical : w'.memory.lexical.ofTenant tenant = w.memory.lexical.ofTenant tenant

/-- A world spares every tenant that it is the same for. -/
lemma World.Spares.refl (w : World σ) : w.Spares tenant w := ⟨.refl _, rfl⟩

/-- A tenant that is spared twice is spared. -/
lemma World.Spares.trans {u : World σ} (h : w.Spares tenant w') (h' : w'.Spares tenant u) :
    w.Spares tenant u :=
  ⟨h.store.trans h'.store, h'.lexical.trans h.lexical⟩

/-- A tenant that is spared finds the same by its words. -/
lemma World.Spares.search_eq (h : w.Spares tenant w') (ts : List String) :
    w'.memory.lexical.search tenant ts = w.memory.lexical.search tenant ts := by
  unfold LexicalIndex.search
  rw [h.lexical]

/-- Pending chunks of a tenant's record are none of another tenant's. -/
lemma Store.Sound.not_contains_pendingOf {chunking : Text.Chunking} {dimension : Nat} {s : Store}
    (hs : s.Sound chunking dimension) (hne : tenant ≠ other) {record : Id} {c : StoredChunk}
    (hc : c ∈ s.chunksFor other) :
    ((s.pendingOf tenant record).map (·.id)).contains c.id = false := by
  rw [← Bool.not_eq_true, List.contains_iff_mem]
  intro hmem
  obtain ⟨c', hc', hid⟩ := List.mem_map.mp hmem
  have hknows := hs.keyed.knows_pendingOf (List.ne_nil_of_mem hc')
  exact hknows.not_mem_chunksFor hne hc' (Store.mem_chunksFor.mp hc).1 hid.symm hc

/-- A move for a tenant spares every other tenant. -/
lemma MoveOf.spares (h : MoveOf svc tenant w w') (hs : svc.Keeps w.store)
    (hw : w.memory.lexical.Shows w.store) (hne : tenant ≠ other) : w.Spares other w' := by
  cases h with
  | still h => exact ⟨h.tables.spares, by rw [h.lexical]⟩
  | @staged d now staged s htenant hd h =>
    have hother : d.tenant ≠ other := by rwa [htenant]
    exact ⟨hs.spares_staging h hother, hw.ofTenant_staging hs hd h hother⟩
  | @retired r hr htenant now =>
    have hother : r.tenant ≠ other := by rwa [htenant]
    exact ⟨hs.spares_retired hr hother now, hw.ofTenant_retired hs hr hother⟩
  | @committed record vs now hlength hdim hgiven =>
    refine ⟨?_, by rw [Memory.lexical_takingIn]⟩
    rcases hs.keyed.zip_pendingOf_cases tenant record vs with hnone | hknows
    · rw [hnone]
      exact .refl _
    · exact hknows.spares_committed hne svc.version now
  | failed record error =>
    refine ⟨Store.spares_changeChunks (fun _ => rfl) fun c hc => ?_, rfl⟩
    rw [hs.not_contains_pendingOf hne hc, Bool.false_and]
  | followed h => exact ⟨.refl _, rfl⟩

/-- Moves for a tenant spare every other tenant. -/
lemma MovesOf.spares (h : MovesOf svc tenant w w') (hs : svc.Keeps w.store)
    (hw : w.memory.lexical.Shows w.store) (hne : tenant ≠ other) : w.Spares other w' := by
  induction h with
  | refl => exact .refl w
  | tail hmoves hmove ih =>
    have hmid := MovesOf.moves hmoves
    exact ih.trans (hmove.spares (Moves.sound hmid hs) (Moves.shows hmid hs hw) hne)

/-! ### Operations for a tenant -/

/-- The tenant that an operation is for, if it is for one. -/
def Operation.tenant? : Operation → Option String
  | ingest req => some req.tenant
  | embedRecord tenant _ => some tenant
  | handleChange e => some e.tenant
  | queueReindex req => some req.tenant
  | search tenant _ _ => some tenant
  | pack req => some req.principal.tenant
  | embedBacklog | rebuild | sync => none

/-- An operation for a tenant with a quiet provider makes moves for the tenant only. -/
lemma Operation.movesOf (hq : svc.Quiet) {op : Operation} (hop : op.tenant? = some tenant)
    (w : World σ) : MovesOf svc tenant w (op.run svc w) := by
  cases op with
  | ingest req =>
    cases hop
    exact (Service.drafted_ingest svc req w).movesOf
  | embedRecord tenant record =>
    cases hop
    exact hq.movesOf_embedRecord tenant record w
  | handleChange e =>
    cases hop
    exact Service.movesOf_handleChange e w
  | queueReindex req =>
    cases hop
    exact movesOf_of_still (svc.still_queueReindex req) w
  | search tenant query limit =>
    cases hop
    exact hq.movesOf_hybridSearch tenant query limit w
  | pack req =>
    cases hop
    exact hq.movesOf_pack req w
  | embedBacklog => cases hop
  | rebuild => cases hop
  | sync => cases hop

/-- Embedding a record that is none of the tenant's does nothing: no chunk is found to be pending,
unless the store refuses to look. -/
lemma perform_embedRecord_of_foreign (svc : Service σ) {record : Id}
    (hforeign : ∀ r ∈ w.store.records, r.id = record → r.tenant ≠ tenant) :
    (Statement.listPending ∉ w.store.refused →
      perform (svc.embedRecord tenant record) w = (.ok .nothingPending, w)) ∧
    stateAfter (svc.embedRecord tenant record) w = w := by
  have hempty : w.store.pendingOf tenant record = [] := by
    refine List.eq_nil_iff_forall_not_mem.mpr fun c hc => ?_
    obtain ⟨-, -, -, r, hr, hid, hown, -⟩ := Store.mem_pendingOf hc
    exact hforeign r hr hid hown
  have hdone : Statement.listPending ∉ w.store.refused →
      perform (svc.embedRecord tenant record) w = (.ok .nothingPending, w) := by
    intro hlisted
    have hlist : perform (Store.listPending tenant record) w.store = (.ok [], w.store) :=
      Store.perform_reading_eq_ok.mpr ⟨hlisted, hempty, rfl⟩
    unfold Service.embedRecord
    rw [perform_bind_of_ok (perform_store_of_ok_same hlist)]
    rfl
  refine ⟨hdone, ?_⟩
  by_cases hlisted : Statement.listPending ∈ w.store.refused
  · rcases hlist : perform (Store.listPending tenant record) w.store with ⟨e | batch, t⟩
    · unfold Service.embedRecord
      rw [stateAfter_bind, perform_store_of_error hlist, Store.perform_reading_error hlist]
    · exact absurd hlisted (Store.perform_reading_eq_ok.mp hlist).1
  · exact stateAfter_eq (hdone hlisted)

/-- In every world that a service reaches from an empty store, an operation for a tenant, whether it
succeeds or fails, leaves the records, the chunks and the vectors of every other tenant as they are,
and what others find by their words, in whatever order these are gone through; and to embed a record
of another tenant finds nothing pending and does nothing, whatever the provider would do if it were
called. -/
theorem writes_isolated (hq : svc.Quiet) (hw : Reachable svc w) :
    (∀ (op : Operation) tenant, op.tenant? = some tenant → ∀ other, tenant ≠ other →
      w.store.Spares other (op.run svc w).store ∧
        ∀ ts, (op.run svc w).memory.lexical.search other ts = w.memory.lexical.search other ts) ∧
    ∀ r ∈ w.store.records, ∀ tenant, tenant ≠ r.tenant → ∀ embed,
      (Statement.listPending ∉ w.store.refused →
        perform ({ svc with embed }.embedRecord tenant r.id) w = (.ok .nothingPending, w)) ∧
      stateAfter ({ svc with embed }.embedRecord tenant r.id) w = w := by
  have hs := hw.sound hq
  refine ⟨?_, ?_⟩
  · intro op tenant hop other hne
    have hspares := (op.movesOf hq hop w).spares hs (hw.shows hq) hne
    exact ⟨hspares.store, hspares.search_eq⟩
  · intro r hr tenant hne embed
    refine perform_embedRecord_of_foreign _ ?_
    intro held hheld hid
    rw [hs.keyed.record_eq hheld hr hid]
    exact hne.symm

/-- Two tenants with notes about the same account: one of them replaces its note, and tries to embed
that of the other. -/
theorem writes_isolated_twoTenants :
    let svc := Service.standalone .small
    let w := Service.twoTenants
    let op := Operation.ingest (.sampleNote "acme" "Mail" "Renewal is signed.")
    svc.Quiet ∧ Reachable svc w ∧ op.tenant? = some "acme" ∧ "acme" ≠ "rival" ∧
      (w.store.recordsFor "rival").map (·.link?) = [some ⟨"account", "a1"⟩] ∧
      w.store.Spares "rival" (op.run svc w).store ∧
      (op.run svc w).memory.lexical.search "rival" (queryTerms "renewal") =
        w.memory.lexical.search "rival" (queryTerms "renewal") ∧
      ∃ r ∈ w.store.records, "acme" ≠ r.tenant ∧
        perform (svc.embedRecord "acme" r.id) w = (.ok .nothingPending, w) := by
  intro svc w op
  have hq : svc.Quiet := Service.quiet_standalone .small
  have hw : Reachable svc w := Service.reachable_standaloneAfter _
  obtain ⟨hops, hforeign⟩ := writes_isolated hq hw
  have hop : op.tenant? = some "acme" := rfl
  have hne : "acme" ≠ "rival" := by decide
  obtain ⟨hspares, hsearch⟩ := hops op "acme" hop "rival" hne
  have hrival : ∃ r ∈ w.store.records, r.tenant = "rival" := by decide +kernel
  obtain ⟨r, hr, htenant⟩ := hrival
  have hother : "acme" ≠ r.tenant := by rwa [htenant]
  have hlisted : Statement.listPending ∉ w.store.refused := by decide +kernel
  exact ⟨hq, hw, hop, hne, by decide +kernel, hspares, hsearch _, r, hr, hother,
    (hforeign r hr "acme" hother svc.embed).1 hlisted⟩

end Dossier
