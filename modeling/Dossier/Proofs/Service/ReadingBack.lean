import Dossier.Proofs.Service.Accounts
import Dossier.Proofs.Service.CatchingUp
import Dossier.Proofs.Service.Packing

/-!
# Vectors come back as they went in

A vector goes into the index of a process as it is, and into the store as a text.  The text reads
back as the vector, unless a component is a NaN (`Vec.parse_text`, `Vec.map_written`).  So whoever
reads the row of a vector, to load it, to take it over or to make the indexes anew, has the very
vector that the process which wrote it has in its own index.
-/

namespace Dossier

namespace Store

variable {s t : Store} {tenant version : String} {batch : List (StoredChunk × Vec)}
  {row : StoredVector} {x : Vec}

/-- A row of a vector of numbers reads as the vector. -/
lemma value_of_writes {chunk : Id} (h : row.Writes tenant chunk x)
    (hx : ∀ y ∈ x, y.isNaN = false) : StoredVector.value row = .ok x := by
  rw [StoredVector.value_eq_ok_iff, h.text, Vec.parse_text, Vec.map_written hx]

/-- Whoever reads a row has its vector: among the vectors that are loaded for its chunk, and in a
vector index of its dimension that takes over what was written since a smaller number or that is
made anew, whatever the index held before. -/
structure Returns (t : Store) (row : StoredVector) (x : Vec) : Prop where
  loaded : ∀ ids rows t', row.chunk ∈ ids → perform (loadVectors row.tenant ids) t = (.ok rows, t') →
    (rows.find? (·.1 == row.chunk)).map (·.2) = some x
  synced : ∀ {σ : Type} (u u' : World σ) n, u.store = t → u.memory.watermark < row.seq →
    x.length = u.memory.vectors.dimension → perform Service.sync u = (.ok n, u') →
      u'.memory.vectors.find? row.chunk = some x
  rebuilt : ∀ {σ : Type} (u u' : World σ) report, u.store = t →
    x.length = u.memory.vectors.dimension → perform Service.rebuild u = (.ok report, u') →
      u'.memory.vectors.find? row.chunk = some x

/-- A row of a live chunk under the tenant of its record returns its value. -/
theorem Constrained.returns (ht : t.Constrained) (hrow : row ∈ t.vectors)
    (hlive : t.isLiveVector row = true) (hvalue : StoredVector.value row = .ok x) :
    t.Returns row x where
  loaded := fun ids rows t' hid h =>
    (ht.find?_loadVectors h hid).mpr ⟨row, hrow, rfl, rfl, hvalue⟩
  synced := by
    rintro σ u u' n rfl hlate hlength h
    obtain ⟨rows, hrows, rfl⟩ := Service.sync_eq_ok h
    have hlisted : (row.seq, row.chunk, x) ∈ rows :=
      (mem_listedAfter_iff hrows).mpr ⟨row, hrow, hlate, hlive, hvalue, rfl, rfl⟩
    exact VectorIndex.find?_intake (ht.nodup_listedAfter hrows) hlisted (beq_iff_eq.mpr hlength)
  rebuilt := by
    rintro σ u u' report rfl hlength h
    obtain ⟨sources, rows, -, -, hrows, -, rfl⟩ := Service.rebuild_eq_ok h
    obtain ⟨ctx, hctx, hid, htenant⟩ := ht.isLiveVector_iff.mp hlive
    exact (Service.find?_rebuilt ht hrows row.chunk x).mpr
      ⟨ctx, hctx, hid, ⟨row, hrow, rfl, htenant.symm, hvalue⟩, hlength⟩

/-- Nothing but a refused statement keeps anyone from reading the vectors of a store. -/
structure Legible (t : Store) : Prop where
  loads : .readVectors ∉ t.refused → ∀ tenant ids, ∃ rows,
    perform (loadVectors tenant ids) t = (.ok rows, t)
  syncs : .listVectors ∉ t.refused → ∀ {σ : Type} (u : World σ), u.store = t → ∃ n u',
    perform Service.sync u = (.ok n, u')
  rebuilds : .listLive ∉ t.refused → .listVectors ∉ t.refused → ∀ {σ : Type} (u : World σ),
    u.store = t → ∃ report u', perform Service.rebuild u = (.ok report, u')

/-- The vectors of a keyed store can be read. -/
theorem Keyed.legible (ht : t.Keyed) : t.Legible where
  loads := fun hread tenant ids => ht.exists_loadVectors_eq_ok tenant hread ids
  syncs := by
    rintro hlisting σ u rfl
    obtain ⟨rows, hrows⟩ := ht.exists_listedAfter u.memory.watermark
    exact ⟨_, _, Service.perform_sync hlisting hrows⟩
  rebuilds := by
    rintro hlive hlisting σ u rfl
    obtain ⟨rows, hrows⟩ := ht.exists_listedAfter 0
    have hsources : perform listLiveChunks u.store = (.ok _, u.store) :=
      perform_reading_eq_ok.mpr ⟨hlive, rfl, rfl⟩
    obtain ⟨report, -, hrebuild⟩ := Service.perform_rebuild hsources hlisting hrows
    exact ⟨report, _, hrebuild⟩

end Store

namespace Service

variable {σ : Type} {svc : Service σ} {w w' : World σ} {tenant : String} {record : Id}
  {batch : List StoredChunk} {vs : List Vec}

/-- A commitment that succeeds: the vectors that count are in the store and in the index. -/
lemma commit_eq_ok {outcome : EmbedOutcome}
    (h : perform (svc.commit tenant record batch vs) w = (.ok outcome, w')) :
    ∃ written, written = Store.counted tenant svc.version w.store (batch.zip vs) ∧
      outcome = .embedded written.length (batch.length - written.length) ∧
      w'.store = w.store.committed tenant record svc.version w.now (batch.zip vs) ∧
      w'.memory.vectors = w.memory.vectors.putAll written := by
  unfold commit at h
  rw [perform_bind_of_ok (perform_get w)] at h
  obtain ⟨written, u, hstore, hrest⟩ := perform_bind_eq_ok.mp h
  obtain ⟨t, hwork, rfl⟩ := perform_store_eq_ok.mp hstore
  obtain ⟨hwritten, rfl⟩ := Store.commitBatch_eq_ok hwork
  rw [perform_bind_of_ok (perform_get _)] at hrest
  refine ⟨written, hwritten, ?_⟩
  rcases hupsert : w.memory.vectors.upsertAll written with mismatch | vectors
  · simp only [hupsert] at hrest
    cases hrest
  · simp only [hupsert] at hrest
    cases hrest
    exact ⟨rfl, rfl, VectorIndex.upsertAll_eq_ok hupsert⟩

/-- The text of a vector of numbers reads as the vector.  So of the vectors that a process commits,
each one that consists of numbers is in its index and in a row of the store, and as long as this row
is there whoever reads it has the very vector of the index; in a keyed store, as every service keeps
it, nothing but a refused statement keeps anyone from reading. -/
theorem stored_vectors_lossless :
    (∀ v : Vec, (∀ x ∈ v, x.isNaN = false) → Vec.parse v.text = .ok v) ∧
    ∀ {σ : Type} (svc : Service σ) (tenant : String) (record : Id) (batch : List StoredChunk)
      (vs : List Vec) (w w' : World σ) (outcome : EmbedOutcome),
      perform (svc.commit tenant record batch vs) w = (.ok outcome, w') →
      ∃ written, outcome = .embedded written.length (batch.length - written.length) ∧
        w'.memory.vectors = w.memory.vectors.putAll written ∧
        (w.store.Keyed → w.store.Knows tenant record batch → w'.store.Keyed) ∧
        ∀ entry ∈ written, (∀ x ∈ entry.2, x.isNaN = false) →
          w'.memory.vectors.find? entry.1 = some entry.2 ∧
          ∃ row ∈ w'.store.vectors, row.Writes tenant entry.1 entry.2 ∧
            ∀ t : Store, row ∈ t.vectors →
              (t.Constrained → t.isLiveVector row = true → t.Returns row entry.2) ∧
              (t.Keyed → t.Legible ∧ t.Returns row entry.2) := by
  refine ⟨fun v hv => ?_, ?_⟩
  · rw [Vec.parse_text, Vec.map_written hv]
  · intro σ svc tenant record batch vs w w' outcome h
    obtain ⟨written, hwritten, houtcome, hstore, hvectors⟩ := commit_eq_ok h
    refine ⟨written, houtcome, hvectors, fun hs hknows => ?_, fun entry hentry hnumbers => ?_⟩
    · have hpairs : (batch.zip vs).map (·.1) ⊆ batch := by
        intro c hc
        obtain ⟨⟨c', v⟩, hpair, rfl⟩ := List.mem_map.mp hc
        exact (List.of_mem_zip hpair).1
      rw [hstore]
      exact hs.committed (hknows.mono hpairs) svc.version w.now
    · have hnodup : (written.map (·.1)).Nodup := by
        rw [hwritten]
        exact Store.nodup_counted w.store tenant svc.version (batch.zip vs)
      rw [hvectors]
      refine ⟨VectorIndex.find?_putAll hnodup hentry, ?_⟩
      rw [hwritten] at hentry
      obtain ⟨row, hrow, hwrites⟩ := Store.exists_row_of_counted hentry
      have hvalue := Store.value_of_writes hwrites hnumbers
      rw [hstore, Store.vectors_committed]
      refine ⟨row, hrow, hwrites, fun t ht => ⟨fun htables hlive => ?_, fun hkeyed => ?_⟩⟩
      · exact htables.returns ht hlive hvalue
      · exact ⟨hkeyed.legible, hkeyed.constrained.returns ht (hkeyed.isLiveVector_of_mem ht) hvalue⟩

end Service

/-- A process that has just started, over a store with one chunk that is pending. -/
def World.awaiting : World Unit where
  store :=
    { records := [⟨⟨1⟩, "acme", ⟨"note", "Call", "", "", "", none, .null⟩, none, none, none, ⟨0⟩, ⟨0⟩,
        none⟩]
      chunks := [⟨⟨11⟩, ⟨1⟩, 0, 0, 3, "one", 1, .pending, none⟩] }
  memory := .fresh 2
  drawn := 0
  now := ⟨0⟩
  cancelled := false
  outside := ()

namespace Service

/-- The negative zero and the least positive number come back as they went in. -/
theorem stored_vectors_lossless_least :
    let least : Vec := [Binary.ofRank true 0, Binary.ofRank false 1]
    let batch := World.awaiting.store.chunks
    Vec.parse least.text = .ok least ∧
    ∃ outcome w', perform ((standalone .small).commit "acme" ⟨1⟩ batch [least]) World.awaiting =
        (.ok outcome, w') ∧
      w'.memory.vectors.find? ⟨11⟩ = some least ∧ w'.store.Legible ∧
      ∃ row ∈ w'.store.vectors, row.Writes "acme" ⟨11⟩ least ∧ w'.store.Returns row least := by
  intro least batch
  obtain ⟨htext, hcommit⟩ := stored_vectors_lossless
  have hnumbers : ∀ x ∈ least, x.isNaN = false := by decide +kernel
  have hs : World.awaiting.store.Keyed := by
    refine ⟨by decide, by decide, List.nodup_nil, ?_, by simp [World.awaiting],
      by simp [World.awaiting], by simp [World.awaiting]⟩
    simp [World.awaiting, Record.live]
  have hknows : World.awaiting.store.Knows "acme" ⟨1⟩ batch := by
    refine ⟨?_, ?_, ?_⟩ <;> simp [World.awaiting, batch]
  have hok : (perform ((standalone .small).commit "acme" ⟨1⟩ batch [least])
      World.awaiting).1.isOk = true := by decide +kernel
  have hentries : (perform ((standalone .small).commit "acme" ⟨1⟩ batch [least])
      World.awaiting).2.memory.vectors.entries = [(⟨11⟩, least)] := by decide +kernel
  refine ⟨htext least hnumbers, ?_⟩
  rcases hrun : perform ((standalone .small).commit "acme" ⟨1⟩ batch [least]) World.awaiting with
    ⟨e | outcome, w'⟩
  · rw [hrun] at hok
    cases hok
  · rw [hrun] at hentries
    obtain ⟨written, -, hvectors, hkeyed, hreads⟩ := hcommit _ _ _ _ _ _ _ _ hrun
    have hentry : ((⟨11⟩, least) : Id × Vec) ∈ written := by
      have hmem : ((⟨11⟩, least) : Id × Vec) ∈ w'.memory.vectors.entries := by
        rw [hentries]
        exact List.mem_cons_self
      rw [hvectors] at hmem
      exact (VectorIndex.of_mem_putAll hmem).resolve_left List.not_mem_nil
    obtain ⟨hfound, row, hrow, hwrites, hstores⟩ := hreads _ hentry hnumbers
    obtain ⟨hlegible, hreturns⟩ := (hstores w'.store hrow).2 (hkeyed hs hknows)
    exact ⟨outcome, w', rfl, hfound, hlegible, row, hrow, hwrites, hreturns⟩

end Service

end Dossier
