import Dossier.Proofs.Service.Watermark
import Dossier.Proofs.Store.Lookup

/-!
# Listings of live vectors

Whatever a store holds besides, as long as its tables are as they must be the vectors that a listing
has are those of live chunks under the tenants of their records, one for each chunk at most, and
from the beginning all of them.
-/

namespace Dossier.Store

variable {s : Store} {v v' : StoredVector} {seq : Nat} {rows : List ListedVector}

/-! ### Live vectors -/

/-- A chunk with its record is found by way of the chunk. -/
lemma context?_eq_some_iff {c : StoredChunk} {ctx : ChunkContext} :
    s.context? c = some ctx ↔
      ctx.chunk = c ∧ s.record? c.record = some ctx.record ∧ ctx.record.live := by
  unfold context?
  constructor
  · intro h
    split at h
    · rename_i r hr
      split at h
      · rename_i hlive
        cases h
        exact ⟨rfl, hr, hlive⟩
      · cases h
    · cases h
  · rintro ⟨rfl, hr, hlive⟩
    rw [hr]
    exact if_pos hlive

/-- The vectors of live chunks under the tenants of their records. -/
def ownedVectors (s : Store) : List StoredVector :=
  s.vectors.filter fun v =>
    s.liveChunks.any fun ctx => ctx.chunk.id == v.chunk && ctx.record.tenant == v.tenant

namespace Constrained

/-- The live chunks are in the order of the chunks, each once. -/
lemma nodup_liveChunks (hs : s.Constrained) : (s.liveChunks.map (·.chunk.id)).Nodup := by
  refine nodup_map_filterMap hs.chunks fun c ctx hctx => ?_
  rw [(context?_eq_some_iff.mp hctx).1]

/-- Live chunks with one name are one. -/
lemma liveChunk_eq (hs : s.Constrained) {ctx ctx' : ChunkContext} (h : ctx ∈ s.liveChunks)
    (h' : ctx' ∈ s.liveChunks) (hid : ctx.chunk.id = ctx'.chunk.id) : ctx = ctx' :=
  List.inj_on_of_nodup_map hs.nodup_liveChunks h h' hid

/-- A vector is listed if it belongs to a live chunk under the tenant of its record. -/
lemma isLiveVector_iff (hs : s.Constrained) : s.isLiveVector v = true ↔
    ∃ ctx ∈ s.liveChunks, ctx.chunk.id = v.chunk ∧ ctx.record.tenant = v.tenant := by
  unfold isLiveVector
  constructor
  · intro h
    split at h
    · rename_i ctx hctx
      obtain ⟨c, hc, hcontext⟩ := Option.bind_eq_some_iff.mp hctx
      obtain ⟨rfl, hrecord, hlive⟩ := context?_eq_some_iff.mp hcontext
      refine ⟨ctx, mem_liveChunks.mpr ⟨List.mem_of_find?_eq_some hc, hrecord, hlive⟩, ?_, ?_⟩
      · have hid := List.find?_some hc
        exact beq_iff_eq.mp hid
      · exact beq_iff_eq.mp h
    · cases h
  · rintro ⟨ctx, hctx, hid, htenant⟩
    obtain ⟨hc, hrecord, hlive⟩ := mem_liveChunks.mp hctx
    have hfound : s.chunk? v.chunk = some ctx.chunk :=
      find?_eq_some_of_unique hc (beq_iff_eq.mpr hid) fun other hother hwhich =>
        List.inj_on_of_nodup_map hs.chunks hother hc ((beq_iff_eq.mp hwhich).trans hid.symm)
    have hcontext : s.context? ctx.chunk = some ctx :=
      context?_eq_some_iff.mpr ⟨rfl, hrecord, hlive⟩
    rw [hfound, Option.bind_some, hcontext]
    exact beq_iff_eq.mpr htenant

/-! ### Listings -/

/-- Listed vectors of one chunk are one, since both have the tenant of its record. -/
lemma vector_eq (hs : s.Constrained) (hv : v ∈ s.vectors) (hv' : v' ∈ s.vectors)
    (hlive : s.isLiveVector v = true) (hlive' : s.isLiveVector v' = true)
    (hchunk : v.chunk = v'.chunk) : v = v' := by
  obtain ⟨ctx, hctx, hid, htenant⟩ := hs.isLiveVector_iff.mp hlive
  obtain ⟨ctx', hctx', hid', htenant'⟩ := hs.isLiveVector_iff.mp hlive'
  obtain rfl := hs.liveChunk_eq hctx hctx' (hid.trans (hchunk.trans hid'.symm))
  refine List.inj_on_of_nodup_map hs.vectors hv hv' ?_
  rw [hchunk, ← htenant, ← htenant']

/-- A listing names a chunk once. -/
lemma nodup_listedAfter (hs : s.Constrained) (h : s.listedAfter seq = .ok rows) :
    (rows.map (·.2.1)).Nodup := by
  unfold listedAfter at h
  rw [map_eq_of_mapM_eq_ok h fun v row hrow => (listed_eq_ok hrow).2.2.symm]
  refine List.Nodup.map_on ?_ ((List.Nodup.of_map _ hs.vectors).filter _)
  intro v hv v' hv' hchunk
  obtain ⟨hmem, hlisted⟩ := List.mem_filter.mp hv
  obtain ⟨hmem', hlisted'⟩ := List.mem_filter.mp hv'
  rw [Bool.and_eq_true] at hlisted hlisted'
  exact hs.vector_eq hmem hmem' hlisted.2 hlisted'.2 hchunk

/-- A listing from the beginning has all vectors of live chunks under the tenants of their
records. -/
lemma length_listedAfter (hs : s.Constrained) (h : s.listedAfter 0 = .ok rows) :
    rows.length = s.ownedVectors.length := by
  have hsame : s.ownedVectors = s.vectors.filter fun v => 0 < v.seq && isLiveVector s v := by
    refine List.filter_congr fun v hv => ?_
    rw [Bool.eq_iff_iff, Bool.and_eq_true, decide_eq_true_eq, hs.isLiveVector_iff, List.any_eq_true]
    simp only [Bool.and_eq_true, beq_iff_eq]
    exact (and_iff_right (hs.numbered v hv)).symm
  unfold listedAfter at h
  have hnames := map_eq_of_mapM_eq_ok h fun v row hrow => (listed_eq_ok hrow).2.2.symm
  have hlength := congrArg List.length hnames
  rw [List.length_map, List.length_map] at hlength
  rw [hlength, hsame]

end Constrained

end Dossier.Store
