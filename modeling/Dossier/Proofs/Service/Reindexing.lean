import Dossier.Proofs.Service.Reachable

/-!
# Reindexing a tenant

The linked records of a tenant are read a page after the other, each page behind the last record of
the page before, until a page is not full.  `Store.Pages` is this loop without any bound.  As no two
records have the same identifier, a page behind a record is what is left of the whole listing behind
it (`Store.filter_behind`), so the pages together are the listing, and one more page is read than
full ones (`Store.pages_behind`).  Every record of the listing is asked for once
(`reindex_visits_each`).
-/

namespace Dossier

variable {σ : Type}

/-! ### Publishing several payloads -/

/-- The bus once some payloads have been published on a topic, one after the other. -/
def Bus.publishAll (bus : Bus) (topic : Topic) (payloads : List Json) : Bus :=
  payloads.foldl (fun bus payload => (bus.publish topic payload).1) bus

/-- The world once some payloads have been published on a topic, with all else as it was. -/
def World.afterPublishing (w : World σ) (topic : Topic) (payloads : List Json) : World σ :=
  { w with memory := { w.memory with bus := w.memory.bus.publishAll topic payloads } }

/-- Payloads may be published in two parts. -/
lemma World.afterPublishing_append (w : World σ) (topic : Topic) (first rest : List Json) :
    (w.afterPublishing topic first).afterPublishing topic rest =
      w.afterPublishing topic (first ++ rest) := by
  unfold afterPublishing Bus.publishAll
  dsimp only
  rw [List.foldl_append]

/-! ### Which records are asked for -/

/-- A record that is asked for: a live one of the tenant that is linked to an entity, of the kind
that is named if one is. -/
def ReindexRequest.Selects (req : ReindexRequest) (r : Record) : Prop :=
  r.live ∧ r.tenant = req.tenant ∧
    ∃ link, r.link? = some link ∧ ∀ kind, req.entityKind = some kind → link.kind = kind

/-- The event that asks for a record: its entity was updated, no state of it is told, and whoever
made the request is the actor. -/
def ReindexRequest.Asks (req : ReindexRequest) (r : Record) (e : RecordChanged) : Prop :=
  ∃ link, r.link? = some link ∧ e = ⟨r.tenant, link, .updated, none, req.actor⟩

namespace Store

variable {s : Store} {req : ReindexRequest} {size : Nat}

/-- A record belongs to the listing of a request when the request selects it. -/
lemma isLinkedOf_iff {r : Record} : isLinkedOf req.tenant req.entityKind r ↔ req.Selects r := by
  unfold isLinkedOf ReindexRequest.Selects
  rw [Bool.and_eq_true, Bool.and_eq_true, beq_iff_eq, and_assoc]
  rcases r.link? with _ | link
  · simp
  · have hkind : req.entityKind.all (· == link.kind) = true ↔
        ∀ kind, req.entityKind = some kind → link.kind = kind := by
      rcases req.entityKind with _ | kind
      · simp
      · rw [Option.all_some, beq_iff_eq]
        constructor
        · rintro rfl kind' hkind'
          exact Option.some.inj hkind'
        · intro h
          exact (h kind rfl).symm
    simp only [hkind, Option.some.injEq, exists_eq_left']

/-- The listing of a request: the records that it selects, by their identifiers. -/
def linkedOf (s : Store) (req : ReindexRequest) : List Record :=
  byId (s.records.filter (isLinkedOf req.tenant req.entityKind))

/-- The page of a listing behind an identifier. -/
def linkedPage (s : Store) (req : ReindexRequest) (size : Nat) (after : Option Id) : List Record :=
  (byId (s.records.filter fun r => isLinkedOf req.tenant req.entityKind r &&
    after.all fun id => id.number < r.id.number)).take size

/-- The pages that are read, each behind the last record of the one before: the last of them is the
first that is not full. -/
inductive Pages (s : Store) (req : ReindexRequest) (size : Nat) :
    Option Id → List (List Record) → Prop
  | last {after : Option Id} (hpart : (s.linkedPage req size after).length ≠ size) :
      Pages s req size after [s.linkedPage req size after]
  | next {after : Option Id} {r : Record} {rest : List (List Record)}
      (hfull : (s.linkedPage req size after).length = size)
      (hlast : (s.linkedPage req size after).getLast? = some r)
      (hrest : Pages s req size (some r.id) rest) :
      Pages s req size after (s.linkedPage req size after :: rest)

/-! ### Listings in order -/

/-- Records in the order of their identifiers, each of which names one of them. -/
def Ascending (records : List Record) : Prop :=
  records.Pairwise fun r r' => r.id.number < r'.id.number

/-- Records with identifiers of their own are put in order. -/
lemma ascending_byId {records : List Record} (hkeys : (records.map (·.id)).Nodup) :
    Ascending (byId records) := by
  have hsorted : (byId records).Pairwise fun r r' => decide (r.id.number ≤ r'.id.number) := by
    refine List.pairwise_mergeSort ?_ ?_ records
    · intro a b c hab hbc
      rw [decide_eq_true_eq] at hab hbc ⊢
      exact Nat.le_trans hab hbc
    · intro a b
      rw [Bool.or_eq_true, decide_eq_true_eq, decide_eq_true_eq]
      exact Nat.le_total _ _
  have hnodup : ((byId records).map (·.id)).Nodup :=
    ((List.mergeSort_perm records _).map _).nodup_iff.mpr hkeys
  refine (hsorted.and (List.pairwise_map.mp hnodup)).imp fun {r r'} h => ?_
  refine Nat.lt_of_le_of_ne (of_decide_eq_true h.1) fun heq => h.2 ?_
  rcases hr : r.id with ⟨m⟩
  rcases hr' : r'.id with ⟨n⟩
  rw [hr, hr'] at heq
  exact congrArg Id.mk heq

/-- Records in order are determined by which they are. -/
lemma Ascending.eq_of_perm {l l' : List Record} (h : Ascending l) (h' : Ascending l')
    (hperm : l.Perm l') : l = l' := by
  refine hperm.eq_of_pairwise ?_ h h'
  intro a b _ _ hab hba
  exact absurd hab (Nat.lt_asymm hba)

/-- Part of some records in order is in order, and it does not matter whether it is taken before or
after they are put in order. -/
lemma byId_filter {records : List Record} (hkeys : (records.map (·.id)).Nodup)
    (which : Record → Bool) : byId (records.filter which) = (byId records).filter which := by
  refine (ascending_byId (hkeys.sublist (List.filter_sublist.map _))).eq_of_perm
    ((ascending_byId hkeys).filter _) ?_
  exact (List.mergeSort_perm _ _).trans ((List.mergeSort_perm records _).symm.filter which)

/-- Of records in order those behind the last of a first part are the rest. -/
lemma filter_behind {before rest : List Record} (h : Ascending (before ++ rest)) :
    (before ++ rest).filter (fun r => (before.getLast?.map (·.id)).all fun id =>
      id.number < r.id.number) = rest := by
  obtain ⟨hbefore, -, hacross⟩ := List.pairwise_append.mp h
  rcases List.eq_nil_or_concat before with rfl | ⟨init, last, rfl⟩
  · simp
  · rw [List.concat_eq_append, List.getLast?_concat, List.filter_append]
    simp only [Option.map_some, Option.all_some]
    have hnone : (init ++ [last]).filter (fun r => decide (last.id.number < r.id.number)) = [] := by
      rw [List.filter_eq_nil_iff]
      intro r hr hlt
      rw [decide_eq_true_eq] at hlt
      rcases List.mem_append.mp hr with hinit | hlast
      · rw [List.concat_eq_append] at hbefore
        have hle := (List.pairwise_append.mp hbefore).2.2 r hinit last (List.mem_singleton_self _)
        exact Nat.lt_asymm hlt hle
      · rw [List.mem_singleton.mp hlast] at hlt
        exact Nat.lt_irrefl _ hlt
    have hall : rest.filter (fun r => decide (last.id.number < r.id.number)) = rest := by
      rw [List.filter_eq_self]
      intro r hr
      rw [decide_eq_true_eq]
      exact hacross last (by simp) r hr
    rw [hnone, hall, List.nil_append]

/-- A listing is of the records that the request selects. -/
lemma mem_linkedOf {r : Record} : r ∈ s.linkedOf req ↔ r ∈ s.records ∧ req.Selects r := by
  unfold linkedOf byId
  rw [List.mem_mergeSort, List.mem_filter, isLinkedOf_iff]

/-- There are no more records in a listing than in the store. -/
lemma length_linkedOf_le (s : Store) (req : ReindexRequest) :
    (s.linkedOf req).length ≤ s.records.length := by
  unfold linkedOf byId
  rw [List.length_mergeSort]
  exact List.length_filter_le _ _

/-- The listing of a request is in order. -/
lemma ascending_linkedOf (hkeys : (s.records.map (·.id)).Nodup) : Ascending (s.linkedOf req) :=
  ascending_byId (hkeys.sublist (List.filter_sublist.map _))

/-- The page behind the last of the first records of a listing is the beginning of the others. -/
lemma linkedPage_behind (hkeys : (s.records.map (·.id)).Nodup) {before rest : List Record}
    (hlisting : s.linkedOf req = before ++ rest) :
    s.linkedPage req size (before.getLast?.map (·.id)) = rest.take size := by
  have hordered : Ascending (s.linkedOf req) := ascending_linkedOf hkeys
  rw [hlisting] at hordered
  have hbehind := filter_behind hordered
  rw [← hlisting] at hbehind
  unfold linkedOf at hbehind
  rw [← byId_filter (hkeys.sublist (List.filter_sublist.map _)), List.filter_filter] at hbehind
  unfold linkedPage
  rw [← hbehind]
  simp only [Bool.and_comm]

/-- Behind the first records of a listing the others are read, with one more page than full ones. -/
lemma pages_behind (hkeys : (s.records.map (·.id)).Nodup) (hsize : 0 < size)
    {before rest : List Record} (hlisting : s.linkedOf req = before ++ rest) :
    ∃ pages, s.Pages req size (before.getLast?.map (·.id)) pages ∧ pages.flatten = rest ∧
      pages.length = rest.length / size + 1 := by
  induction hn : rest.length using Nat.strongRecOn generalizing before rest with
  | ind n ih =>
    have hpage : s.linkedPage req size (before.getLast?.map (·.id)) = rest.take size :=
      linkedPage_behind hkeys hlisting
    by_cases hfew : n < size
    · have hshort : (s.linkedPage req size (before.getLast?.map (·.id))).length ≠ size := by
        rw [hpage, List.length_take]
        omega
      refine ⟨_, .last hshort, ?_, ?_⟩
      · rw [hpage, List.flatten_singleton, List.take_of_length_le (by omega)]
      · rw [Nat.div_eq_of_lt hfew, List.length_singleton]
    · have hfull : (rest.take size).length = size := by
        rw [List.length_take]
        omega
      have hsome : rest.take size ≠ [] := List.length_pos_iff.mp (by omega)
      have hsplit : s.linkedOf req = (before ++ rest.take size) ++ rest.drop size := by
        rw [List.append_assoc, List.take_append_drop, hlisting]
      have hlast : (before ++ rest.take size).getLast? =
          some ((rest.take size).getLast hsome) := by
        rw [List.getLast?_append, List.getLast?_eq_some_getLast hsome, Option.some_or]
      obtain ⟨pages, hpages, hflat, hlength⟩ :=
        ih (rest.drop size).length (by rw [List.length_drop]; omega) hsplit rfl
      rw [hlast, Option.map_some] at hpages
      refine ⟨_, .next (by rw [hpage, hfull]) ?_ hpages, ?_, ?_⟩
      · rw [hpage]
        exact List.getLast?_eq_some_getLast hsome
      · rw [List.flatten_cons, hflat, hpage, List.take_append_drop]
      · rw [List.length_cons, hlength, List.length_drop, hn]
        rw [Nat.div_eq_sub_div hsize (by omega : size ≤ n)]

end Store

namespace Service

variable {w : World σ} {req : ReindexRequest} {size : Nat}

/-! ### Asking for records -/

/-- The payloads that ask for some records. -/
def refreshPayloads (req : ReindexRequest) (records : List Record) : List Json :=
  records.filterMap fun r => r.link?.map fun link =>
    (RecordChanged.refreshing r.tenant link req.actor).toJson

/-- The payloads that ask for some records and for others are those for all of them. -/
lemma refreshPayloads_append (req : ReindexRequest) (first rest : List Record) :
    refreshPayloads req (first ++ rest) = refreshPayloads req first ++ refreshPayloads req rest :=
  List.filterMap_append

/-- Asking for a record publishes what asks for it. -/
lemma perform_publishRefresh (w : World σ) (r : Record) :
    perform (publishRefresh req.actor r) w =
      (.ok (), w.afterPublishing .changed (refreshPayloads req [r])) := by
  unfold publishRefresh refreshPayloads
  rw [List.filterMap_cons]
  rcases r.link? with _ | link <;> rfl

/-- Asking for the records of a page publishes what asks for them. -/
lemma perform_publishRefreshes (w : World σ) (page : List Record) :
    perform (page.forM (publishRefresh req.actor)) w =
      (.ok (), w.afterPublishing .changed (refreshPayloads req page)) := by
  induction page generalizing w with
  | nil => rfl
  | cons r rest ih =>
    change perform (publishRefresh req.actor r >>= fun _ => rest.forM (publishRefresh req.actor)) w
      = _
    rw [perform_bind_of_ok (perform_publishRefresh w r), ih, World.afterPublishing_append,
      ← refreshPayloads_append, List.singleton_append]

/-- Reading pages one behind the other publishes what asks for their records and counts these, if no
more pages are to be read than may be. -/
lemma perform_queuePages {after : Option Id} {pages : List (List Record)}
    (h : w.store.Pages req size after pages) (hread : .listLinked ∉ w.store.refused) {bound : Nat}
    (hbound : pages.length ≤ bound) (queued : Nat) :
    perform (queuePages req size bound after queued) w =
      (.ok (queued + pages.flatten.length),
        w.afterPublishing .changed (refreshPayloads req pages.flatten)) := by
  have hlist : ∀ (u : World σ) (after : Option Id), u.store = w.store →
      perform (Action.store (Store.listLinked req.tenant req.entityKind after size)) u =
        (.ok (w.store.linkedPage req size after), u) := by
    intro u after hu
    refine perform_store_of_ok_same (Store.perform_reading_eq_ok.mpr ⟨?_, ?_, rfl⟩)
    · rwa [hu]
    · rw [hu]
      rfl
  -- The store stays as it is while the bus changes, so the world is generalized in the induction.
  suffices hall : ∀ u : World σ, u.store = w.store →
      perform (queuePages req size bound after queued) u =
        (.ok (queued + pages.flatten.length),
          u.afterPublishing .changed (refreshPayloads req pages.flatten)) from hall w rfl
  clear hread
  induction h generalizing bound queued with
  | @last after hpart =>
    intro u hu
    obtain ⟨bound, rfl⟩ : ∃ n, bound = n + 1 := ⟨bound - 1, by simp at hbound; omega⟩
    unfold queuePages
    rw [perform_bind_of_ok (hlist u after hu), perform_bind_of_ok (perform_publishRefreshes u _),
      List.flatten_singleton]
    dsimp only
    split
    · rw [if_neg hpart]
      rfl
    · rfl
  | @next after r rest hfull hlast hrest ih =>
    intro u hu
    obtain ⟨bound, rfl⟩ : ∃ n, bound = n + 1 := ⟨bound - 1, by simp at hbound; omega⟩
    have hrestBound : rest.length ≤ bound := by
      rw [List.length_cons] at hbound
      omega
    unfold queuePages
    rw [perform_bind_of_ok (hlist u after hu), perform_bind_of_ok (perform_publishRefreshes u _),
      hlast]
    dsimp only
    have hu' : (u.afterPublishing .changed
        (refreshPayloads req (w.store.linkedPage req size after))).store = w.store := hu
    rw [if_pos hfull, ih hrestBound _ _ hu', World.afterPublishing_append, List.flatten_cons,
      List.length_append, refreshPayloads_append, Nat.add_assoc]

/-- The payloads that ask for the records of a listing are those of one event for each of them. -/
lemma exists_asking {records : List Record} (h : ∀ r ∈ records, req.Selects r) :
    ∃ events, List.Forall₂ req.Asks records events ∧
      refreshPayloads req records = events.map RecordChanged.toJson := by
  induction records with
  | nil => exact ⟨[], .nil, rfl⟩
  | cons r rest ih =>
    obtain ⟨events, hasks, hpayloads⟩ := ih fun r' hr' => h r' (List.mem_cons_of_mem _ hr')
    obtain ⟨-, -, link, hlink, -⟩ := h r List.mem_cons_self
    refine ⟨⟨r.tenant, link, .updated, none, req.actor⟩ :: events,
      .cons ⟨link, hlink, rfl⟩ hasks, ?_⟩
    unfold refreshPayloads at hpayloads ⊢
    rw [List.filterMap_cons, hlink, List.map_cons, ← hpayloads]
    rfl

/-- How many records a page has when a tenant is reindexed. -/
def listingSize (svc : Service σ) : Nat := max svc.config.reindex.batchSize 1

end Service

/-- In every store in which no two records have the same identifier and linked records can be
listed, for every request and every size of a page: a blank tenant is an invalid request, and
nothing happens.  For any other tenant the pages come to an end, one behind the full ones; together
they are the live linked records of the tenant that the request selects, each once, by their
identifiers; for each of them one event is published in this order, and their number is returned.  A
greater bound on the number of pages changes nothing. -/
theorem reindex_visits_each {svc : Service σ} {w : World σ} (req : ReindexRequest)
    (hkeys : (w.store.records.map (·.id)).Nodup) (hread : .listLinked ∉ w.store.refused) :
    ((∀ c ∈ req.tenant.toList, Unicode.isBlank c) →
      perform (svc.queueReindex req) w = (.error (.invalidRequest .blankTenant), w)) ∧
    ((∃ c ∈ req.tenant.toList, Unicode.isBlank c = false) → ∃ visited pages events,
      (visited.Pairwise fun r r' : Record => r.id.number < r'.id.number) ∧
      (∀ r, r ∈ visited ↔ r ∈ w.store.records ∧ req.Selects r) ∧
      w.store.Pages req svc.listingSize none pages ∧ pages.flatten = visited ∧
      pages.length = visited.length / svc.listingSize + 1 ∧
      List.Forall₂ req.Asks visited events ∧
      perform (svc.queueReindex req) w = (.ok visited.length,
        w.afterPublishing .changed (events.map RecordChanged.toJson)) ∧
      ∀ bound, w.store.records.length < bound →
        perform (Service.queuePages req svc.listingSize bound none 0) w =
          perform (svc.queueReindex req) w) := by
  refine ⟨?_, ?_⟩
  · intro hblank
    have htenant : Text.isBlankText req.tenant = true := List.all_eq_true.mpr hblank
    unfold Service.queueReindex
    rw [if_pos htenant]
    rfl
  · rintro ⟨c, hc, hplain⟩
    have htenant : ¬ Text.isBlankText req.tenant = true := by
      intro hblank
      rw [List.all_eq_true.mp hblank c hc] at hplain
      cases hplain
    have hsize : 0 < svc.listingSize := Nat.lt_of_lt_of_le Nat.one_pos (Nat.le_max_right _ _)
    obtain ⟨pages, hpages, hflat, hlength⟩ : ∃ pages, w.store.Pages req svc.listingSize none pages ∧
        pages.flatten = w.store.linkedOf req ∧
        pages.length = (w.store.linkedOf req).length / svc.listingSize + 1 :=
      Store.pages_behind hkeys hsize (List.nil_append _).symm
    obtain ⟨events, hasks, hpayloads⟩ := Service.exists_asking fun r hr => (Store.mem_linkedOf.mp hr).2
    -- A full page has one record at least, so there are not more of them than records.
    have hfew : pages.length ≤ w.store.records.length + 1 := by
      rw [hlength]
      exact Nat.succ_le_succ (Nat.le_trans (Nat.div_le_self _ _) (w.store.length_linkedOf_le req))
    have hqueued : ∀ bound, w.store.records.length < bound →
        perform (Service.queuePages req svc.listingSize bound none 0) w =
          (.ok (w.store.linkedOf req).length,
            w.afterPublishing .changed (events.map RecordChanged.toJson)) := by
      intro bound hbound
      rw [Service.perform_queuePages hpages hread (Nat.le_trans hfew hbound), hflat, hpayloads,
        Nat.zero_add]
    have hreindex : perform (svc.queueReindex req) w = (.ok (w.store.linkedOf req).length,
        w.afterPublishing .changed (events.map RecordChanged.toJson)) := by
      unfold Service.queueReindex
      rw [if_neg htenant, perform_bind_of_ok (perform_get w)]
      exact hqueued _ (Nat.lt_succ_self _)
    refine ⟨w.store.linkedOf req, pages, events, Store.ascending_linkedOf hkeys,
      fun _ => Store.mem_linkedOf, hpages, hflat, hlength, hasks, hreindex, ?_⟩
    intro bound hbound
    rw [hreindex]
    exact hqueued bound hbound

/-- A configuration that differs from `Config.small` in that a page is to have no record, which
counts as one. -/
def Config.oneByOne : Config := { Config.small with reindex := ⟨0⟩ }

/-- A service on its own that has kept notes about two accounts and one about nothing. -/
def Service.linkedNotes : World Unit :=
  let note := IngestRequest.sampleNote "acme" "Call" "Renewal is due."
  [Operation.ingest note, .ingest { note with entity := some ⟨"account", "a2"⟩ },
    .ingest { note with entity := none }].foldl (Operation.run (standalone .oneByOne))
      (.start (standalone .oneByOne) ⟨0⟩ ())

/-- Two linked records are a multiple of the size of a page: a third page is read, which is
empty. -/
theorem reindex_visits_each_linkedNotes :
    let svc := Service.standalone .oneByOne
    let w := Service.linkedNotes
    let req : ReindexRequest := ⟨"acme", some "account", some "admin"⟩
    (w.store.records.map (·.id)).Nodup ∧ .listLinked ∉ w.store.refused ∧
      ∃ visited pages events, visited.length = 2 ∧ pages.length = 3 ∧
        w.store.Pages req svc.listingSize none pages ∧ pages.flatten = visited ∧
        List.Forall₂ req.Asks visited events ∧
        perform (svc.queueReindex req) w = (.ok visited.length,
          w.afterPublishing .changed (events.map RecordChanged.toJson)) := by
  intro svc w req
  have hkeys : (w.store.records.map (·.id)).Nodup := by decide +kernel
  have hread : .listLinked ∉ w.store.refused := by decide +kernel
  have htenant : ∃ c ∈ req.tenant.toList, Unicode.isBlank c = false := ⟨'a', by decide, by decide⟩
  obtain ⟨visited, pages, events, hascending, hmem, hpages, hflat, hlength, hasks, hreindex, -⟩ :=
    (@reindex_visits_each Unit svc w req hkeys hread).2 htenant
  have htwo : visited.length = 2 := by
    have hnodup : visited.Nodup := hascending.imp fun h heq => by
      rw [heq] at h
      exact Nat.lt_irrefl _ h
    have hperm : visited.Perm
        (w.store.records.filter (Store.isLinkedOf req.tenant req.entityKind)) := by
      refine (List.perm_ext_iff_of_nodup hnodup ((List.Nodup.of_map _ hkeys).filter _)).mpr ?_
      intro r
      rw [hmem, List.mem_filter, Store.isLinkedOf_iff]
    exact hperm.length_eq.trans (by decide +kernel)
  have hone : svc.listingSize = 1 := by decide +kernel
  refine ⟨hkeys, hread, visited, pages, events, htwo, ?_, hpages, hflat, hasks, hreindex⟩
  rw [hlength, htwo, hone]

end Dossier
