import Dossier.Event
import Dossier.Policy
import Dossier.Proofs.Config.Valid
import Dossier.Proofs.Id
import Dossier.Proofs.Json.Canonical

/-!
# Events that are written and read back

Many JSON values are read as one event: an object may have further fields and an array may stand for
it, what is missing may be null, and identifiers and labels have several spellings.  An event is
written in one way.  Whatever was read fits its written form (`KnowledgeIngested.fits_of_ofJson`,
`RecordChanged.fits_of_ofJson`): its identifier has 128 bits, its count 32, and the state that it
carries is stored and not null.  Exactly the events that fit are read back from what is written for
them (`KnowledgeIngested.ofJson_toJson_iff`, `RecordChanged.ofJson_toJson_iff`), and every principal
is (`Principal.ofJson_toJson`).
-/

namespace Dossier

/-! ### Fields -/

namespace Json

variable {α : Type} {read : Json → Option α} {j : Json}

/-- An identifier that is read has 128 bits. -/
lemma lt_of_asId {id : Id} (h : j.asId = some id) : id.number < twoTo 128 := by
  unfold asId at h
  split at h
  · exact Id.lt_of_parse h
  · cases h

/-- An identifier of 128 bits is read back. -/
lemma asId_text {id : Id} (h : id.number < twoTo 128) : asId (.str id.text) = some id := by
  simp only [asId]
  exact Id.parse_text h

/-- A number below its bound is read back. -/
lemma asNat_nat {bound n : Nat} (h : n < bound) : asNat bound (.nat n) = some n := by
  simp only [Json.nat, asNat]
  rw [if_pos ⟨Int.natCast_nonneg n, Int.ofNat_lt.mpr h⟩, Int.toNat_natCast]

/-- Strings are read back. -/
lemma asList_asString_map (items : List String) :
    asList asString (.arr (items.map .str)) = some items := by
  show (items.map Json.str).mapM asString = some items
  induction items with
  | nil => rfl
  | cons item rest ih =>
    rw [List.map_cons, List.mapM_cons, ih]
    rfl

namespace Slot

/-- What a field that has to be given is read as is read from a value. -/
lemma exists_of_required {slot : Slot} {a : α} (h : slot.required read = some a) :
    ∃ value, read value = some a := by
  cases slot with
  | given value => exact ⟨value, h⟩
  | unnamed => cases h
  | beyond => cases h

/-- A field that has to be given is read as its value is. -/
lemma required_given (read : Json → Option α) (value : Json) :
    (given value).required read = read value := rfl

/-- A field that may be null or missing is read as its value is, if this is not null. -/
lemma optional_given (read : Json → Option α) {value : Json} (h : value ≠ .null) :
    (given value).optional read = (read value).map some := by
  cases value with
  | null => exact absurd rfl h
  | bool _ | num _ | str _ | arr _ | obj _ => rfl

/-- What a field that may be null or missing is read as is read from a value that is not null. -/
lemma exists_of_optional {slot : Slot} {a : α} (h : slot.optional read = some (some a)) :
    ∃ value, value ≠ .null ∧ read value = some a := by
  cases slot with
  | given value =>
    have hne : value ≠ .null := by
      rintro rfl
      cases h
    rw [optional_given read hne] at h
    obtain ⟨a', ha', heq⟩ := Option.map_eq_some_iff.mp h
    exact ⟨value, hne, Option.some.inj heq ▸ ha'⟩
  | unnamed => cases h
  | beyond => cases h

end Slot

end Json

/-! ### Ingests -/

namespace KnowledgeIngested

variable {e : KnowledgeIngested} {j : Json}

/-- An event whose identifier has 128 bits and whose count has 32. -/
structure Fits (e : KnowledgeIngested) : Prop where
  record : e.record.number < twoTo 128
  count : e.chunkCount < twoTo 32

/-- An event that is read fits. -/
lemma fits_of_ofJson (h : ofJson j = some e) : e.Fits := by
  unfold ofJson at h
  obtain ⟨slots, -, h⟩ := Option.bind_eq_some_iff.mp h
  split at h
  · obtain ⟨record, hrecord, h⟩ := Option.bind_eq_some_iff.mp h
    obtain ⟨tenant, -, h⟩ := Option.bind_eq_some_iff.mp h
    obtain ⟨count, hcount, h⟩ := Option.bind_eq_some_iff.mp h
    cases h
    obtain ⟨value, hvalue⟩ := Json.Slot.exists_of_required hrecord
    obtain ⟨number, hnumber⟩ := Json.Slot.exists_of_required hcount
    exact ⟨Json.lt_of_asId hvalue, Json.lt_of_asNat hnumber⟩
  · cases h

/-- The fields of a written event. -/
lemma slots_toJson (e : KnowledgeIngested) :
    e.toJson.slots ["record_id", "tenant_id", "chunk_count"] =
      some [.given (.str e.record.text), .given (.str e.tenant), .given (.nat e.chunkCount)] := by
  simp [toJson, Json.slots, Json.slotOf]

/-- An event is read from its fields. -/
lemma ofJson_of_slots {record tenant count : Json.Slot}
    (h : j.slots ["record_id", "tenant_id", "chunk_count"] = some [record, tenant, count]) :
    ofJson j = do
      return {
        record := ← record.required Json.asId
        tenant := ← tenant.required Json.asString
        chunkCount := ← count.required (Json.asNat (twoTo 32)) } := by
  unfold ofJson
  rw [h]
  rfl

/-- Exactly the events that fit are read back. -/
theorem ofJson_toJson_iff : ofJson e.toJson = some e ↔ e.Fits := by
  refine ⟨fits_of_ofJson, fun h => ?_⟩
  rw [ofJson_of_slots e.slots_toJson, Json.Slot.required_given, Json.Slot.required_given,
    Json.Slot.required_given, Json.asId_text h.record, Json.asNat_nat h.count]
  rfl

end KnowledgeIngested

/-! ### Changes -/

/-- The change with a label is found by it. -/
lemma ChangeOp.ofLabel?_label (op : ChangeOp) : ChangeOp.ofLabel? op.label = some op := by
  cases op <;> decide

namespace RecordChanged

variable {e : RecordChanged} {j : Json}

/-- A change whose state, if it carries one, is in its stored form and is not null. -/
structure Fits (e : RecordChanged) : Prop where
  snapshot : ∀ state, e.snapshot = some state → state ≠ .null ∧ state.canonical = state

/-- A change that is read fits. -/
lemma fits_of_ofJson (h : ofJson j = some e) : e.Fits := by
  unfold ofJson at h
  obtain ⟨slots, -, h⟩ := Option.bind_eq_some_iff.mp h
  split at h
  · obtain ⟨tenant, -, h⟩ := Option.bind_eq_some_iff.mp h
    obtain ⟨kind, -, h⟩ := Option.bind_eq_some_iff.mp h
    obtain ⟨id, -, h⟩ := Option.bind_eq_some_iff.mp h
    obtain ⟨op, -, h⟩ := Option.bind_eq_some_iff.mp h
    obtain ⟨snapshot, hsnapshot, h⟩ := Option.bind_eq_some_iff.mp h
    obtain ⟨actor, -, h⟩ := Option.bind_eq_some_iff.mp h
    cases h
    refine ⟨fun state hstate => ?_⟩
    obtain rfl : snapshot = some state := hstate
    obtain ⟨value, hvalue, hread⟩ := Json.Slot.exists_of_optional hsnapshot
    cases hread
    exact ⟨Json.canonical_ne_null hvalue, Json.canonical_canonical value⟩
  · cases h

/-- The slot of a field that is there when it has a value. -/
def slotOf : Option Json → Json.Slot
  | some value => .given value
  | none => .unnamed

/-- The fields of a written change. -/
lemma slots_toJson (e : RecordChanged) :
    e.toJson.slots ["tenant_id", "entity_kind", "entity_id", "op", "snapshot", "actor"] =
      some [.given (.str e.tenant), .given (.str e.link.kind), .given (.str e.link.id),
        .given (.str e.op.label), slotOf e.snapshot, slotOf (e.actor.map .str)] := by
  rcases e with ⟨tenant, link, op, _ | snapshot, _ | actor⟩ <;>
    simp [toJson, fieldOf, slotOf, Json.slots, Json.slotOf]

/-- A change is read from its fields. -/
lemma ofJson_of_slots {tenant kind id op snapshot actor : Json.Slot}
    (h : j.slots ["tenant_id", "entity_kind", "entity_id", "op", "snapshot", "actor"] =
      some [tenant, kind, id, op, snapshot, actor]) :
    ofJson j = do
      return {
        tenant := ← tenant.required Json.asString
        link := ⟨← kind.required Json.asString, ← id.required Json.asString⟩
        op := ← op.required (Json.asLabel ChangeOp.ofLabel?)
        snapshot := ← snapshot.optional Json.asValue
        actor := ← actor.optional Json.asString } := by
  unfold ofJson
  rw [h]
  rfl

/-- Exactly the changes that fit are read back. -/
theorem ofJson_toJson_iff : ofJson e.toJson = some e ↔ e.Fits := by
  refine ⟨fits_of_ofJson, fun h => ?_⟩
  have hop : Json.asLabel ChangeOp.ofLabel? (.str e.op.label) = some e.op := e.op.ofLabel?_label
  have hsnapshot : (slotOf e.snapshot).optional Json.asValue = some e.snapshot := by
    rcases hstate : e.snapshot with _ | state
    · rfl
    · obtain ⟨hne, hstored⟩ := h.snapshot state hstate
      show (Json.Slot.given state).optional Json.asValue = _
      rw [Json.Slot.optional_given _ hne, Json.asValue, hstored]
      rfl
  have hactor : (slotOf (e.actor.map .str)).optional Json.asString = some e.actor := by
    rcases e.actor with _ | actor <;> rfl
  rw [ofJson_of_slots e.slots_toJson, hsnapshot, hactor, Json.Slot.required_given,
    Json.Slot.required_given, Json.Slot.required_given, Json.Slot.required_given, hop]
  rfl

end RecordChanged

/-! ### Principals -/

namespace Principal

/-- The fields of a written principal. -/
lemma slots_toJson (p : Principal) : p.toJson.slots ["tenant_id", "user_id", "roles"] =
    some [.given (.str p.tenant), .given (.str p.user), .given (.arr (p.roles.map .str))] := by
  simp [toJson, Json.slots, Json.slotOf]

/-- A principal is read from its fields. -/
lemma ofJson_of_slots {j : Json} {tenant user roles : Json.Slot}
    (h : j.slots ["tenant_id", "user_id", "roles"] = some [tenant, user, roles]) :
    ofJson j = do
      return {
        tenant := ← tenant.required Json.asString
        user := ← user.required Json.asString
        roles := ← roles.orElse (Json.asList Json.asString) [] } := by
  unfold ofJson
  rw [h]
  rfl

/-- Every principal is read back. -/
theorem ofJson_toJson (p : Principal) : ofJson p.toJson = some p := by
  have hroles : (Json.Slot.given (.arr (p.roles.map .str))).orElse
      (Json.asList Json.asString) [] = some p.roles := Json.asList_asString_map p.roles
  rw [ofJson_of_slots p.slots_toJson, hroles]
  rfl

end Principal

end Dossier
