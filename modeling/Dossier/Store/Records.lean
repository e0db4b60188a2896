import Dossier.Store.Statement

/-!
# Records in the store

An identifier names at most one record, and an entity of a tenant has at most one live record.
-/

namespace Dossier.Store

/-- Is there a live record for the entity that a live record is about? -/
def linkTaken (s : Store) (r : Record) : Bool :=
  r.live && match r.link? with
    | some link => s.records.any (·.isLiveFor r.tenant link)
    | none => false

/-- Adds a record. -/
def insertRecord (r : Record) : StoreAction Unit :=
  statement .insertRecord fun s =>
    if (s.record? r.id).isSome || linkTaken s r then .error (.violated .unique)
    else
      let r := { r with content.metadata := r.content.metadata.reread }
      .ok ((), { s with records := s.records ++ [r] })

/-- The store with the records changed that meet a condition. -/
def changeRecords (s : Store) (which : Record → Bool) (change : Record → Record) : Store :=
  { s with records := s.records.map fun r => if which r then change r else r }

/-- Is this the record of a tenant with an identifier? -/
def isOf (tenant : String) (id : Id) (r : Record) : Bool := r.tenant == tenant && r.id == id

/-- Writes the content of a record of a tenant anew. -/
def updateRecord (tenant : String) (id : Id) (content : RecordContent) (now : Instant) :
    StoreAction Unit :=
  writing .updateRecord fun s =>
    let content := { content with metadata := content.metadata.reread }
    ((), s.changeRecords (isOf tenant id) fun r => { r with content, updatedAt := now })

/-- The record of a tenant with an identifier, live or deleted. -/
def getRecord (tenant : String) (id : Id) : StoreAction (Option Record) :=
  reading .readRecord fun s => s.records.find? (isOf tenant id)

/-- The live record of a tenant for an entity. -/
def findLinked (tenant : String) (link : EntityLink) : StoreAction (Option Record) :=
  reading .findLinked fun s => s.records.find? (·.isLiveFor tenant link)

/-- Notes when a record was indexed. -/
def markIndexed (id : Id) (now : Instant) : StoreAction Unit :=
  writing .markIndexed fun s =>
    ((), s.changeRecords (·.id == id) fun r => { r with indexedAt := some now })

/-- Deletes a live record of a tenant, which stays in the store, and counts the rows changed. -/
def deleteRecord (tenant : String) (id : Id) (now : Instant) : StoreAction Nat :=
  writing .deleteRecord fun s =>
    let which := fun (r : Record) => isOf tenant id r && r.live
    (s.records.countP which,
      s.changeRecords which fun r => { r with deletedAt := some now, updatedAt := now })

/-- Sets when a record was last updated and when it was indexed. -/
def setTimes (id : Id) (updated : Option Instant) (indexed : Option (Option Instant)) :
    StoreAction Unit :=
  writing .updateRecord fun s =>
    ((), s.changeRecords (·.id == id) fun r =>
      { r with
        updatedAt := updated.getD r.updatedAt
        indexedAt := indexed.getD r.indexedAt })

/-- Does a record belong to a listing of the linked records of a tenant, all or those of one kind of
entity? -/
def isLinkedOf (tenant : String) (kind : Option String) (r : Record) : Bool :=
  r.live && r.tenant == tenant && match r.link? with
    | some link => kind.all (· == link.kind)
    | none => false

/-- Records in increasing order of their identifiers. -/
def byId (records : List Record) : List Record :=
  records.mergeSort fun a b => a.id.number ≤ b.id.number

/-- One page of the live linked records of a tenant in increasing order of their identifiers: at
most `limit` of them behind the identifier `after`. -/
def listLinked (tenant : String) (kind : Option String) (after : Option Id) (limit : Nat) :
    StoreAction (List Record) :=
  reading .listLinked fun s =>
    let rows := s.records.filter fun r =>
      isLinkedOf tenant kind r && after.all fun id => id.number < r.id.number
    (byId rows).take limit

/-- The live records that have a pending chunk, in increasing order of their identifiers. -/
def listUnembedded : StoreAction (List Record) :=
  reading .listUnembedded fun s =>
    byId (s.records.filter fun r => r.live && (s.chunksOf r.id).any (·.status == .pending))

end Dossier.Store
