import Dossier.Embedding.Hashing
import Dossier.Service.World

/-!
# Rehearsals

A service can be tried out without a model and without a source of entities.  A rehearsal stands in
for both: it embeds texts by hashing them or as its script says, call after call, and it knows the
states of the entities that it was told.
-/

namespace Dossier

/-- What a call to the embedding provider comes to in a rehearsal. -/
inductive Cue where
  /-- One hashed vector for each text. -/
  | hashed
  /-- Hashed vectors without the last one. -/
  | short
  /-- Hashed vectors and one more. -/
  | extra
  /-- Hashed vectors, of which the last one has one more component. -/
  | wide
  /-- Hashed vectors, while others work on the store. -/
  | meanwhile (work : Store → Store)
  /-- These vectors. -/
  | vectors (vs : List Vec)
  /-- A failure, which may come with the operation being given up. -/
  | failed (e : ServiceError) (cancels : Bool)

/-- The state of a rehearsal: what the next calls come to and what all later ones do, the number of
calls so far, what is known of entities, and how the source of entities and the audits fail. -/
structure Rehearsal where
  script : List Cue
  standard : Cue
  calls : Nat := 0
  entities : List ((String × EntityLink) × Json) := []
  entityFault : Option ServiceError := none
  auditFault : Option ServiceError := none

namespace Rehearsal

/-- Some vectors with the last one longer by a component. -/
def widen : List Vec → List Vec
  | [] => []
  | [v] => [v ++ [Single.one]]
  | v :: rest => v :: widen rest

/-- A call to the embedding provider. -/
def embed (dimension : Nat) (texts : List String) (r : Rehearsal) : Call Rehearsal :=
  let hashed := texts.map (Embedding.hashed dimension)
  let after := { r with script := r.script.drop 1, calls := r.calls + 1 }
  let reply (vs : List Vec) : Call Rehearsal := ⟨.ok vs, fun s => s, false, after⟩
  match r.script.head?.getD r.standard with
  | .hashed => reply hashed
  | .short => reply hashed.dropLast
  | .extra => reply (hashed ++ [List.replicate dimension Single.one])
  | .wide => reply (widen hashed)
  | .meanwhile work => ⟨.ok hashed, work, false, after⟩
  | .vectors vs => reply vs
  | .failed e cancels => ⟨.error e, fun s => s, cancels, after⟩

/-- The state of an entity of a tenant. -/
def entity (tenant : String) (link : EntityLink) (r : Rehearsal) :
    Except ServiceError (Option Json) × Rehearsal :=
  match r.entityFault with
  | some e => (.error e, r)
  | none => (.ok ((r.entities.find? (·.1 == (tenant, link))).map (·.2)), r)

/-- Whether an audit event is accepted. -/
def audit (_ : AuditEvent) (r : Rehearsal) : Except ServiceError Unit × Rehearsal :=
  match r.auditFault with
  | some e => (.error e, r)
  | none => (.ok (), r)

/-- The rehearsal with the state of an entity told anew. -/
def learn (r : Rehearsal) (tenant : String) (link : EntityLink) (state : Json) : Rehearsal :=
  { r with entities := ((tenant, link), state) :: r.entities.filter (·.1 != (tenant, link)) }

end Rehearsal

end Dossier
