import Dossier.Entity
import Dossier.Store.Statement
import Dossier.Vector.Index

/-!
# Why an operation fails

The causes for which an operation of a service fails, and their wording.
-/

namespace Dossier

/-- What is wrong with a request. -/
inductive RequestFault where
  | blankTenant
  | blankEntity
  | metadataNotObject
  | blankPrincipal
  | chunkOutOfRange (part : String)
  | unrenderable (cause : Entity.RenderError)
  | badVector (cause : Vec.TextError)
deriving DecidableEq

/-- The wording of a fault of a request. -/
def RequestFault.message : RequestFault → String
  | blankTenant => "tenant_id must be non-empty."
  | blankEntity => "entity.entity_kind and entity.entity_id must be non-empty."
  | metadataNotObject => "metadata must be a JSON object."
  | blankPrincipal => "principal.tenant_id must be non-empty."
  | chunkOutOfRange part => "Chunk " ++ part ++ " is out of range."
  | unrenderable cause => cause.message
  | badVector cause => cause.message

/-- What is wrong with an embedding provider. -/
inductive ProviderFault where
  | wrongCount (found expected : Nat)
  | wrongDimension (found expected : Nat)
  | reported (text : String)
deriving DecidableEq

/-- The wording of a fault of a provider. -/
def ProviderFault.message : ProviderFault → String
  | wrongCount found expected =>
    s!"Embedding provider returned {found} vectors for {expected} inputs."
  | wrongDimension found expected =>
    s!"Embedding dimension {found} does not match configured dimensions {expected}."
  | reported text => text

/-- What is wrong with a policy. -/
inductive PolicyFault where
  | missingItem
  | reported (text : String)
deriving DecidableEq

/-- The wording of a fault of a policy. -/
def PolicyFault.message : PolicyFault → String
  | missingItem => "Redaction result is missing an item."
  | reported text => text

/-- Why a statement fails, apart from what is wrong with the text of a vector. -/
inductive StorageFault where
  | violated (rule : Constraint)
  | refused (statement : Statement)
deriving DecidableEq

/-- The wording of a fault of the store. -/
def StorageFault.message : StorageFault → String
  | violated .unique => "UNIQUE constraint failed"
  | violated .foreignKey => "FOREIGN KEY constraint failed"
  | violated .other => "NOT NULL constraint failed"
  | refused _ => "statement refused"

/-- Why an operation fails.  One that is broken off for an `overflow`, a number that does not fit
where it has to, does not even answer. -/
inductive ServiceError where
  | invalidRequest (fault : RequestFault)
  | notFound (text : String)
  | conflict (text : String)
  | provider (fault : ProviderFault)
  | policy (fault : PolicyFault)
  | storage (fault : StorageFault)
  | index (fault : VectorIndex.Mismatch)
  | cancelled
  | overflow
deriving DecidableEq

namespace ServiceError

/-- What an error says about its cause. -/
def detail : ServiceError → String
  | invalidRequest fault => fault.message
  | notFound text => text
  | conflict text => text
  | provider fault => fault.message
  | policy fault => fault.message
  | storage fault => fault.message
  | index fault => fault.message
  | cancelled => "Operation cancelled."
  | overflow => "Overflow."

/-- The wording of an error. -/
def message (e : ServiceError) : String :=
  match e with
  | invalidRequest _ => "Invalid request: " ++ e.detail
  | notFound _ => "Not found: " ++ e.detail
  | conflict _ => "Conflict: " ++ e.detail
  | provider _ => "Provider error: " ++ e.detail
  | policy _ => "Policy error: " ++ e.detail
  | storage _ => "Storage error: " ++ e.detail
  | index _ => "Index error: " ++ e.detail
  | cancelled | overflow => e.detail

/-- The error of an operation whose statement fails.  A text that is no vector counts as a fault of
the request. -/
def ofStore : StoreError → ServiceError
  | .violated rule => storage (.violated rule)
  | .refused statement => storage (.refused statement)
  | .badVector cause => invalidRequest (.badVector cause)

end ServiceError

end Dossier
