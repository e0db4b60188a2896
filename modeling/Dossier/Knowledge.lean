/-!
# Labels of knowledge

The kinds of source that a record can come from, the states of a chunk's embedding, and the link
from a record to a business entity.
-/

namespace Dossier

/-- The kinds of source that a record can come from. -/
inductive SourceKind where
  | document
  | email
  | call
  | ticket
  | note
  | entity
deriving DecidableEq, Repr

namespace SourceKind

/-- The label of a kind. -/
def label : SourceKind → String
  | document => "document"
  | email => "email"
  | call => "call"
  | ticket => "ticket"
  | note => "note"
  | entity => "entity"

/-- All kinds. -/
def all : List SourceKind := [document, email, call, ticket, note, entity]

/-- The kind with a given label. -/
def ofLabel? (s : String) : Option SourceKind := all.find? (·.label == s)

end SourceKind

/-- The states of a chunk's embedding. -/
inductive EmbeddingStatus where
  | pending
  | embedded
  | failed
deriving DecidableEq, Repr

namespace EmbeddingStatus

/-- The label of a state. -/
def label : EmbeddingStatus → String
  | pending => "pending"
  | embedded => "embedded"
  | failed => "failed"

/-- All states. -/
def all : List EmbeddingStatus := [pending, embedded, failed]

/-- The state with a given label. -/
def ofLabel? (s : String) : Option EmbeddingStatus := all.find? (·.label == s)

end EmbeddingStatus

/-- The business entity that a record is about. -/
structure EntityLink where
  kind : String
  id : String
deriving DecidableEq

/-- The reference that audits use for an entity. -/
def EntityLink.ref (link : EntityLink) : String := link.kind ++ ":" ++ link.id

end Dossier
