import Dossier.Number.Binary
import Dossier.Time

/-!
# Rules of evidence

How evidence was retrieved, how confident an answer may be that rests on it, and when it is stale.
-/

namespace Dossier

/-- How a record was retrieved. -/
inductive Method where
  | lexical
  | vector
  | hybrid
deriving DecidableEq, Repr

namespace Method

/-- The label of a method. -/
def label : Method → String
  | lexical => "lexical"
  | vector => "vector"
  | hybrid => "hybrid"

/-- All methods. -/
def all : List Method := [lexical, vector, hybrid]

/-- The method with a given label. -/
def ofLabel? (s : String) : Option Method := all.find? (·.label == s)

end Method

/-- How confident an answer may be. -/
inductive Confidence where
  | low
  | medium
  | high
deriving DecidableEq, Repr

namespace Confidence

/-- The label of a confidence. -/
def label : Confidence → String
  | low => "low"
  | medium => "medium"
  | high => "high"

/-- All confidences. -/
def all : List Confidence := [low, medium, high]

/-- The confidence with a given label. -/
def ofLabel? (s : String) : Option Confidence := all.find? (·.label == s)

/-- The confidence that the best score gives.  Both bars belong to the confidence above them. -/
def ofScore (top : Option Single) (highBar mediumBar : Single) : Confidence :=
  match top with
  | some score =>
    if highBar.le score then high else if mediumBar.le score then medium else low
  | none => low

end Confidence

/-- The age of a source in nanoseconds: the time since its last update or since its last indexing,
whichever is longer.  A source that was never indexed has no age. -/
def sourceAge? (updated : Instant) (indexed : Option Instant) (now : Instant) : Option Int :=
  indexed.map fun indexed => max (now.since updated) (now.since indexed)

/-- Is a source older than a number of nanoseconds?  One that was never indexed is. -/
def isStale (updated : Instant) (indexed : Option Instant) (now : Instant) (after : Int) : Bool :=
  match sourceAge? updated indexed now with
  | some age => after < age
  | none => true

end Dossier
