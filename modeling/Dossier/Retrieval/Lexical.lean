import Dossier.Id
import Dossier.Number.Log
import Dossier.Unicode.Alphanumeric
import Dossier.Unicode.Lowercase

/-!
# The lexical index

A projection of chunk texts that scores chunks against a query by the BM25 formula.  The number of
chunks, their average length and the number of chunks that hold a term are those of one tenant, so
that a tenant's ranking depends on its own chunks only.

A score is a sum over the terms of the query, rounded after each of them, so that its last digits
depend on the order of the terms.  A search is therefore given the terms in an order (`TermOrder`).
-/

namespace Dossier

/-- Terms are the runs of alphanumeric characters in lower case. -/
def terms (text : String) : List String :=
  ((text.toList.splitBy fun a b => Unicode.isAlphanumeric a == Unicode.isAlphanumeric b).filter
    fun run => run.head?.any Unicode.isAlphanumeric).map fun run => String.ofList (Unicode.lower run)

/-- The terms of a query, each once, in the order in which they come up in it. -/
def queryTerms (query : String) : List String := (terms query).eraseDups

/-- An order in which the terms of a query are gone through. -/
structure TermOrder where
  arrange : List String → List String
  perm : ∀ ts, (arrange ts).Perm ts

namespace TermOrder

/-- The terms as they come up in the query. -/
def asWritten : TermOrder := ⟨id, fun _ => .refl _⟩

/-- The terms of a query in an order. -/
def termsOf (order : TermOrder) (query : String) : List String := order.arrange (queryTerms query)

end TermOrder

/-- An indexed chunk. -/
structure LexicalEntry where
  chunk : Id
  record : Id
  tenant : String
  terms : List String
deriving DecidableEq

/-- Chunks with their terms, at most one entry for a chunk. -/
structure LexicalIndex where
  entries : List LexicalEntry

namespace LexicalIndex

/-- A scored chunk. -/
structure Hit where
  chunk : Id
  record : Id
  score : Single

/-- An index without chunks. -/
def empty : LexicalIndex := ⟨[]⟩

/-- The index without some chunks. -/
def remove (index : LexicalIndex) (chunks : List Id) : LexicalIndex :=
  ⟨index.entries.filter fun entry => !chunks.contains entry.chunk⟩

/-- The index with a chunk put in place of any entry that it had. -/
def add (index : LexicalIndex) (chunk record : Id) (tenant text : String) : LexicalIndex :=
  ⟨⟨chunk, record, tenant, Dossier.terms text⟩ :: (index.remove [chunk]).entries⟩

/-- The number of chunks. -/
def size (index : LexicalIndex) : Nat := index.entries.length

/-- The chunks of a tenant. -/
def ofTenant (index : LexicalIndex) (tenant : String) : List LexicalEntry :=
  index.entries.filter (·.tenant == tenant)

/-! ### Scores -/

/-- How strongly repetition of a term counts. -/
def saturation : Single := Binary.ofRatio 12 10

/-- How strongly the length of a chunk counts. -/
def lengthWeight : Single := Binary.ofRatio 75 100

/-- One half. -/
def half : Single := Binary.ofRatio 1 2

/-- The weight of a term that `holding` of `total` chunks hold. -/
def termWeight (total holding : Single) : Single :=
  (Single.one + (total - holding + half) / (holding + half)).log

/-- What a term of some weight adds to the score of a chunk that holds it `count` times. -/
def gain (weight averageLength length count : Single) : Single :=
  let norm := saturation * (Single.one - lengthWeight + lengthWeight * length / averageLength)
  weight * count * (saturation + Single.one) / (count + norm)

/-- The number of terms in some chunks together. -/
def totalLength (entries : List LexicalEntry) : Nat :=
  entries.foldr (fun entry n => entry.terms.length + n) 0

/-- The average number of terms of some chunks, at least one. -/
def averageLength (entries : List LexicalEntry) : Single :=
  (Binary.ofNat (totalLength entries) / Binary.ofNat entries.length).max Single.one

/-- The number of chunks that hold a term. -/
def holding (entries : List LexicalEntry) (term : String) : Nat :=
  entries.countP fun entry => entry.terms.contains term

/-- Some terms with their weights among some chunks; terms that no chunk holds are left out. -/
def weights (entries : List LexicalEntry) (ts : List String) : List (String × Single) :=
  ts.filterMap fun term =>
    let n := holding entries term
    if n = 0 then none
    else some (term, termWeight (Binary.ofNat entries.length) (Binary.ofNat n))

/-- The score of a chunk, if it holds one of the terms: what they add, one after the other. -/
def score? (weights : List (String × Single)) (average : Single) (entry : LexicalEntry) :
    Option Single :=
  let held := weights.filter fun (term, _) => entry.terms.contains term
  if held.isEmpty then none
  else
    some (held.foldl (fun sum (term, weight) =>
      sum + gain weight average (Binary.ofNat entry.terms.length)
        (Binary.ofNat (entry.terms.count term))) Binary.zero)

/-- Does the first hit rank no lower than the second?  Higher scores come first, and among equal
ones the smaller identifier. -/
def Hit.before (a b : Hit) : Bool :=
  match b.score.totalCompare a.score with
  | .lt => true
  | .gt => false
  | .eq => a.chunk.number ≤ b.chunk.number

/-- Some chunks ranked against the terms of a query, the best first. -/
def rank (entries : List LexicalEntry) (ts : List String) : List Hit :=
  let ws := weights entries ts
  let average := averageLength entries
  let hits := entries.filterMap fun entry =>
    (score? ws average entry).map fun score => ⟨entry.chunk, entry.record, score⟩
  hits.mergeSort Hit.before

/-- The chunks of a tenant that hold one of some terms, the best first.  The terms are those of a
query, each once, in the order in which the search goes through them. -/
def search (index : LexicalIndex) (tenant : String) (ts : List String) : List Hit :=
  rank (index.ofTenant tenant) ts

end LexicalIndex

end Dossier
