import Dossier.Digest.Fnv
import Dossier.Retrieval.Lexical
import Dossier.Vector.Similarity

/-!
# Embedding by hashing

Where no model is at hand, a text is embedded by counting its terms in buckets: the hash of a term
names its bucket, and a text without terms counts once in the first.
-/

namespace Dossier.Embedding

/-- The bucket of a term. -/
def bucket (dimension : Nat) (term : String) : Nat :=
  (Digest.fnv1a term.toUTF8.toList).toNat % dimension

/-- How often each bucket is hit by the terms of a text. -/
def bucketCounts (dimension : Nat) (text : String) : List Nat :=
  let hits := (terms text).map (bucket dimension)
  (List.range dimension).map fun i => hits.count i

/-- The vector of a text. -/
def hashed (dimension : Nat) (text : String) : Vec :=
  let counts := bucketCounts dimension text
  let counts := if counts.all (· == 0) then counts.set 0 1 else counts
  counts.map Binary.ofNat

end Dossier.Embedding
