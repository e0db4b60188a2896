/-!
# Tables of characters

A table is written as words of hexadecimal code points, and read once.  `CodeRanges` is a set of
code points given by ranges; a word is one code point or two joined by a hyphen.
-/

namespace Dossier.Unicode

/-- The value of a word of hexadecimal digits. -/
def hexValue (cs : List Char) : Nat :=
  cs.foldl (fun n c => 16 * n + if c.isDigit then c.toNat - '0'.toNat else c.toNat - 'a'.toNat + 10) 0

/-- The words of a table. -/
def tableWords (text : String) : List (List Char) :=
  ((text.toList.splitBy fun a b => a.isWhitespace == b.isWhitespace).filter fun word =>
    !word.any Char.isWhitespace)

/-- What stands before and after the first `sep` of a word. -/
def splitWord (sep : Char) (word : List Char) : List Char × Option (List Char) :=
  match word.dropWhile (· ≠ sep) with
  | [] => (word, none)
  | _ :: rest => (word.takeWhile (· ≠ sep), some rest)

/-- The first and last code point of a range. -/
def readRange (word : List Char) : Nat × Nat :=
  match splitWord '-' word with
  | (first, some last) => (hexValue first, hexValue last)
  | (only, none) => (hexValue only, hexValue only)

/-- A set of code points. -/
structure CodeRanges where
  ranges : Array (Nat × Nat)

namespace CodeRanges

/-- The set that a table describes. -/
def ofText (text : String) : CodeRanges := ⟨((tableWords text).map readRange).toArray⟩

/-- Is the character in the set? -/
def contains (set : CodeRanges) (c : Char) : Bool :=
  set.ranges.any fun (first, last) => first ≤ c.toNat && c.toNat ≤ last

end CodeRanges

end Dossier.Unicode
