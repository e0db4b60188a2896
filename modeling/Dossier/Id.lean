import Dossier.Json.Parse

/-!
# Identifiers

Records, chunks, packs and events are named by numbers of 128 bits, written as 32 hexadecimal digits
with hyphens after the eighth, twelfth, sixteenth and twentieth.  Three more spellings are read:
without hyphens, in braces, and behind `urn:uuid:`.
-/

namespace Dossier

/-- An identifier. -/
structure Id where
  number : Nat
deriving DecidableEq, Inhabited, Ord

namespace Id

/-- Digits in groups of the given sizes. -/
def groups : List Nat → List Char → List (List Char)
  | [], _ => []
  | n :: sizes, cs => cs.take n :: groups sizes (cs.drop n)

/-- The sizes of the groups of digits. -/
def groupSizes : List Nat := [8, 4, 4, 4, 12]

/-- The 32 digits of an identifier. -/
def digits (id : Id) : List Char :=
  let ds := Nat.toDigits 16 id.number
  List.replicate (32 - ds.length) '0' ++ ds

/-- The written form of an identifier. -/
def text (id : Id) : String :=
  String.ofList (['-'].intercalate (groups groupSizes id.digits))

/-- The number that hexadecimal digits of either case stand for, continuing from `acc`. -/
def readHex (acc : Nat) : List Char → Option Nat
  | [] => some acc
  | c :: rest => do readHex (16 * acc + (← Json.hexDigit? c)) rest

/-- An identifier written as 32 digits. -/
def readPlain (cs : List Char) : Option Id :=
  if cs.length = 32 then (readHex 0 cs).map Id.mk else none

/-- An identifier written with hyphens: a hyphen stands in four places, and digits in the others. -/
def readHyphenated (cs : List Char) : Option Id :=
  if cs.length = 36 ∧ cs[8]? = some '-' ∧ cs[13]? = some '-' ∧ cs[18]? = some '-' ∧
      cs[23]? = some '-' then
    readPlain (cs.take 8 ++ (cs.drop 9).take 4 ++ (cs.drop 14).take 4 ++ (cs.drop 19).take 4 ++
      cs.drop 24)
  else none

/-- The identifier that a text stands for. -/
def parse (s : String) : Option Id :=
  let cs := s.toList
  if cs.length = 32 then readPlain cs
  else if cs.length = 36 then readHyphenated cs
  else if cs.length = 38 ∧ cs.head? = some '\x7b' ∧ cs.getLast? = some '\x7d' then
    readHyphenated (cs.drop 1).dropLast
  else if cs.length = 45 ∧ (cs.take 9 = "urn:uuid:".toList ∨ cs.take 9 = "URN:UUID:".toList) then
    readHyphenated (cs.drop 9)
  else none

end Id

end Dossier
