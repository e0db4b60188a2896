import Dossier.Number.Binary

/-!
# Decimal forms of binary numbers

Reading: `Binary.ofDecimal` rounds a decimal once, and `Binary.parse` reads the usual written forms
of a number.  Writing: `Binary.scientific` gives a fixed number of significant digits of the exact
value, and `Binary.shortest` finds the fewest digits that read back, the nearest of those, from
which `Binary.positional` and `Binary.jsonText` make text.
-/

namespace Dossier

/-- A nonnegative decimal `digits * 10 ^ exponent`. -/
structure Decimal where
  digits : Nat
  exponent : Int
deriving DecidableEq

namespace Decimal

/-- The number of decimal digits; zero has none. -/
def length (n : Nat) : Nat := if n = 0 then 0 else length (n / 10) + 1

/-- The exponent `x` for which `10 ^ x ≤ n / d < 10 ^ (x + 1)`, for positive `n` and `d`. -/
def magnitude (n d : Nat) : Int :=
  if d ≤ n then (length (n / d) : Int) - 1 else -(length ((d - 1) / n) : Int)

/-- The same decimal without trailing zeros, searched for at most `fuel` times. -/
def trim : Nat → Decimal → Decimal
  | 0, x => x
  | fuel + 1, x =>
    if x.digits ≠ 0 ∧ x.digits % 10 = 0 then trim fuel ⟨x.digits / 10, x.exponent + 1⟩ else x

/-- The digits of a natural number as characters. -/
def chars (n : Nat) : List Char := Nat.toDigits 10 n

/-- The natural number that a list of decimal digits denotes, continuing from `acc`. -/
def ofChars (acc : Nat) (cs : List Char) : Nat :=
  cs.foldl (fun n c => 10 * n + (c.toNat - '0'.toNat)) acc

end Decimal

namespace Binary

variable {F : BinaryFormat}

/-! ### Reading -/

/-- The number nearest to `digits * 10 ^ exponent`.  Exponents beyond the format's reach are decided
by the count of digits alone. -/
def ofDecimal (neg : Bool) (x : Decimal) : Binary F :=
  if x.digits = 0 then ofRank neg 0
  else
    let top := (Decimal.length x.digits : Int) + x.exponent
    if (F.depth : Int) + 1 < top then .infinite neg
    else if top < -(F.depth : Int) then ofRank neg 0
    else if 0 ≤ x.exponent then round neg ((x.digits * tenTo x.exponent.toNat) <<< F.depth) 1
    else round neg (x.digits <<< F.depth) (tenTo (-x.exponent).toNat)

/-- Why a text is not a number. -/
inductive ParseError where
  | empty
  | malformed
deriving DecidableEq

/-- The exponent part of a written number: nothing, or `e`, an optional sign and digits. -/
def parseExponent : List Char → Option Int
  | [] => some 0
  | e :: rest =>
    if e = 'e' ∨ e = 'E' then
      let (neg, digits) := match rest with
        | '-' :: ds => (true, ds)
        | '+' :: ds => (false, ds)
        | ds => (false, ds)
      if digits.isEmpty || !digits.all Char.isDigit then none
      else some (if neg then -(Decimal.ofChars 0 digits : Int) else Decimal.ofChars 0 digits)
    else none

/-- A number written without its sign: digits with an optional point and exponent, or the name of an
infinity or of a NaN in letters of either case. -/
def parseUnsigned (neg : Bool) (cs : List Char) : Option (Binary F) :=
  let name := cs.map Char.toLower
  if name = "inf".toList ∨ name = "infinity".toList then some (.infinite neg)
  else if name = "nan".toList then some (.nan neg)
  else
    let whole := cs.takeWhile Char.isDigit
    let rest := cs.dropWhile Char.isDigit
    let (fraction, rest) := match rest with
      | '.' :: more => (more.takeWhile Char.isDigit, more.dropWhile Char.isDigit)
      | _ => ([], rest)
    if whole.isEmpty && fraction.isEmpty then none
    else
      (parseExponent rest).map fun e =>
        ofDecimal neg ⟨Decimal.ofChars 0 (whole ++ fraction), e - fraction.length⟩

/-- A written number with an optional sign. -/
def parse (cs : List Char) : Except ParseError (Binary F) :=
  match cs with
  | [] => .error .empty
  | c :: rest =>
    let read := if c = '-' then parseUnsigned true rest
      else if c = '+' then parseUnsigned false rest
      else parseUnsigned false cs
    match read with
    | some x => .ok x
    | none => .error .malformed

/-! ### Writing -/

/-- A minus sign for negative numbers. -/
def signText (neg : Bool) : String := if neg then "-" else ""

/-- A leading digit and `places` more digits of the exact value, a half going to the even digit. -/
def scientificDigits (places : Nat) (n d : Nat) : Decimal :=
  let x := Decimal.magnitude n d
  let shift := (places : Int) - x
  let m := if 0 ≤ shift then nearest (n * tenTo shift.toNat) d
    else nearest n (d * tenTo (-shift).toNat)
  if m = tenTo (places + 1) then ⟨tenTo places, x + 1⟩ else ⟨m, x⟩

/-- Scientific notation with `places` digits after the point; the exponent has neither plus sign nor
padding. -/
def scientific (places : Nat) : Binary F → String
  | nan _ => "NaN"
  | infinite s => signText s ++ "inf"
  | finite s r =>
    let ⟨m, x⟩ := if r.val = 0 then ⟨0, 0⟩
      else scientificDigits places (F.units r) (1 <<< F.depth)
    let digits := Decimal.chars m
    let padded := List.replicate (places + 1 - digits.length) '0' ++ digits
    signText s ++ String.ofList (padded.take 1) ++ "." ++ String.ofList (padded.drop 1) ++ "e" ++
      toString x

/-- Is the decimal `c` of a grid with unit `p / q` among the numbers that read as a magnitude with
the given doubled bounds? -/
def readsBack (closed : Bool) (low high p q c : Nat) : Bool :=
  if closed then low * q ≤ c * p && c * p ≤ high * q else low * q < c * p && c * p < high * q

/-- The search for the fewest digits, from `count` digits on. -/
def shortestFrom (r : Nat) (F : BinaryFormat) : Nat → Nat → Decimal
  | 0, _ => ⟨0, 0⟩
  | fuel + 1, count =>
    let value := 2 * F.units r
    let low := F.units (r - 1) + F.units r
    let high := F.units r + F.units (r + 1)
    let unit := 1 <<< (F.depth + 1)
    let grid := Decimal.magnitude value unit - count + 1
    let p := if 0 ≤ grid then tenTo grid.toNat * unit else unit
    let q := if 0 ≤ grid then 1 else tenTo (-grid).toNat
    let below := value * q / p
    let closed := r % 2 == 0
    let lowFits := readsBack closed low high p q below
    let highFits := readsBack closed low high p q (below + 1)
    if lowFits && highFits then
      let middle := (2 * below + 1) * p
      if 2 * (value * q) < middle then ⟨below, grid⟩
      else if middle < 2 * (value * q) then ⟨below + 1, grid⟩
      else if below % 2 = 0 then ⟨below, grid⟩ else ⟨below + 1, grid⟩
    else if lowFits then ⟨below, grid⟩
    else if highFits then ⟨below + 1, grid⟩
    else shortestFrom r F fuel (count + 1)

/-- The decimal of fewest digits that reads back as the magnitude of rank `r`, and of those the
nearest. -/
def shortest (F : BinaryFormat) (r : Nat) : Decimal :=
  if r = 0 then ⟨0, 0⟩ else Decimal.trim 20 (shortestFrom r F (F.fraction + 2) 1)

/-- Digits with a decimal point at the place the exponent says, and no exponent. -/
def placePoint (x : Decimal) : String :=
  let digits := Decimal.chars x.digits
  if 0 ≤ x.exponent then String.ofList (digits ++ List.replicate x.exponent.toNat '0')
  else
    let after := (-x.exponent).toNat
    let padded := List.replicate (after + 1 - digits.length) '0' ++ digits
    let whole := padded.length - after
    String.ofList (padded.take whole) ++ "." ++ String.ofList (padded.drop whole)

/-- The shortest digits that read back, written without an exponent. -/
def positional : Binary F → String
  | nan _ => "NaN"
  | infinite s => signText s ++ "inf"
  | finite s r => signText s ++ placePoint (shortest F r)

/-- The shortest digits that read back, as a JSON number that is not an integer: a point or an
exponent always shows.  The point is placed for magnitudes from `10 ^ -5` to below `10 ^ 16`, and
else the exponent shows its sign. -/
def jsonText : Binary F → String
  | nan _ | infinite _ => "null"
  | finite s r =>
    let x := shortest F r
    let digits := Decimal.chars x.digits
    let point := (digits.length : Int) + x.exponent
    let body :=
      if 0 ≤ x.exponent ∧ point ≤ 16 then placePoint x ++ ".0"
      else if -5 < point ∧ point ≤ 16 then placePoint x
      else
        let tail := digits.drop 1
        String.ofList (digits.take 1) ++ (if tail.isEmpty then "" else "." ++ String.ofList tail)
          ++ "e" ++ (if 0 < point then "+" else "") ++ toString (point - 1)
    signText s ++ body

end Binary

end Dossier
