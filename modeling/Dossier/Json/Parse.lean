import Dossier.Json.Value

/-!
# Reading JSON

`Json.parse` reads one value with nothing but blanks around it.  Arrays and objects nest at most 127
deep.  A number with neither point nor exponent is an integer when it fits 64 bits; every other
number is a double, read in at most two roundings: the leading digits that fit 64 bits are rounded,
then multiplied or divided by a power of ten.  A number beyond all doubles is refused.
-/

namespace Dossier.Json

/-- What is left of a text after its leading blanks. -/
def skipBlanks (cs : List Char) : List Char :=
  cs.dropWhile fun c => c = ' ' || c = '\n' || c = '\r' || c = '\t'

/-! ### Numbers -/

/-- Digits taken into a word of 64 bits as far as they fit, and how many were taken. -/
def absorbDigits : Nat → Nat → List Char → Nat × Nat
  | word, taken, [] => (word, taken)
  | word, taken, c :: rest =>
    let next := 10 * word + (c.toNat - '0'.toNat)
    if next < twoTo 64 then absorbDigits next (taken + 1) rest else (word, taken)

/-- A positive double times a power of ten; an exponent beyond the table is taken off in steps. -/
def scaleByTen : Nat → Double → Int → Option Double
  | 0, x, _ => some x
  | fuel + 1, x, e =>
    if e.natAbs < 309 then
      let power : Double := Binary.ofDecimal false ⟨1, e.natAbs⟩
      if 0 ≤ e then
        let y := x * power
        if y.isFinite then some y else none
      else some (x / power)
    else if x = Binary.zero then some x
    else if 0 ≤ e then none
    else scaleByTen fuel (x / Binary.ofDecimal false ⟨1, 308⟩) (e + 308)

/-- The double that digits before and after the point and an exponent stand for. -/
def doubleOf (neg : Bool) (whole fraction : List Char) (exponent : Int) : Option Double :=
  let (word, taken) := absorbDigits 0 0 whole
  let (word, more) := absorbDigits word 0 fraction
  let e := (whole.length - taken : Nat) - (more : Int) + exponent
  (scaleByTen 8 (Binary.ofNat word) e).map fun x => if neg then -x else x

/-- The exponent part at the head of a text, and the rest; no exponent part is zero. -/
def readExponent (cs : List Char) : Option (Bool × Int × List Char) :=
  match cs with
  | c :: rest =>
    if c = 'e' ∨ c = 'E' then
      let (neg, rest) := match rest with
        | '-' :: ds => (true, ds)
        | '+' :: ds => (false, ds)
        | ds => (false, ds)
      let digits := rest.takeWhile Char.isDigit
      if digits.isEmpty then none
      else
        let n : Int := Decimal.ofChars 0 digits
        some (true, if neg then -n else n, rest.dropWhile Char.isDigit)
    else some (false, 0, cs)
  | [] => some (false, 0, cs)

/-- The number at the head of a text whose sign has been read, and the rest. -/
def readUnsigned (neg : Bool) (cs : List Char) : Option (JsonNumber × List Char) := do
  let whole := cs.takeWhile Char.isDigit
  let rest := cs.dropWhile Char.isDigit
  if whole.isEmpty || (whole.head? == some '0' && whole.length != 1) then none
  else
    let (pointed, fraction, rest) := match rest with
      | '.' :: more => (true, more.takeWhile Char.isDigit, more.dropWhile Char.isDigit)
      | _ => (false, [], rest)
    if pointed && fraction.isEmpty then none
    else
      let (scaled, exponent, rest) ← readExponent rest
      let n := Decimal.ofChars 0 whole
      let signed : Int := if neg then -(n : Int) else n
      if pointed || scaled || (neg && n == 0) || !decide (JsonNumber.IsWord signed) then
        (doubleOf neg whole fraction exponent).map fun x => (.float x, rest)
      else some (.int signed, rest)

/-! ### Strings -/

/-- The value of a hexadecimal digit. -/
def hexDigit? (c : Char) : Option Nat :=
  if c.isDigit then some (c.toNat - '0'.toNat)
  else if 'a' ≤ c ∧ c ≤ 'f' then some (c.toNat - 'a'.toNat + 10)
  else if 'A' ≤ c ∧ c ≤ 'F' then some (c.toNat - 'A'.toNat + 10)
  else none

/-- The value of four hexadecimal digits. -/
def hexFour? (a b c d : Char) : Option Nat := do
  let a ← hexDigit? a
  let b ← hexDigit? b
  let c ← hexDigit? c
  let d ← hexDigit? d
  return ((a * 16 + b) * 16 + c) * 16 + d

/-- The character that a one-letter escape stands for. -/
def simpleEscape? (c : Char) : Option Char :=
  if c = '"' ∨ c = '\\' ∨ c = '/' then some c
  else if c = 'b' then some '\x08'
  else if c = 'f' then some '\x0c'
  else if c = 'n' then some '\n'
  else if c = 'r' then some '\r'
  else if c = 't' then some '\t'
  else none

/-- The rest of a string whose opening quote has been read, in reverse onto `acc`, and what follows
its closing quote.  A code unit of a surrogate pair must come with its partner. -/
def readString (acc : List Char) : List Char → Option (String × List Char)
  | [] => none
  | '"' :: rest => some (String.ofList acc.reverse, rest)
  | '\\' :: 'u' :: a :: b :: c :: d :: rest => do
    let unit ← hexFour? a b c d
    if unit < 0xd800 ∨ 0xdfff < unit then readString (Char.ofNat unit :: acc) rest
    else if 0xdc00 ≤ unit then none
    else match rest with
      | '\\' :: 'u' :: a :: b :: c :: d :: rest => do
        let low ← hexFour? a b c d
        if 0xdc00 ≤ low ∧ low ≤ 0xdfff then
          readString (Char.ofNat (0x10000 + (unit - 0xd800) * 0x400 + (low - 0xdc00)) :: acc) rest
        else none
      | _ => none
  | '\\' :: c :: rest => do readString ((← simpleEscape? c) :: acc) rest
  | '\\' :: [] => none
  | c :: rest => if c.toNat < 0x20 then none else readString (c :: acc) rest

/-! ### Values -/

/-- What is left of a text after a word that it begins with. -/
def afterWord (word : String) (cs : List Char) : Option (List Char) :=
  if word.toList.isPrefixOf cs then some (cs.drop word.length) else none

mutual

/-- The value at the head of a text without leading blanks, and the rest.  `depth` more levels of
nesting are allowed. -/
def readValue : Nat → Nat → List Char → Option (Json × List Char)
  | 0, _, _ => none
  | _, _, [] => none
  | fuel + 1, depth, c :: rest =>
    if c = '"' then (readString [] rest).map fun (s, rest) => (.str s, rest)
    else if c = '[' then
      if depth = 0 then none
      else match skipBlanks rest with
        | ']' :: rest => some (.arr [], rest)
        | rest => readItems fuel (depth - 1) [] rest
    else if c = '\x7b' then
      if depth = 0 then none
      else match skipBlanks rest with
        | '\x7d' :: rest => some (.obj [], rest)
        | rest => readFields fuel (depth - 1) [] rest
    else if c = 'n' then (afterWord "ull" rest).map fun rest => (.null, rest)
    else if c = 't' then (afterWord "rue" rest).map fun rest => (.bool true, rest)
    else if c = 'f' then (afterWord "alse" rest).map fun rest => (.bool false, rest)
    else if c = '-' then (readUnsigned true rest).map fun (n, rest) => (.num n, rest)
    else (readUnsigned false (c :: rest)).map fun (n, rest) => (.num n, rest)

/-- The remaining items of an array, in reverse onto `acc`. -/
def readItems : Nat → Nat → List Json → List Char → Option (Json × List Char)
  | 0, _, _, _ => none
  | fuel + 1, depth, acc, cs => do
    let (item, rest) ← readValue fuel depth cs
    match skipBlanks rest with
    | ',' :: rest => readItems fuel depth (item :: acc) (skipBlanks rest)
    | ']' :: rest => some (.arr (item :: acc).reverse, rest)
    | _ => none

/-- The remaining fields of an object, in reverse onto `acc`. -/
def readFields : Nat → Nat → List (String × Json) → List Char → Option (Json × List Char)
  | 0, _, _, _ => none
  | fuel + 1, depth, acc, cs =>
    match cs with
    | '"' :: rest => do
      let (name, rest) ← readString [] rest
      match skipBlanks rest with
      | ':' :: rest => do
        let (value, rest) ← readValue fuel depth (skipBlanks rest)
        match skipBlanks rest with
        | ',' :: rest => readFields fuel depth ((name, value) :: acc) (skipBlanks rest)
        | '\x7d' :: rest => some (.obj ((name, value) :: acc).reverse, rest)
        | _ => none
      | _ => none
    | _ => none

end

/-- The value that a whole text stands for, as it is written. -/
def parse (text : String) : Option Json :=
  let cs := text.toList
  match readValue (cs.length + 1) 127 (skipBlanks cs) with
  | some (value, rest) => if (skipBlanks rest).isEmpty then some value else none
  | none => none

end Dossier.Json
