import Dossier.Json.Parse

/-!
# Numbers, dates and strings of a configuration file

Each reader takes a part from the head of a text and gives it with the rest.
-/

namespace Dossier.Toml

/-- Is this a control character that may not stand in a text? -/
def isControl (c : Char) : Bool := (c.toNat < 0x20 && c != '\t') || c.toNat == 0x7f

/-! ### Strings -/

/-- The character of a number written in `n` hexadecimal digits, and the rest. -/
def readCode (n : Nat) (cs : List Char) : Option (Char × List Char) := do
  let digits := cs.take n
  if digits.length ≠ n then none
  else
    let values ← digits.mapM Json.hexDigit?
    let code := values.foldl (fun acc d => 16 * acc + d) 0
    if code < 0xd800 ∨ (0xdfff < code ∧ code < 0x110000) then
      some (Char.ofNat code, cs.drop n)
    else none

/-- The character of an escape whose backslash has been read, and the rest. -/
def readEscape : List Char → Option (Char × List Char)
  | 'b' :: rest => some ('\x08', rest)
  | 't' :: rest => some ('\t', rest)
  | 'n' :: rest => some ('\n', rest)
  | 'f' :: rest => some ('\x0c', rest)
  | 'r' :: rest => some ('\r', rest)
  | 'e' :: rest => some ('\x1b', rest)
  | '"' :: rest => some ('"', rest)
  | '\\' :: rest => some ('\\', rest)
  | 'x' :: rest => readCode 2 rest
  | 'u' :: rest => readCode 4 rest
  | 'U' :: rest => readCode 8 rest
  | _ => none

/-- The rest of a line between double quotes, in reverse onto `acc`. -/
def readBasic : Nat → List Char → List Char → Option (String × List Char)
  | 0, _, _ => none
  | fuel + 1, acc, cs =>
    match cs with
    | [] => none
    | '"' :: rest => some (String.ofList acc.reverse, rest)
    | '\\' :: rest => do
      let (c, rest) ← readEscape rest
      readBasic fuel (c :: acc) rest
    | c :: rest => if isControl c then none else readBasic fuel (c :: acc) rest

/-- The rest of a line between single quotes, in reverse onto `acc`. -/
def readLiteral (acc : List Char) : List Char → Option (String × List Char)
  | [] => none
  | c :: rest =>
    if c = '\'' then some (String.ofList acc.reverse, rest)
    else if isControl c then none
    else readLiteral (c :: acc) rest

/-- A text without the blanks and line ends at its head. -/
def skipSpace (cs : List Char) : List Char :=
  cs.dropWhile fun c => c == ' ' || c == '\t' || c == '\n' || c == '\r'

/-- What follows a backslash at the end of a line, when nothing but blanks comes before the end of
the line. -/
def afterLineEnd? (cs : List Char) : Option (List Char) :=
  match cs.dropWhile fun c => c == ' ' || c == '\t' with
  | '\n' :: rest => some (skipSpace rest)
  | '\r' :: '\n' :: rest => some (skipSpace rest)
  | _ => none

/-- The quotes at the head of a text that end a string of several lines: three, and up to two more
that belong to the string. -/
def closing? (quote : Char) (cs : List Char) : Option (List Char × List Char) :=
  let n := (cs.takeWhile (· == quote)).length
  if n < 3 then none
  else if n ≤ 5 then some (List.replicate (n - 3) quote, cs.drop n)
  else none

/-- The rest of a string of several lines, in reverse onto `acc`. -/
def readLines (quote : Char) (escapes : Bool) :
    Nat → List Char → List Char → Option (String × List Char)
  | 0, _, _ => none
  | fuel + 1, acc, cs =>
    match cs with
    | [] => none
    | '\r' :: '\n' :: rest => readLines quote escapes fuel ('\n' :: acc) rest
    | '\n' :: rest => readLines quote escapes fuel ('\n' :: acc) rest
    | c :: rest =>
      if c = quote then
        match closing? quote cs with
        | some (more, rest) => some (String.ofList (acc.reverse ++ more), rest)
        | none =>
          if 5 < (cs.takeWhile (· == quote)).length then none
          else readLines quote escapes fuel (c :: acc) rest
      else if escapes && c = '\\' then
        match afterLineEnd? rest with
        | some rest => readLines quote escapes fuel acc rest
        | none => do
          let (c, rest) ← readEscape rest
          readLines quote escapes fuel (c :: acc) rest
      else if isControl c then none
      else readLines quote escapes fuel (c :: acc) rest

/-- A text without the line end that follows the opening quotes. -/
def dropFirstLineEnd : List Char → List Char
  | '\n' :: rest => rest
  | '\r' :: '\n' :: rest => rest
  | cs => cs

/-- The string at the head of a text, of one line or several. -/
def readString (cs : List Char) : Option (String × List Char) :=
  match cs with
  | '"' :: '"' :: '"' :: rest => readLines '"' true (cs.length + 1) [] (dropFirstLineEnd rest)
  | '\'' :: '\'' :: '\'' :: rest => readLines '\'' false (cs.length + 1) [] (dropFirstLineEnd rest)
  | '"' :: rest => readBasic (cs.length + 1) [] rest
  | '\'' :: rest => readLiteral [] rest
  | _ => none

/-! ### Numbers -/

/-- Digits of a class without the underscores between them; an underscore has a digit on either
side. -/
def plainDigits (isDigit : Char → Bool) : List Char → Option (List Char)
  | [] => some []
  | [c] => if isDigit c then some [c] else none
  | c :: d :: rest =>
    if isDigit c then
      if d = '_' then
        match rest with
        | e :: _ => if isDigit e then (plainDigits isDigit rest).map (c :: ·) else none
        | [] => none
      else (plainDigits isDigit (d :: rest)).map (c :: ·)
    else none

/-- An integer with a radix written before its digits. -/
def readRadix (radix : Nat) (digits : List Char) : Option Json := do
  let ds ← plainDigits (fun c => (Json.hexDigit? c).any (· < radix)) digits
  if ds.isEmpty then none
  else
    let values ← ds.mapM Json.hexDigit?
    return .int (values.foldl (fun acc d => radix * acc + d) 0 : Nat)

/-- A sign at the head of a text, if there is one: is it a minus? -/
def readSign : List Char → Bool × Bool × List Char
  | '+' :: rest => (true, false, rest)
  | '-' :: rest => (true, true, rest)
  | cs => (false, false, cs)

/-- An exponent: an optional sign and digits. -/
def readExponent (cs : List Char) : Option Int := do
  let (_, neg, digits) := readSign cs
  let ds ← plainDigits Char.isDigit digits
  if ds.isEmpty then none
  else
    let n : Int := Decimal.ofChars 0 ds
    return if neg then -n else n

/-- A decimal integer without leading zeros. -/
def wholeDigits (cs : List Char) : Option (List Char) := do
  let ds ← plainDigits Char.isDigit cs
  if ds.isEmpty || (ds.head? == some '0' && ds.length != 1) then none else some ds

/-- A decimal number with a point or an exponent.  One beyond all doubles is refused. -/
def readFloat (neg : Bool) (cs : List Char) : Option Json := do
  let whole ← wholeDigits (cs.takeWhile fun c => c != '.' && c != 'e' && c != 'E')
  let rest := cs.dropWhile fun c => c != '.' && c != 'e' && c != 'E'
  let (fraction, rest) ← match rest with
    | '.' :: more => do
      let ds ← plainDigits Char.isDigit (more.takeWhile fun c => c != 'e' && c != 'E')
      if ds.isEmpty then none
      else some (ds, more.dropWhile fun c => c != 'e' && c != 'E')
    | _ => some ([], rest)
  let exponent ← match rest with
    | [] => some 0
    | _ :: more => readExponent more
  let x : Double := Binary.ofDecimal neg
    ⟨Decimal.ofChars 0 (whole ++ fraction), exponent - fraction.length⟩
  if x.isFinite then some (.num (.float x)) else none

/-- A number that stands alone as a word. -/
def readNumber (word : List Char) : Option Json :=
  match word with
  | '0' :: 'x' :: digits => readRadix 16 digits
  | '0' :: 'o' :: digits => readRadix 8 digits
  | '0' :: 'b' :: digits => readRadix 2 digits
  | _ =>
    let (_, neg, rest) := readSign word
    if rest = "inf".toList then some (.num (.float (.infinite neg)))
    else if rest = "nan".toList then some (.num (.float (.nan neg)))
    else if rest.any fun c => c == '.' || c == 'e' || c == 'E' then readFloat neg rest
    else (wholeDigits rest).map fun ds =>
      let n : Int := Decimal.ofChars 0 ds
      .int (if neg then -n else n)

/-! ### Dates and times -/

/-- A number of exactly `n` digits within bounds, and the rest. -/
def readField (n low high : Nat) (cs : List Char) : Option (Nat × List Char) :=
  let ds := cs.take n
  if ds.length = n ∧ ds.all Char.isDigit then
    let v := Decimal.ofChars 0 ds
    if low ≤ v ∧ v ≤ high then some (v, cs.drop n) else none
  else none

/-- The rest of a text behind a given character. -/
def readChar (c : Char) : List Char → Option (List Char)
  | d :: rest => if d = c then some rest else none
  | [] => none

/-- The number of days of a month. -/
def daysIn (year month : Nat) : Nat :=
  if month = 2 then
    if (year % 4 = 0 ∧ year % 100 ≠ 0) ∨ year % 400 = 0 then 29 else 28
  else if month = 4 ∨ month = 6 ∨ month = 9 ∨ month = 11 then 30 else 31

/-- The rest of a text behind a date. -/
def readDate (cs : List Char) : Option (List Char) := do
  let (year, cs) ← readField 4 0 9999 cs
  let (month, cs) ← readField 2 1 12 (← readChar '-' cs)
  let (_, cs) ← readField 2 1 (daysIn year month) (← readChar '-' cs)
  return cs

/-- The rest of a text behind a fraction of a second, if there is one. -/
def readFraction (cs : List Char) : Option (List Char) :=
  match cs with
  | '.' :: rest =>
    match rest with
    | d :: _ => if d.isDigit then some (rest.dropWhile Char.isDigit) else none
    | [] => none
  | _ => some cs

/-- The rest of a text behind a time of day; the seconds may be left out. -/
def readTime (cs : List Char) : Option (List Char) := do
  let (_, cs) ← readField 2 0 23 cs
  let (_, cs) ← readField 2 0 59 (← readChar ':' cs)
  match cs with
  | ':' :: rest => do
    let (_, cs) ← readField 2 0 60 rest
    readFraction cs
  | _ => some cs

/-- The rest of a text behind an offset from Coordinated Universal Time, if there is one. -/
def readOffset (cs : List Char) : Option (List Char) :=
  match cs with
  | 'Z' :: rest => some rest
  | 'z' :: rest => some rest
  | '+' :: rest => hours rest
  | '-' :: rest => hours rest
  | _ => some cs
where
  /-- Hours and minutes. -/
  hours (cs : List Char) : Option (List Char) := do
    let (_, cs) ← readField 2 0 23 cs
    let (_, cs) ← readField 2 0 59 (← readChar ':' cs)
    return cs

/-- The rest of a text behind a date, a time or both. -/
def readDateTime (cs : List Char) : Option (List Char) :=
  match readDate cs with
  | none => readTime cs
  | some rest =>
    match rest with
    | sep :: more =>
      if sep = 'T' ∨ sep = 't' then (readTime more).bind readOffset
      else if sep = ' ' ∧ more.head?.any Char.isDigit then (readTime more).bind readOffset
      else some rest
    | [] => some rest

/-- A date or time as a value. -/
def dateTimeValue (text : List Char) : Json :=
  .obj [("$__toml_private_datetime", .str (String.ofList text))]

/-- Does a text begin like a date or a time? -/
def looksLikeDateTime (cs : List Char) : Bool :=
  ((cs.take 4).length == 4 && (cs.take 4).all Char.isDigit && cs[4]? == some '-') ||
    ((cs.take 2).length == 2 && (cs.take 2).all Char.isDigit && cs[2]? == some ':')

end Dossier.Toml
