import Dossier.Json.Parse

/-!
# Passing over JSON

`Json.skipValue` goes past one value without keeping it.  Only the grammar counts: a number may lie
beyond all doubles, a code unit of a surrogate pair may stand without its partner, and values nest
as deep as they like.
-/

namespace Dossier.Json

/-- What follows the closing quote of a string whose opening quote has been read. -/
def skipString : List Char → Option (List Char)
  | [] => none
  | '"' :: rest => some rest
  | '\\' :: 'u' :: a :: b :: c :: d :: rest => do
    let _ ← hexFour? a b c d
    skipString rest
  | '\\' :: c :: rest => do
    let _ ← simpleEscape? c
    skipString rest
  | '\\' :: [] => none
  | c :: rest => if c.toNat < 0x20 then none else skipString rest

/-- What follows the digits after a point; without a point there are none. -/
def skipFraction (cs : List Char) : Option (List Char) :=
  match cs with
  | '.' :: rest =>
    if (rest.takeWhile Char.isDigit).isEmpty then none else some (rest.dropWhile Char.isDigit)
  | _ => some cs

/-- What follows a number whose sign has been read. -/
def skipUnsigned (cs : List Char) : Option (List Char) := do
  let whole := cs.takeWhile Char.isDigit
  if whole.isEmpty || (whole.head? == some '0' && whole.length != 1) then none
  else
    let rest ← skipFraction (cs.dropWhile Char.isDigit)
    let (_, _, rest) ← readExponent rest
    return rest

mutual

/-- What follows the value at the head of a text without leading blanks. -/
def skipValue : Nat → List Char → Option (List Char)
  | 0, _ => none
  | _, [] => none
  | fuel + 1, c :: rest =>
    if c = '"' then skipString rest
    else if c = '[' then
      match skipBlanks rest with
      | ']' :: rest => some rest
      | rest => skipItems fuel rest
    else if c = '\x7b' then
      match skipBlanks rest with
      | '\x7d' :: rest => some rest
      | rest => skipFields fuel rest
    else if c = 'n' then afterWord "ull" rest
    else if c = 't' then afterWord "rue" rest
    else if c = 'f' then afterWord "alse" rest
    else if c = '-' then skipUnsigned rest
    else skipUnsigned (c :: rest)

/-- What follows the remaining items of an array. -/
def skipItems : Nat → List Char → Option (List Char)
  | 0, _ => none
  | fuel + 1, cs => do
    let rest ← skipValue fuel cs
    match skipBlanks rest with
    | ',' :: rest => skipItems fuel (skipBlanks rest)
    | ']' :: rest => some rest
    | _ => none

/-- What follows the remaining fields of an object. -/
def skipFields : Nat → List Char → Option (List Char)
  | 0, _ => none
  | fuel + 1, cs =>
    match cs with
    | '"' :: rest => do
      let rest ← skipString rest
      match skipBlanks rest with
      | ':' :: rest => do
        let rest ← skipValue fuel (skipBlanks rest)
        match skipBlanks rest with
        | ',' :: rest => skipFields fuel (skipBlanks rest)
        | '\x7d' :: rest => some rest
        | _ => none
      | _ => none
    | _ => none

end

end Dossier.Json
