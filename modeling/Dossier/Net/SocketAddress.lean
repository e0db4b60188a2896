import Dossier.Json.Parse
import Dossier.Number.Power

/-!
# Socket addresses

A socket address is an address of the Internet Protocol, version 4 or 6, with a port.
-/

namespace Dossier.Net

/-- An address of the Internet Protocol: four bytes, or eight groups of 16 bits. -/
inductive IpAddress where
  | v4 (bytes : List Nat)
  | v6 (groups : List Nat)
deriving DecidableEq

/-- An address with a port. -/
structure SocketAddress where
  ip : IpAddress
  port : Nat
deriving DecidableEq

/-- Does an address lead back to the host itself? -/
def IpAddress.isLoopback : IpAddress → Bool
  | v4 bytes => bytes.head? == some 127
  | v6 groups => groups == [0, 0, 0, 0, 0, 0, 0, 1]

/-- The number at the head of a text in digits of a radix, below a bound, and the rest; `most`
bounds the number of digits. -/
def readNumber (radix bound most : Nat) (cs : List Char) : Option (Nat × List Char) :=
  let isDigit := fun c => (Json.hexDigit? c).any (· < radix)
  let ds := cs.takeWhile isDigit
  if ds.isEmpty || most < ds.length then none
  else
    let n := ds.foldl (fun acc c => radix * acc + (Json.hexDigit? c).getD 0) 0
    if n < bound then some (n, cs.dropWhile isDigit) else none

/-- A decimal byte without leading zeros at the head of a text, and the rest. -/
def readByte (cs : List Char) : Option (Nat × List Char) :=
  match readNumber 10 256 3 cs with
  | some (n, rest) =>
    if cs.head? = some '0' ∧ cs.length - rest.length ≠ 1 then none else some (n, rest)
  | none => none

/-- Four bytes joined by points at the head of a text, and the rest. -/
def readV4 (cs : List Char) : Option (List Nat × List Char) := do
  let (a, cs) ← readByte cs
  let '.' :: cs := cs | none
  let (b, cs) ← readByte cs
  let '.' :: cs := cs | none
  let (c, cs) ← readByte cs
  let '.' :: cs := cs | none
  let (d, cs) ← readByte cs
  return ([a, b, c, d], cs)

/-- At most `limit` groups joined by colons at the head of a text, whether an address of version 4
stands for the last two of them, and the rest. -/
def readGroups : Nat → Bool → List Char → List Nat × Bool × List Char
  | 0, _, cs => ([], false, cs)
  | limit + 1, first, cs =>
    let body := if first then some cs else match cs with
      | ':' :: rest => some rest
      | _ => none
    match body with
    | none => ([], false, cs)
    | some rest =>
      match if 0 < limit then readV4 rest else none with
      | some ([a, b, c, d], rest) => ([a * 256 + b, c * 256 + d], true, rest)
      | _ =>
        match readNumber 16 (twoTo 16) 4 rest with
        | some (g, rest) =>
          let (more, mixed, rest) := readGroups limit false rest
          (g :: more, mixed, rest)
        | none => ([], false, cs)

/-- Eight groups at the head of a text, a double colon standing for as many zeros as are missing,
and the rest.  No address of version 4 may stand before a double colon. -/
def readV6 (cs : List Char) : Option (List Nat × List Char) :=
  let (head, mixed, rest) := readGroups 8 true cs
  if head.length = 8 then some (head, rest)
  else if mixed then none
  else
    match rest with
    | ':' :: ':' :: rest =>
      let (tail, _, rest) := readGroups (7 - head.length) true rest
      some (head ++ List.replicate (8 - head.length - tail.length) 0 ++ tail, rest)
    | _ => none

/-- A colon and a port at the head of a text, and the rest. -/
def readPort : List Char → Option (Nat × List Char)
  | ':' :: rest => readNumber 10 (twoTo 16) rest.length rest
  | _ => none

/-- The rest of a text behind a percent sign and the number of a scope, if they stand there. -/
def skipScope : List Char → Option (List Char)
  | '%' :: rest => (readNumber 10 (twoTo 32) rest.length rest).map (·.2)
  | cs => some cs

/-- The socket address that a text stands for. -/
def SocketAddress.parse (s : String) : Option SocketAddress :=
  match s.toList with
  | '[' :: cs => do
    let (groups, cs) ← readV6 cs
    let cs ← skipScope cs
    let ']' :: cs := cs | none
    let (port, cs) ← readPort cs
    if cs.isEmpty then some ⟨.v6 groups, port⟩ else none
  | cs => do
    let (bytes, cs) ← readV4 cs
    let (port, cs) ← readPort cs
    if cs.isEmpty then some ⟨.v4 bytes, port⟩ else none

/-- The wording of a failure to read a socket address. -/
def SocketAddress.parseMessage : String := "invalid socket address syntax"

end Dossier.Net
