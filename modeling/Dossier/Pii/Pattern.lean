import Dossier.Unicode.Word

/-!
# Patterns

Patterns over characters with greedy repetition, ordered choice and word boundaries.  A pattern read
from a place in a text has a list of possible ends, the preferred one first; the leftmost place with
an end is where a search finds it.
-/

namespace Dossier.Pii

/-- A pattern. -/
inductive Pattern where
  /-- One character of a class. -/
  | one (cls : Char → Bool)
  /-- A place between a word character and anything else. -/
  | boundary
  /-- As many characters of a class as there are, or fewer, from `least` to `least + extra`. -/
  | repeated (cls : Char → Bool) (least : Nat) (extra : Option Nat)
  /-- One pattern behind another. -/
  | andThen (first second : Pattern)
  /-- The first pattern, or else the second. -/
  | orElse (first second : Pattern)
  /-- The pattern, or else nothing. -/
  | optionally (inner : Pattern)

/-- A place in a text: the character before it, and what follows. -/
structure Place where
  before : Option Char
  rest : List Char

/-- The places behind up to `extra` further characters of a class, the farthest first, and behind
them the places that are nearer still. -/
def farther (cls : Char → Bool) :
    List Place → Option Nat → Option Char → List Char → List Place
  | nearer, _, before, [] => ⟨before, []⟩ :: nearer
  | nearer, extra, before, c :: rest =>
    let here : Place := ⟨before, c :: rest⟩
    if cls c && extra != some 0 then
      farther cls (here :: nearer) (extra.map (· - 1)) (some c) rest
    else here :: nearer

/-- The place behind `n` characters of a class. -/
def exactly (cls : Char → Bool) : Nat → Place → Option Place
  | 0, place => some place
  | n + 1, ⟨_, c :: rest⟩ => if cls c then exactly cls n ⟨some c, rest⟩ else none
  | _ + 1, ⟨_, []⟩ => none

namespace Pattern

/-- The places at which a pattern can end, the preferred one first. -/
def ends : Pattern → Place → List Place
  | one cls, place => (exactly cls 1 place).toList
  | boundary, place => if Unicode.isBoundary place.before place.rest.head? then [place] else []
  | repeated cls least extra, place =>
    match exactly cls least place with
    | some place => farther cls [] extra place.before place.rest
    | none => []
  | andThen first second, place => (first.ends place).flatMap second.ends
  | orElse first second, place => first.ends place ++ second.ends place
  | optionally inner, place => inner.ends place ++ [place]

/-- The length of the preferred match at a place, if there is one that is not empty. -/
def matchLength? (p : Pattern) (place : Place) : Option Nat :=
  match (p.ends place).head? with
  | some stop =>
    if stop.rest.length < place.rest.length then some (place.rest.length - stop.rest.length) else none
  | none => none

end Pattern

/-- A part of a text: a character outside all matches, or a match. -/
inductive Piece where
  | plain (c : Char)
  | found (cs : List Char)
deriving DecidableEq

namespace Piece

/-- The characters of a part. -/
def chars : Piece → List Char
  | plain c => [c]
  | found cs => cs

end Piece

namespace Pattern

/-- The text behind the first `skip` characters of a match cut into matches and other characters;
`held` holds the characters of that match in reverse. -/
def piecesFrom (p : Pattern) : Nat → List Char → Option Char → List Char → List Piece
  | _, held, _, [] => if held.isEmpty then [] else [.found held.reverse]
  | skip + 1, held, _, c :: rest => piecesFrom p skip (c :: held) (some c) rest
  | 0, held, before, c :: rest =>
    let more := match p.matchLength? ⟨before, c :: rest⟩ with
      | some n => piecesFrom p (n - 1) [c] (some c) rest
      | none => .plain c :: piecesFrom p 0 [] (some c) rest
    if held.isEmpty then more else .found held.reverse :: more

/-- A text cut into the matches of a pattern, from left to right, and the characters between
them. -/
def pieces (p : Pattern) (cs : List Char) : List Piece := piecesFrom p 0 [] none cs

/-- Does the pattern match at some place behind `before`? -/
def occursFrom (p : Pattern) : Option Char → List Char → Bool
  | before, [] => (p.ends ⟨before, []⟩).head?.isSome
  | before, c :: rest =>
    (p.ends ⟨before, c :: rest⟩).head?.isSome || occursFrom p (some c) rest

/-- Does the pattern match anywhere in a text? -/
def occursIn (p : Pattern) (cs : List Char) : Bool := p.occursFrom none cs

end Pattern

end Dossier.Pii
