import Dossier.Pii.Rule

/-!
# Redaction

A session replaces personal data by numbered tokens.  It remembers the number that it has given to
each value, so that one value keeps one token, and how many numbers it has given out of each kind;
values that differ in the case of ASCII letters only are one value.  The rules run one after the
other, each on what the rules before it have left.
-/

namespace Dossier.Pii

/-- The numbers that were given to values, and the last one that was given of each kind. -/
structure Session where
  assigned : List ((Kind × List Char) × Nat) := []
  counters : Kind → Nat := fun _ => 0

/-- A redacted text and how many matches were replaced in it. -/
structure Redaction where
  text : List Char
  replaced : Nat

/-- Was anything replaced? -/
def Redaction.touched (r : Redaction) : Bool := 0 < r.replaced

namespace Session

/-- A value as the session remembers it. -/
def key (kind : Kind) (value : List Char) : Kind × List Char := (kind, value.map Char.toLower)

/-- The session once a value has been replaced: a value without a number is given the next one of
its kind. -/
def remember (s : Session) (kind : Kind) (value : List Char) : Session :=
  match s.assigned.lookup (key kind value) with
  | some _ => s
  | none =>
    let n := s.counters kind + 1
    { assigned := (key kind value, n) :: s.assigned
      counters := fun k => if k = kind then n else s.counters k }

/-- The number of a value, zero if it was given none. -/
def number (s : Session) (kind : Kind) (value : List Char) : Nat :=
  (s.assigned.lookup (key kind value)).getD 0

/-- The token of a kind and a number. -/
def token (kind : Kind) (n : Nat) : List Char := s!"[{kind.label}_{n}]".toList

/-- The pieces of a text with every match replaced by its token. -/
def replace (kind : Kind) : Session → List Piece → Session × List Char × Nat
  | s, [] => (s, [], 0)
  | s, .plain c :: rest =>
    let (s, cs, n) := replace kind s rest
    (s, c :: cs, n)
  | s, .found value :: rest =>
    let s := s.remember kind value
    let (later, cs, n) := replace kind s rest
    (later, token kind (s.number kind value) ++ cs, n + 1)

/-- A text with the matches of one rule replaced. -/
def redactKind (s : Session) (r : Redaction) (kind : Kind) : Session × Redaction :=
  let (s, cs, n) := s.replace kind (kind.pattern.pieces r.text)
  (s, ⟨cs, r.replaced + n⟩)

/-- A text with all personal data replaced. -/
def redact (s : Session) (text : List Char) : Session × Redaction :=
  Kind.all.foldl (fun (s, r) kind => s.redactKind r kind) (s, ⟨text, 0⟩)

end Session

end Dossier.Pii
