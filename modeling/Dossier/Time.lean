/-!
# Points in time

A point in time is a count of nanoseconds from the beginning of 1970, and a span of time is a count
of nanoseconds.  `Instant.text` is the date and time of day in Coordinated Universal Time.
-/

namespace Dossier

/-- A point in time, in nanoseconds from the beginning of 1970. -/
structure Instant where
  nanos : Int
deriving DecidableEq, Inhabited, Ord

namespace Instant

/-- The nanoseconds in a second. -/
def perSecond : Int := 1000000000

/-- The point in time a number of seconds after the beginning of 1970. -/
def ofSeconds (s : Int) : Instant := ⟨s * perSecond⟩

/-- The whole seconds since the beginning of 1970, rounded down. -/
def seconds (t : Instant) : Int := t.nanos.fdiv perSecond

/-- The nanoseconds from `u` to `t`. -/
def since (t u : Instant) : Int := t.nanos - u.nanos

/-- Year, month and day of a day counted from the first of January 1970. -/
def civil (day : Int) : Int × Int × Int :=
  let z := day + 719468
  let era := z.fdiv 146097
  let dayOfEra := z - era * 146097
  let yearOfEra :=
    (dayOfEra - dayOfEra.fdiv 1460 + dayOfEra.fdiv 36524 - dayOfEra.fdiv 146096).fdiv 365
  let dayOfYear := dayOfEra - (365 * yearOfEra + yearOfEra.fdiv 4 - yearOfEra.fdiv 100)
  let shifted := (5 * dayOfYear + 2).fdiv 153
  let month := if shifted < 10 then shifted + 3 else shifted - 9
  let year := yearOfEra + era * 400 + if month ≤ 2 then 1 else 0
  (year, month, dayOfYear - (153 * shifted + 2).fdiv 5 + 1)

/-- The calendar year. -/
def year (t : Instant) : Int := (civil (t.seconds.fdiv 86400)).1

/-- A number padded with zeros to a width. -/
def padded (width : Nat) (n : Int) : String :=
  let ds := (toString n.natAbs).toList
  String.ofList (List.replicate (width - ds.length) '0' ++ ds)

/-- The digits of a fraction of a second without trailing zeros, behind a point. -/
def fractionText (nanos : Int) : String :=
  if nanos = 0 then ""
  else
    let ds := (padded 9 nanos).toList
    "." ++ String.ofList (ds.reverse.dropWhile (· == '0')).reverse

/-- Date and time of day, as `1970-01-01T00:00:00Z`. -/
def text (t : Instant) : String :=
  let s := t.seconds
  let (y, m, d) := civil (s.fdiv 86400)
  let ofDay := s.fmod 86400
  padded 4 y ++ "-" ++ padded 2 m ++ "-" ++ padded 2 d ++ "T" ++ padded 2 (ofDay.fdiv 3600) ++ ":" ++
    padded 2 ((ofDay.fmod 3600).fdiv 60) ++ ":" ++ padded 2 (ofDay.fmod 60) ++
    fractionText (t.nanos.fmod perSecond) ++ "Z"

end Instant

end Dossier
