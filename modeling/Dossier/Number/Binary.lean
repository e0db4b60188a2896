import Dossier.Number.Power

/-!
# Binary floating-point numbers

A binary interchange format is given by three numbers (`BinaryFormat`), and a number of that format
is a signed not-a-number, a signed infinity or a signed finite magnitude (`Binary`).  A finite
magnitude is named by its *rank*: its place among the finite magnitudes of the format in increasing
order, zero having rank zero.  Ranks make the order of magnitudes the order of natural numbers, and
they make the representation unique.

All arithmetic is exact integer arithmetic followed by one rounding, `Binary.round`: the nearest
number of the format, ties going to the even rank.
-/

namespace Dossier

/-- A binary interchange format: how many bits of the significand are stored, how far below one the
least positive magnitude `2 ^ -depth` lies, and how many binades hold finite numbers. -/
structure BinaryFormat where
  fraction : Nat
  depth : Nat
  binades : Nat
deriving DecidableEq

namespace BinaryFormat

/-- Single precision: 32 bits. -/
def single : BinaryFormat := ⟨23, 149, 255⟩

/-- Double precision: 64 bits. -/
def double : BinaryFormat := ⟨52, 1074, 2047⟩

/-- The number of finite magnitudes of a format. -/
def limit (F : BinaryFormat) : Nat := F.binades * twoTo F.fraction

/-- The magnitude of rank `r`, counted in units of `2 ^ -depth`. -/
def units (F : BinaryFormat) (r : Nat) : Nat :=
  let binade := r / twoTo F.fraction
  if binade = 0 then r else (r % twoTo F.fraction + twoTo F.fraction) <<< (binade - 1)

end BinaryFormat

/-- The natural number nearest to `n / d`, a half going to the even neighbour. -/
def nearest (n d : Nat) : Nat :=
  let q := n / d
  let r := n % d
  if 2 * r < d then q else if d < 2 * r then q + 1 else if q % 2 = 0 then q else q + 1

/-- The integer part of the square root. -/
def squareRoot (n : Nat) : Nat :=
  if n < 2 then n
  else
    let r := 2 * squareRoot (n / 4)
    if (r + 1) * (r + 1) ≤ n then r + 1 else r
termination_by n
decreasing_by omega

/-- A number of the binary format `F`. -/
inductive Binary (F : BinaryFormat) where
  | nan (neg : Bool)
  | infinite (neg : Bool)
  | finite (neg : Bool) (rank : Fin F.limit)
deriving DecidableEq

/-- A single-precision number. -/
abbrev Single := Binary .single

/-- A double-precision number. -/
abbrev Double := Binary .double

namespace Binary

variable {F : BinaryFormat}

/-- The number with a given sign and rank, an infinity when no finite magnitude has that rank. -/
def ofRank (neg : Bool) (r : Nat) : Binary F :=
  if h : r < F.limit then .finite neg ⟨r, h⟩ else .infinite neg

/-- The number nearest to `n / d` units of `2 ^ -depth`, a half going to the even rank. -/
def round (neg : Bool) (n d : Nat) : Binary F :=
  let binade := (n / d).log2 - F.fraction
  ofRank neg (binade * twoTo F.fraction + nearest n (d <<< binade))

/-- Zero. -/
def zero : Binary F := ofRank false 0

instance : Inhabited (Binary F) := ⟨zero⟩

/-- The number nearest to a natural number. -/
def ofNat (n : Nat) : Binary F := round false (n <<< F.depth) 1

/-- The number nearest to an integer. -/
def ofInt (n : Int) : Binary F := round (decide (n < 0)) (n.natAbs <<< F.depth) 1

/-- The number nearest to the quotient of two natural numbers. -/
def ofRatio (n d : Nat) : Binary F := round false (n <<< F.depth) d

/-- Is this a not-a-number? -/
def isNaN : Binary F → Bool
  | nan _ => true
  | _ => false

/-- Is this a finite number? -/
def isFinite : Binary F → Bool
  | finite .. => true
  | _ => false

/-- The number with the opposite sign. -/
def neg : Binary F → Binary F
  | nan s => nan !s
  | infinite s => infinite !s
  | finite s r => finite (!s) r

instance : Neg (Binary F) := ⟨neg⟩

/-- A signed count of units. -/
def signed (neg : Bool) (n : Nat) : Int := if neg then -(n : Int) else n

/-- The sum, rounded once.  An exact zero is positive unless both summands carry a minus sign, and
infinities of opposite sign have no sum. -/
def add : Binary F → Binary F → Binary F
  | nan s, _ => nan s
  | _, nan s => nan s
  | infinite s, infinite t => if s = t then infinite s else nan true
  | infinite s, finite .. => infinite s
  | finite .., infinite t => infinite t
  | finite s a, finite t b =>
    let total := signed s (F.units a) + signed t (F.units b)
    if total = 0 then ofRank (s && t) 0 else round (decide (total < 0)) total.natAbs 1

instance : Add (Binary F) := ⟨add⟩

instance : Sub (Binary F) := ⟨fun x y => x + -y⟩

/-- The product, rounded once.  Zero times an infinity has no value. -/
def mul : Binary F → Binary F → Binary F
  | nan s, _ => nan s
  | _, nan s => nan s
  | infinite s, infinite t => infinite (s != t)
  | infinite s, finite t b => if b.val = 0 then nan true else infinite (s != t)
  | finite s a, infinite t => if a.val = 0 then nan true else infinite (s != t)
  | finite s a, finite t b => round (s != t) (F.units a * F.units b) (1 <<< F.depth)

instance : Mul (Binary F) := ⟨mul⟩

/-- The quotient, rounded once.  A nonzero number over zero is infinite; zero over zero and an
infinity over an infinity have no value. -/
def div : Binary F → Binary F → Binary F
  | nan s, _ => nan s
  | _, nan s => nan s
  | infinite _, infinite _ => nan true
  | infinite s, finite t _ => infinite (s != t)
  | finite s _, infinite t => ofRank (s != t) 0
  | finite s a, finite t b =>
    if b.val = 0 then if a.val = 0 then nan true else infinite (s != t)
    else round (s != t) (F.units a <<< F.depth) (F.units b)

instance : Div (Binary F) := ⟨div⟩

/-- The square root, rounded once.  Half a unit stands in for the part of the root below the integer
square root, which lies far below the last place. -/
def sqrt : Binary F → Binary F
  | nan s => nan s
  | infinite s => if s then nan true else infinite false
  | finite s a =>
    if a.val = 0 then finite s a
    else if s then nan true
    else
      let n := F.units a <<< F.depth
      let r := squareRoot n
      round false (2 * r + if r * r < n then 1 else 0) 2

/-! ### Order -/

/-- The place of a number among all numbers that are not NaN; both zeros have place zero. -/
def place? : Binary F → Option Int
  | nan _ => none
  | infinite s => some (signed s F.limit)
  | finite s r => some (signed s r)

/-- Numerical comparison; a NaN compares with nothing. -/
def compare? (x y : Binary F) : Option Ordering :=
  match x.place?, y.place? with
  | some a, some b => some (compare a b)
  | _, _ => none

/-- Is `x` numerically less than `y`? -/
def lt (x y : Binary F) : Bool := x.compare? y == some .lt

/-- Is `x` numerically at most `y`? -/
def le (x y : Binary F) : Bool := x.compare? y == some .lt || x.compare? y == some .eq

/-- The place of a number in the total order of all numbers, in which the negative zero lies below
the positive one and the NaNs lie outside the infinities, on the side of their sign. -/
def totalPlace : Binary F → Int
  | nan s => if s then -(F.limit : Int) - 2 else F.limit + 1
  | infinite s => if s then -(F.limit : Int) - 1 else F.limit
  | finite s r => if s then -(r : Int) - 1 else r

/-- Comparison in the total order of all numbers. -/
def totalCompare (x y : Binary F) : Ordering := compare x.totalPlace y.totalPlace

/-- The number moved into the interval from `low` to `high`; a NaN stays what it is. -/
def clamp (x low high : Binary F) : Binary F :=
  if x.lt low then low else if high.lt x then high else x

/-- The larger of two numbers, the second when the first is a NaN or not larger. -/
def max (x y : Binary F) : Binary F :=
  if x.isNaN then y else if y.isNaN then x else if y.lt x then x else y

/-- The number of another format nearest to this one. -/
def convert {G : BinaryFormat} : Binary F → Binary G
  | nan s => nan s
  | infinite s => infinite s
  | finite s r => round s (F.units r <<< G.depth) (1 <<< F.depth)

end Binary

namespace Single

/-- One. -/
def one : Single := Binary.ofNat 1

/-- Minus one. -/
def negOne : Single := -one

/-- The distance from one to the next larger single-precision number. -/
def epsilon : Single := Binary.ofRatio 1 (twoTo 23)

end Single

end Dossier
