import Dossier.Number.Binary

/-!
# Natural logarithm

The logarithm of a positive number is computed in fixed point with 96 bits behind the point, from
the series `ln ((1 + z) / (1 - z)) = 2 (z + z^3 / 3 + z^5 / 5 + ...)`, and then rounded once.
-/

namespace Dossier.Logarithm

/-- The unit of the fixed point. -/
def unit : Nat := twoTo 96

/-- The sum of `power / odd + power z^2 / (odd + 2) + ...`, all in fixed point. -/
def series : Nat → Nat → Nat → Nat → Nat
  | 0, _, _, _ => 0
  | fuel + 1, square, power, odd =>
    power / odd + series fuel square (power * square / unit) (odd + 2)

/-- The logarithm of `(1 + z) / (1 - z)` for `z` in fixed point, at most a third. -/
def ofRatio (z : Nat) : Nat := 2 * series 40 (z * z / unit) z 1

/-- The logarithm of two. -/
def ofTwo : Nat := ofRatio (unit / 3)

/-- The logarithm of a magnitude of `n / 2 ^ depth`, for positive `n`: that of the power of two
below it, and that of what remains between one and two. -/
def ofUnits (depth n : Nat) : Int :=
  let top := n.log2
  let whole := twoTo top
  ((top : Int) - depth) * ofTwo + ofRatio ((n - whole) * unit / (n + whole))

end Dossier.Logarithm

namespace Dossier

/-- The natural logarithm.  Zero has a negative infinity, and a negative number no logarithm. -/
def Binary.log {F : BinaryFormat} : Binary F → Binary F
  | .nan s => .nan s
  | .infinite s => if s then .nan true else .infinite false
  | .finite s r =>
    if r.val = 0 then .infinite true
    else if s then .nan true
    else
      let value := Logarithm.ofUnits F.depth (F.units r)
      .round (decide (value < 0)) (value.natAbs <<< F.depth) Logarithm.unit

end Dossier
