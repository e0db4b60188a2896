/-!
# Powers of two and ten

Words are measured in powers of two and decimals in powers of ten.
-/

namespace Dossier

/-- The power of two, which is how many values `n` bits have. -/
def twoTo (n : Nat) : Nat := 1 <<< n

/-- The power of ten. -/
def tenTo (n : Nat) : Nat := Nat.pow 10 n

end Dossier
