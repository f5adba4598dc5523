/-!
# Magnitudes of binary64

A binary64 value has 53 significant bits, and rounding to the nearest value sends
what is halfway to the value with an even significand. Numbers from a bound on are
rounded to infinity.
-/

namespace SiteVpn.Binary64

/-- A power of two. -/
def powerOfTwo (n : Nat) : Nat := Nat.pow 2 n

/-- A power of ten. -/
def powerOfTen (n : Nat) : Nat := Nat.pow 10 n

/-- The least number that is rounded to infinity: halfway between the greatest value
and what would come after it. -/
def bound : Nat := powerOfTwo 1024 - powerOfTwo 970

/-- A number rounded to 53 significant bits. -/
def round (n : Nat) : Nat :=
  if n < powerOfTwo 53 then n
  else
    let unit := powerOfTwo (n.log2 - 52)
    let q := n / unit
    let r := n % unit
    if unit < 2 * r ∨ (unit = 2 * r ∧ q % 2 = 1) then (q + 1) * unit else q * unit

end SiteVpn.Binary64
