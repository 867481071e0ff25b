/-!
Double precision numbers, taken apart into sign, significand and exponent.
-/

namespace Unparse

/-- A double precision number. A finite one is `± significand * 2 ^ exponent`; zero keeps its sign,
and all bit patterns that are not numbers are one value. -/
inductive Binary64 where
  | nan
  | infinity (negative : Bool)
  | finite (negative : Bool) (significand : Nat) (exponent : Int)
  deriving DecidableEq

namespace Binary64

/-- The number that 64 bits stand for: a sign bit, eleven bits of biased exponent and 52 bits of
fraction. An exponent of zeros has no implicit leading bit; one of ones is not finite. -/
def ofBits (bits : UInt64) : Binary64 :=
  let word := bits.toNat
  let negative := decide (Nat.pow 2 63 ≤ word)
  let biased : Nat := word / Nat.pow 2 52 % Nat.pow 2 11
  let fraction := word % Nat.pow 2 52
  if biased = 2047 then
    if fraction = 0 then .infinity negative else .nan
  else if biased = 0 then .finite negative fraction (-1074)
  else .finite negative (Nat.pow 2 52 + fraction) ((biased : Int) - 1075)

end Binary64

end Unparse
