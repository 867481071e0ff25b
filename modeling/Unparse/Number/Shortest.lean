import Unparse.Number.Decimal

/-!
The fewest decimal digits that still read back as a given binary number.

A positive number `significand * 2 ^ exponent` is read back from every decimal in its rounding
interval. The grids of multiples of `10 ^ k` are tried from coarse to fine; if a grid has a point in
the interval, one of the two neighbours of the number on that grid is such a point.
-/

namespace Unparse

/-- The reals that round to one binary number, in multiples of `2 ^ exponent`. The ends belong to
the interval when it is closed. -/
structure RoundingInterval where
  low : Nat
  value : Nat
  high : Nat
  exponent : Int
  closed : Bool

namespace RoundingInterval

/-- The interval around `significand * 2 ^ exponent`, in quarters of its last bit. It reaches half a
bit to either side, but only a quarter down from a power of two, where the numbers below stand twice
as close. A number with an even significand wins the ties at both ends. -/
def around (significand : Nat) (exponent : Int) : RoundingInterval where
  low := 4 * significand - if significand = Nat.pow 2 52 ∧ -1074 < exponent then 1 else 2
  value := 4 * significand
  high := 4 * significand + 2
  exponent := exponent - 2
  closed := significand % 2 = 0

/-- `10 ^ k` as a multiple of the common unit that the interval and the grid are measured in. -/
def gridStep (interval : RoundingInterval) (k : Int) : Nat :=
  Nat.pow 10 k.toNat * Nat.pow 2 (-interval.exponent).toNat

/-- The interval's own unit as a multiple of that common unit. -/
def unitStep (interval : RoundingInterval) (k : Int) : Nat :=
  Nat.pow 2 interval.exponent.toNat * Nat.pow 10 (-k).toNat

/-- Whether `digits * 10 ^ k` lies in the interval. -/
def admits (interval : RoundingInterval) (k : Int) (digits : Nat) : Bool :=
  let point := digits * interval.gridStep k
  let low := interval.low * interval.unitStep k
  let high := interval.high * interval.unitStep k
  if interval.closed then low ≤ point && point ≤ high else low < point && point < high

/-- The neighbour of the value on the grid of `10 ^ k` that lies in the interval; of two the nearer
one, and the upper one when both are equally near. -/
def neighbour? (interval : RoundingInterval) (k : Int) : Option Nat :=
  let value := interval.value * interval.unitStep k
  let below := value / interval.gridStep k
  let above := below + 1
  match interval.admits k below, interval.admits k above with
  | true, true =>
    if above * interval.gridStep k - value ≤ value - below * interval.gridStep k then some above
    else some below
  | true, false => some below
  | false, true => some above
  | false, false => none

end RoundingInterval

/-- An exponent of ten whose power is no smaller than `significand * 2 ^ exponent`: the number is
below a power of two, and `30103 / 100000` is the logarithm of two to the base ten, rounded up. -/
def decimalCeiling (significand : Nat) (exponent : Int) : Int :=
  (significand.log2 + 1 + exponent) * 30103 / 100000 + 1

/-- The shortest decimal that reads back as `significand * 2 ^ exponent`. Seventeen digits always
suffice, so the grids from the ceiling down to twenty digits hold it. -/
def shortestDecimal (significand : Nat) (exponent : Int) : Decimal :=
  let interval := RoundingInterval.around significand exponent
  let ceiling := decimalCeiling significand exponent
  let found := (List.range 20).findSome? fun (i : Nat) =>
    (interval.neighbour? (ceiling - i)).map fun digits => ⟨digits, ceiling - i⟩
  found.getD ⟨0, 0⟩

end Unparse
