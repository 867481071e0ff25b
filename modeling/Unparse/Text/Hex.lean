/-!
Hexadecimal digits in lowercase, as escapes write them.
-/

namespace Unparse

/-- The last `width` hexadecimal digits of a number, with leading zeros. -/
def fixedHex : Nat → Nat → List Char
  | 0, _ => []
  | width + 1, n => fixedHex width (n / 16) ++ [Nat.digitChar (n % 16)]

theorem length_fixedHex (width n : Nat) : (fixedHex width n).length = width := by
  induction width generalizing n with
  | zero => rfl
  | succ width ih => simp [fixedHex, ih]

/-- All hexadecimal digits of a number, without leading zeros. -/
def bareHex (n : Nat) : List Char :=
  Nat.toDigits 16 n

end Unparse
