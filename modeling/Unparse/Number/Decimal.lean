/-!
Decimal text: integers, and finite decimals in positional or scientific form.
-/

namespace Unparse

/-- The decimal digits of a natural number, the most significant first. -/
def decimalDigits (n : Nat) : List Char :=
  Nat.toDigits 10 n

/-- The decimal text of an integer; a negative one begins with a minus sign. -/
def integerText : Int → String
  | .ofNat n => String.ofList (decimalDigits n)
  | .negSucc n => String.ofList ('-' :: decimalDigits (n + 1))

/-- The number `digits * 10 ^ exponent`. -/
structure Decimal where
  digits : Nat
  exponent : Int
  deriving DecidableEq

/-- How a decimal is laid out: the scientific exponents that are still written positionally. -/
structure DecimalStyle where
  leastPositional : Int
  greatestPositional : Int

namespace Decimal

/-- The exponent that remains when the point stands after the first digit. -/
def scientificExponent (d : Decimal) : Int :=
  d.exponent + (decimalDigits d.digits).length - 1

/-- Positional form, with at least one digit on either side of the point. -/
def positionalText (d : Decimal) : List Char :=
  let digits := decimalDigits d.digits
  if 0 ≤ d.exponent then
    digits ++ List.replicate d.exponent.toNat '0' ++ ['.', '0']
  else if 0 ≤ d.scientificExponent then
    let whole := d.scientificExponent.toNat + 1
    digits.take whole ++ '.' :: digits.drop whole
  else
    ['0', '.'] ++ List.replicate (-d.scientificExponent - 1).toNat '0' ++ digits

/-- Scientific form: a point only when digits follow it, an exponent without plus sign. -/
def scientificText (d : Decimal) : List Char :=
  let fraction := (decimalDigits d.digits).drop 1
  (decimalDigits d.digits).take 1 ++ (if fraction.isEmpty then [] else '.' :: fraction) ++
    'e' :: (integerText d.scientificExponent).toList

/-- Positional or scientific form, as the style asks for this size of number. -/
def text (style : DecimalStyle) (d : Decimal) : List Char :=
  if style.leastPositional ≤ d.scientificExponent ∧
      d.scientificExponent ≤ style.greatestPositional then
    d.positionalText
  else d.scientificText

end Decimal

end Unparse
