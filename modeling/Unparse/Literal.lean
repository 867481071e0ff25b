import Unparse.Level
import Unparse.Number.Binary64
import Unparse.Number.Shortest
import Unparse.Text.Blank
import Unparse.Text.Hex

/-!
Literals of Python and their texts. A string stands on one line: control characters and all blanks
but the plain space are escaped.
-/

namespace Unparse

/-! ### Quoted strings -/

/-- The quote a string is written in: double when that saves the single quotes in it from being
escaped and costs nothing, single otherwise. -/
def quoteMark (cs : List Char) : Char :=
  if cs.contains '\x27' && !cs.contains '\x22' then '\x22' else '\x27'

/-- The escape of a character by its code point, in the shortest of the three widths. -/
def codeEscape (c : Char) : List Char :=
  if c.toNat < 0x100 then '\\' :: 'x' :: fixedHex 2 c.toNat
  else if c.toNat < 0x10000 then '\\' :: 'u' :: fixedHex 4 c.toNat
  else '\\' :: 'U' :: fixedHex 8 c.toNat

/-- One character inside quotes of the given mark. The plain space is the only blank that stands for
itself. -/
def quotedChar (mark c : Char) : List Char :=
  if c = '\\' ∨ c = mark then ['\\', c]
  else if c = '\t' then ['\\', 't']
  else if c = '\n' then ['\\', 'n']
  else if c = '\r' then ['\\', 'r']
  else if isControl c || isBlank c && c != ' ' then codeEscape c
  else [c]

/-- A string between quotes, on one line. -/
def quotedString (text : String) : String :=
  let mark := quoteMark text.toList
  String.ofList (mark :: text.toList.flatMap (quotedChar mark) ++ [mark])

/-! ### Doubles -/

/-- Doubles are positional from a ten thousandth up to sixteen digits before the point. -/
def doubleStyle : DecimalStyle := ⟨-4, 15⟩

/-- The text of a finite double without its sign. -/
def magnitudeText (significand : Nat) (exponent : Int) : List Char :=
  if significand = 0 then ['0', '.', '0']
  else (shortestDecimal significand exponent).text doubleStyle

/-- The text of a double. What is not finite has no literal and is written as a call. -/
def doubleText : Binary64 → String
  | .nan => "float('nan')"
  | .infinity false => "float('inf')"
  | .infinity true => "float('-inf')"
  | .finite false significand exponent => String.ofList (magnitudeText significand exponent)
  | .finite true significand exponent => String.ofList ('-' :: magnitudeText significand exponent)

/-! ### Literals -/

/-- A constant that is written out. The wildcard is the lone underscore of patterns. -/
inductive Literal where
  | int (value : Int)
  | double (value : Binary64)
  | str (value : String)
  | bool (value : Bool)
  | nothing
  | ellipsis
  | wildcard
  deriving DecidableEq

namespace Literal

def text : Literal → String
  | .int value => integerText value
  | .double value => doubleText value
  | .str value => quotedString value
  | .bool true => "True"
  | .bool false => "False"
  | .nothing => "None"
  | .ellipsis => "..."
  | .wildcard => "_"

/-- A number with a minus sign is a unary expression, a double that is not finite is a call, and any
other literal is an atom. -/
def level : Literal → Level
  | .int value => if value < 0 then .unary else .atom
  | .double (.finite true _ _) => .unary
  | .double .nan | .double (.infinity _) => .call
  | _ => .atom

/-- Whether the text is digits alone, so that a point after it would be read as part of a number. -/
def isDigits : Literal → Bool
  | .int value => 0 ≤ value
  | _ => false

end Literal

end Unparse
