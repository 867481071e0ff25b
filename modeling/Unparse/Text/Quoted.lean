import Unparse.Text.Hex
import Unparse.Text.Visible

/-!
Text shown inside a message: in double quotes, with every character that has no shape of its own
spelled out, so that a reader sees exactly which text was refused.
-/

namespace Unparse

/-- One character of a shown text. Quotes and backslashes are escaped, four control characters have
a letter, and any other character that is not visible is given by its code point in braces. -/
def shownChar (c : Char) : List Char :=
  if c = '\x22' ∨ c = '\\' then ['\\', c]
  else if c = '\x00' then ['\\', '0']
  else if c = '\t' then ['\\', 't']
  else if c = '\n' then ['\\', 'n']
  else if c = '\r' then ['\\', 'r']
  else if isVisible c then [c]
  else ['\\', 'u', '\x7b'] ++ bareHex c.toNat ++ ['\x7d']

/-- A text as messages show it. -/
def shown (text : String) : String :=
  String.ofList ('\x22' :: text.toList.flatMap shownChar ++ ['\x22'])

end Unparse
