/-!
Text inside a format string, where braces open and close fields.
-/

namespace Unparse

/-- One character of the text of a format string. Braces are doubled, the quote and the backslash
are escaped, and so are the characters that would end or move within the line. -/
def formatTextChar (c : Char) : List Char :=
  if c = '\x7b' ∨ c = '\x7d' then [c, c]
  else if c = '\x22' ∨ c = '\\' then ['\\', c]
  else if c = '\n' then ['\\', 'n']
  else if c = '\r' then ['\\', 'r']
  else if c = '\t' then ['\\', 't']
  else [c]

/-- A text as it stands inside a format string. -/
def formatText (text : String) : String :=
  String.ofList (text.toList.flatMap formatTextChar)

end Unparse
