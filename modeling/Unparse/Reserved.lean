/-!
The words that Python keeps for itself.
-/

namespace Unparse

/-- Words that are never identifiers. -/
def reservedWords : List String :=
  ["False", "None", "True", "and", "as", "assert", "async", "await", "break", "class", "continue",
    "def", "del", "elif", "else", "except", "finally", "for", "from", "global", "if", "import",
    "in", "is", "lambda", "nonlocal", "not", "or", "pass", "raise", "return", "try", "while",
    "with", "yield"]

/-- Words that have a meaning of their own in some places and are identifiers elsewhere. -/
def contextualWords : List String :=
  ["_", "case", "match", "type"]

def isReserved (word : String) : Bool :=
  reservedWords.contains word

/-- Whether a word is reserved in some places only. -/
def isContextual (word : String) : Bool :=
  contextualWords.contains word

end Unparse
