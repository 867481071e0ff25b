import Unparse.Sheet

/-!
Outlines: source as a forest of lines. The suite of a line holds the lines that stand one
indentation deeper, right below it.
-/

namespace Unparse

/-- A line and its suite. -/
inductive Outline where
  | line (text : String) (suite : List Outline)

/-- A line at a depth, counted in indentations from where the outline begins. -/
structure LaidLine where
  depth : Nat
  text : String
  deriving DecidableEq

namespace Outline

def leaf (text : String) : Outline :=
  .line text []

/-- A header that a suite must follow: where nothing is left to stand there, `pass` does. -/
def clause (header : String) (suite : List Outline) : Outline :=
  .line (header ++ ":") (if suite.isEmpty then [leaf "pass"] else suite)

mutual

/-- The lines of an outline from top to bottom, the first of them at the given depth. -/
def lines (depth : Nat) : Outline → List LaidLine
  | .line text suite => ⟨depth, text⟩ :: linesAll (depth + 1) suite

def linesAll (depth : Nat) : List Outline → List LaidLine
  | [] => []
  | o :: os => o.lines depth ++ linesAll depth os

end

end Outline

end Unparse
