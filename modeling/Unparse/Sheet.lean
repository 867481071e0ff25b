/-!
Sheets: text under construction, with a stack of indentations. Writing a line means writing the
whole stack first, so a line knows nothing about how deep it stands.
-/

namespace Unparse

/-- How source is laid out: the text of one indentation, how many of them every line begins with,
and the text of a line break. -/
structure LayoutStyle where
  indent : String := "    "
  initialDepth : Nat := 0
  newline : String := "\n"
  deriving DecidableEq

/-- A sheet: the text so far, the stack of indentations with the newest last, the text of a line
break and the indentation that a suite adds. -/
structure Sheet where
  text : String
  indents : List String
  newline : String
  unit : String
  deriving DecidableEq

namespace Sheet

def ofStyle (style : LayoutStyle) : Sheet :=
  ⟨"", List.replicate style.initialDepth style.indent, style.newline, style.indent⟩

/-- How many indentations are in force. -/
def depth (sheet : Sheet) : Nat :=
  sheet.indents.length

/-- The next lines stand one indentation deeper. -/
def indent (sheet : Sheet) (text : String) : Sheet :=
  { sheet with indents := sheet.indents ++ [text] }

/-- The newest indentation ends; where there is none, nothing happens. -/
def dedent (sheet : Sheet) : Sheet :=
  { sheet with indents := sheet.indents.dropLast }

def add (sheet : Sheet) (text : String) : Sheet :=
  { sheet with text := sheet.text ++ text }

/-- All indentations in force are written, the oldest first. -/
def addIndent (sheet : Sheet) : Sheet :=
  sheet.add (String.join sheet.indents)

def addNewline (sheet : Sheet) : Sheet :=
  sheet.add sheet.newline

theorem dedent_indent (sheet : Sheet) (text : String) : (sheet.indent text).dedent = sheet := by
  simp [indent, dedent]

theorem add_add (sheet : Sheet) (a b : String) : (sheet.add a).add b = sheet.add (a ++ b) := by
  simp [add, String.append_assoc]

theorem add_empty (sheet : Sheet) : sheet.add "" = sheet := by
  simp [add]

end Sheet

end Unparse
