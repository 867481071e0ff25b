import Unparse.Sheet
import Unparse.Stmt.Basic
import Unparse.Stmt.Equality

/-!
The text of statements, written on a sheet line by line. A suite is opened with a colon, a line
break and one more indentation, and it is closed by taking that indentation back.
-/

namespace Unparse

namespace Sheet

/-- A line is begun: the indentations in force and a text. -/
def beginLine (sheet : Sheet) (text : String) : Sheet :=
  sheet.addIndent.add text

/-- The suite of the line that the sheet ends with. Where nothing would stand in it, `pass` does. -/
def addSuite (sheet : Sheet) (blank : Bool) (write : Sheet → Sheet) : Sheet :=
  let opened := (sheet.add ":").addNewline.indent sheet.unit
  (if blank then opened.beginLine "pass" else write opened).dedent

/-- Lines of which each is followed by a line break. -/
def addLines (sheet : Sheet) : List String → Sheet
  | [] => sheet
  | text :: texts => (sheet.beginLine text).addNewline.addLines texts

mutual

/-- A statement at the indentation in force. The sheet ends with the statement's last line, which is
not broken yet. A `try` that would have neither a handler nor a cleanup gets an empty cleanup. -/
def writeStmt (sheet : Sheet) : Stmt → Sheet
  | .simple statement => sheet.beginLine statement.text
  | .branch test body arms orElse =>
    (((sheet.beginLine ("if " ++ test.text)).addSuite (allBlank body)
      (·.writeBody true body)).writeArms arms).writeClause "else" orElse
  | .forLoop header body orElse =>
    ((sheet.beginLine header.text).addSuite (allBlank body)
      (·.writeBody true body)).writeClause "else" orElse
  | .whileLoop test body orElse =>
    ((sheet.beginLine ("while " ++ test.text)).addSuite (allBlank body)
      (·.writeBody true body)).writeClause "else" orElse
  | .tryBlock parts => sheet.writeTry parts
  | .withBlock header body =>
    (sheet.beginLine header.text).addSuite (allBlank body) (·.writeBody true body)
  | .matchBlock subject cases =>
    let opened := ((sheet.beginLine ("match " ++ subject.text)).add ":").indent sheet.unit
    (if cases.isEmpty then opened.addNewline.beginLine "pass" else opened.writeCases cases).dedent
  | .functionDef header body =>
    ((sheet.addLines (decoratorTexts header.decorators)).beginLine header.text).addSuite
      (allBlank body) (·.writeBody true body)
  | .classDef header body =>
    ((sheet.addLines (decoratorTexts header.decorators)).beginLine header.text).addSuite
      (allBlank body) (·.writeBody true body)
  | .block body => sheet.writeBody true body

/-- Statements one below the other. Blank ones are passed over, and a line break stands before each
of the others but the first. -/
def writeBody (sheet : Sheet) (first : Bool) : List Stmt → Sheet
  | [] => sheet
  | s :: ss =>
    if s.isBlank then sheet.writeBody first ss
    else ((if first then sheet else sheet.addNewline).writeStmt s).writeBody false ss

/-- A clause that is one word, if it is there, on a new line. -/
def writeClause (sheet : Sheet) (word : String) : Option (List Stmt) → Sheet
  | none => sheet
  | some body =>
    (sheet.addNewline.beginLine word).addSuite (allBlank body) (·.writeBody true body)

def writeArm (sheet : Sheet) : ElifArm → Sheet
  | ⟨test, body⟩ =>
    (sheet.beginLine ("elif " ++ test.text)).addSuite (allBlank body) (·.writeBody true body)

/-- The clauses of further conditions, each on a new line. -/
def writeArms (sheet : Sheet) : List ElifArm → Sheet
  | [] => sheet
  | a :: as => (sheet.addNewline.writeArm a).writeArms as

def writeHandler (sheet : Sheet) : Handler → Sheet
  | ⟨header, body⟩ =>
    (sheet.beginLine header.text).addSuite (allBlank body) (·.writeBody true body)

/-- The clauses of handlers, each on a new line. -/
def writeHandlers (sheet : Sheet) : List Handler → Sheet
  | [] => sheet
  | h :: hs => (sheet.addNewline.writeHandler h).writeHandlers hs

def writeCase (sheet : Sheet) : MatchCase → Sheet
  | ⟨header, body⟩ =>
    (sheet.beginLine header.text).addSuite (allBlank body) (·.writeBody true body)

/-- The clauses of cases, each on a new line. -/
def writeCases (sheet : Sheet) : List MatchCase → Sheet
  | [] => sheet
  | c :: cs => (sheet.addNewline.writeCase c).writeCases cs

def writeTry (sheet : Sheet) : Try → Sheet
  | ⟨body, handlers, orElse, cleanup⟩ =>
    let written := ((((sheet.beginLine "try").addSuite (allBlank body)
      (·.writeBody true body)).writeHandlers handlers).writeClause "else" orElse).writeClause
        "finally" cleanup
    if handlers.isEmpty && cleanup.isNone then
      (written.addNewline.beginLine "finally").addSuite true id
    else written

end

/-- Statements written one below the other, at the indentation in force. -/
def writeStmts (sheet : Sheet) (body : List Stmt) : Sheet :=
  sheet.writeBody true body

end Sheet

namespace Stmt

/-- The text of a statement in the usual style. -/
def text (s : Stmt) : String :=
  ((Sheet.ofStyle {}).writeStmt s).text

/-- The text of a statement below the given number of indentations, which its suites add to. -/
def indented (s : Stmt) (depth : Nat) (unit : String) : String :=
  ((Sheet.ofStyle { indent := unit, initialDepth := depth }).writeStmt s).text

end Stmt

structure SourceFile where
  body : List Stmt
  deriving DecidableEq

namespace SourceFile

def blank : SourceFile :=
  ⟨[]⟩

/-- The text of a file in the given style. Nothing follows the last line. -/
def render (file : SourceFile) (style : LayoutStyle) : String :=
  ((Sheet.ofStyle style).writeStmts file.body).text

end SourceFile

end Unparse
