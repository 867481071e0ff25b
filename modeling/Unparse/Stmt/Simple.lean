import Unparse.Expr.Build
import Unparse.Expr.Equality
import Unparse.Expr.Text

/-!
Simple statements: those that stand on one line.
-/

namespace Unparse

/-- An expression as the whole value of a statement. -/
def statementValue (value : Expr) : Expr :=
  Slot.statementValue.place value

/-- A text and an expression after it, or nothing at all. -/
def optionalText (lead : String) : Option Expr → String
  | none => ""
  | some e => lead ++ e.text

/-- An assignment, a declaration of a type, or both. -/
structure Assignment where
  target : Expr
  declared : Option Expr
  value : Option Expr
  deriving DecidableEq

namespace Assignment

/-- An assignment of which only the target is known. -/
def ofTarget (target : Expr) : Assignment :=
  ⟨target, none, none⟩

/-- The type of the target; a later one replaces it. -/
def annotate (a : Assignment) (declared : Expr) : Assignment :=
  { a with declared := some (statementValue declared) }

/-- The value; a later one replaces it. -/
def assign (a : Assignment) (value : Expr) : Assignment :=
  { a with value := some (statementValue value) }

def text (a : Assignment) : String :=
  a.target.targetText ++ optionalText ": " a.declared ++ optionalText " = " a.value

end Assignment

/-- What is raised: the exception that is being handled, or one that is named, perhaps with its
cause. Only a named exception has a cause. -/
inductive Raised where
  | again
  | exception (value : Expr) (cause : Option Expr)
  deriving DecidableEq

namespace Raised

/-- An exception without a cause, or the one that is being handled. -/
def ofException : Option Expr → Raised
  | none => .again
  | some value => .exception (statementValue value) none

/-- The cause; a later one replaces it. -/
def withCause (raised : Raised) (cause : Expr) : Except BuildError Raised :=
  match raised with
  | .again => .error .causeWithoutException
  | .exception value _ => .ok (.exception value (some (statementValue cause)))

def text : Raised → String
  | .again => "raise"
  | .exception value cause => "raise " ++ value.text ++ optionalText " from " cause

end Raised

/-- A statement that is one word. -/
inductive LoneWord where
  | pass
  | leaveLoop
  | nextRound
  deriving DecidableEq

def LoneWord.text : LoneWord → String
  | .pass => "pass"
  | .leaveLoop => "break"
  | .nextRound => "continue"

/-- A name in an import: everything, a path, or either of a path and an expression under another
name. -/
inductive ImportName where
  | star
  | path (source : ModulePath)
  | pathAlias (source : ModulePath) (name : Identifier)
  | alias (target : Expr) (name : Identifier)
  deriving DecidableEq

def ImportName.text : ImportName → String
  | .star => "*"
  | .path source => source.text
  | .pathAlias source name => source.text ++ " as " ++ name.text
  | .alias target name => target.text ++ " as " ++ name.text

/-- A statement on one line. -/
inductive SimpleStmt where
  | expression (value : Expr)
  | assignment (parts : Assignment)
  | returning (value : Option Expr)
  | raising (raised : Raised)
  | asserting (test : Expr) (message : Option Expr)
  | deleting (target : Expr)
  | loneWord (word : LoneWord)
  | globals (names : List Identifier)
  | nonlocals (names : List Identifier)
  | imports (names : List ImportName)
  | importsFrom (source : ModulePath) (names : List ImportName)
  deriving DecidableEq

namespace SimpleStmt

def mkExpression (value : Expr) : SimpleStmt :=
  .expression (statementValue value)

def mkReturn (value : Option Expr) : SimpleStmt :=
  .returning (value.map statementValue)

def mkAssert (test : Expr) (message : Option Expr) : SimpleStmt :=
  .asserting (statementValue test) (message.map statementValue)

/-- Names that belong to the module. -/
def mkGlobals (names : List Identifier) : Except BuildError SimpleStmt :=
  requireSome .globalName names .globals

/-- Names that belong to an enclosing function. -/
def mkNonlocals (names : List Identifier) : Except BuildError SimpleStmt :=
  requireSome .nonlocalName names .nonlocals

def mkImports (names : List ImportName) : Except BuildError SimpleStmt :=
  requireSome .importName names .imports

def mkImportsFrom (source : ModulePath) (names : List ImportName) : Except BuildError SimpleStmt :=
  requireSome .importName names (.importsFrom source)

def text : SimpleStmt → String
  | .expression value => value.text
  | .assignment parts => parts.text
  | .returning value => "return" ++ optionalText " " value
  | .raising raised => raised.text
  | .asserting test message => "assert " ++ test.text ++ optionalText ", " message
  | .deleting target => "del " ++ target.targetText
  | .loneWord word => word.text
  | .globals names => "global " ++ commaSeparated (names.map Identifier.text)
  | .nonlocals names => "nonlocal " ++ commaSeparated (names.map Identifier.text)
  | .imports names => "import " ++ commaSeparated (names.map ImportName.text)
  | .importsFrom source names =>
    "from " ++ source.text ++ " import " ++ commaSeparated (names.map ImportName.text)

end SimpleStmt

end Unparse
