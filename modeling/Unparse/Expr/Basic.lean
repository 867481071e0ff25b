import Unparse.Literal
import Unparse.ModulePath
import Unparse.Slot

/-!
Expressions of Python. A tree holds its parentheses as nodes of their own: a node's constructor says
nothing about them, and the functions that build trees place them where a slot asks for them.
-/

namespace Unparse

/-- The displays: brackets around a list of elements. -/
inductive DisplayForm where
  | list
  | set
  | dict
  | tuple
  deriving DecidableEq

/-- The comprehensions: brackets around an element and its clauses. -/
inductive ComprehensionForm where
  | list
  | set
  | dict
  | generator
  deriving DecidableEq

/-- How the value of a format field is turned into text. -/
inductive Conversion where
  | none
  | ascii
  | repr
  | str
  deriving DecidableEq

namespace Conversion

def all : List Conversion :=
  [.none, .ascii, .repr, .str]

/-- The letter of a conversion; to convert nothing takes no letter. -/
def letter : Conversion → String
  | .none => ""
  | .ascii => "a"
  | .repr => "r"
  | .str => "s"

/-- What follows the value of a field: an exclamation mark and the letter. -/
def text : Conversion → String
  | .none => ""
  | conversion => "!" ++ conversion.letter

/-- Whether a text names a conversion: by its letter, or by the letter after an exclamation mark. -/
def isNamed (conversion : Conversion) (text : String) : Bool :=
  conversion.letter == text || "!" ++ conversion.letter == text

/-- The conversion that a text names; the refusal carries the text as it was given. -/
def ofText (text : String) : Except BuildError Conversion :=
  match all.find? (·.isNamed text) with
  | some conversion => .ok conversion
  | Option.none => .error (.unrecognizedOperator text)

end Conversion

mutual

inductive Expr where
  | identifier (name : Identifier)
  | literal (value : Literal)
  | unary (op : UnaryOp) (operand : Expr)
  | binary (op : BinaryOp) (left right : Expr)
  | call (target : Expr) (args : List Expr) (keywords : List KeywordArg)
  | attribute (target : Expr) (name : Identifier)
  | subscript (target : Expr) (items : List SubscriptItem)
  | display (form : DisplayForm) (elements : List Expr)
  | comprehension (form : ComprehensionForm) (element : Expr) (clauses : List Clause)
  | pair (key value : Expr)
  | lambda (params : List Identifier) (body : Expr)
  | conditional (body test orElse : Expr)
  | named (target : Identifier) (value : Expr)
  | formatString (parts : List FormatPart)
  | wrapped (inner : Expr)
  | alias (target : Expr) (name : Identifier)
  | pathAlias (path : ModulePath) (name : Identifier)
  | empty

/-- An argument that is passed by name. -/
structure KeywordArg where
  name : Identifier
  value : Expr

/-- What stands between the brackets of a subscript. A bound that is left out is an empty
expression; a stride is a slice that also has a step. -/
inductive SubscriptItem where
  | index (value : Expr)
  | slice (lower upper : Expr)
  | stride (lower upper step : Expr)

/-- One loop of a comprehension and the conditions that follow it. -/
structure Clause where
  isAsync : Bool
  targets : List Identifier
  iterator : Expr
  filters : List Expr

/-- A part of a format string: text, or a field with a value, a conversion and a specification,
which is empty when there is none. -/
inductive FormatPart where
  | plain (content : String)
  | field (value : Expr) (conversion : Conversion) (spec : String)

end

namespace Expr

def kind : Expr → ExprKind
  | .identifier _ => .identifier
  | .literal _ => .literal
  | .unary _ _ => .unaryOp
  | .binary _ _ _ => .binaryOp
  | .call _ _ _ => .call
  | .attribute _ _ => .attribute
  | .subscript _ _ => .subscript
  | .display .list _ | .comprehension .list _ _ => .list
  | .display .set _ | .comprehension .set _ _ => .set
  | .display .dict _ | .comprehension .dict _ _ => .dict
  | .display .tuple _ => .tuple
  | .comprehension .generator _ _ => .comprehension
  | .pair _ _ => .keyValuePair
  | .lambda _ _ => .closure
  | .conditional _ _ _ => .condition
  | .named _ _ => .namedExpr
  | .formatString _ => .formatString
  | .wrapped _ => .wrapped
  | .alias _ _ | .pathAlias _ _ => .alias
  | .empty => .empty

/-- The level of an expression. Whatever has brackets of its own is an atom, and so is a pair, whose
parts are closed off by the dictionary around it. -/
def level : Expr → Level
  | .literal value => value.level
  | .unary op _ => op.level
  | .binary op _ _ => op.level
  | .call _ _ _ | .attribute _ _ | .subscript _ _ => .call
  | .lambda _ _ => .lambda
  | .conditional _ _ _ => .conditional
  | .named _ _ | .alias _ _ | .pathAlias _ _ => .namedExpr
  | .identifier _ | .display _ _ | .comprehension _ _ _ | .pair _ _ | .formatString _ | .wrapped _
  | .empty => .atom

/-- A standalone form is a unary expression whose operator stands alone. -/
def isStandalone : Expr → Bool
  | .unary op _ => op.isStandalone
  | _ => false

/-- The name that an expression consists of; any other expression is refused by its kind. -/
def ensureIdentifier : Expr → Except BuildError Identifier
  | .identifier name => .ok name
  | other => .error (.notAnIdentifier other.kind)

end Expr

end Unparse
