import Unparse.BuildError
import Unparse.Level

/-!
The operators of Python: their spellings, their levels, and how binary operators of one level group.
-/

namespace Unparse

/-- How operators of one level group when no parentheses say otherwise. A chain is none of its own
operands: `a < b < c` is neither `(a < b) < c` nor `a < (b < c)`. -/
inductive Associativity where
  | left
  | right
  | chained
  deriving DecidableEq

/-- The name that reports use for an associativity. -/
def Associativity.name : Associativity → String
  | .left => "Left"
  | .right => "Right"
  | .chained => "Chained"

/-- The operators that stand between two operands. -/
inductive BinaryOp where
  | add
  | sub
  | mul
  | div
  | floorDiv
  | mod
  | pow
  | matMul
  | shiftLeft
  | shiftRight
  | member
  | notMember
  | same
  | notSame
  | less
  | lessEqual
  | greater
  | greaterEqual
  | equal
  | notEqual
  | bitAnd
  | bitXor
  | bitOr
  | boolAnd
  | boolOr
  deriving DecidableEq

namespace BinaryOp

/-- All binary operators, in the order of the table. -/
def all : List BinaryOp :=
  [.add, .sub, .mul, .div, .floorDiv, .mod, .pow, .matMul, .shiftLeft, .shiftRight, .member,
    .notMember, .same, .notSame, .less, .lessEqual, .greater, .greaterEqual, .equal, .notEqual,
    .bitAnd, .bitXor, .bitOr, .boolAnd, .boolOr]

def text : BinaryOp → String
  | .add => "+"
  | .sub => "-"
  | .mul => "*"
  | .div => "/"
  | .floorDiv => "//"
  | .mod => "%"
  | .pow => "**"
  | .matMul => "@"
  | .shiftLeft => "<<"
  | .shiftRight => ">>"
  | .member => "in"
  | .notMember => "not in"
  | .same => "is"
  | .notSame => "is not"
  | .less => "<"
  | .lessEqual => "<="
  | .greater => ">"
  | .greaterEqual => ">="
  | .equal => "=="
  | .notEqual => "!="
  | .bitAnd => "&"
  | .bitXor => "^"
  | .bitOr => "|"
  | .boolAnd => "and"
  | .boolOr => "or"

def level : BinaryOp → Level
  | .pow => .exponential
  | .mul | .div | .floorDiv | .mod | .matMul => .multiplicative
  | .add | .sub => .additive
  | .shiftLeft | .shiftRight => .shift
  | .bitAnd => .bitAnd
  | .bitXor => .bitXor
  | .bitOr => .bitOr
  | .member | .notMember | .same | .notSame | .less | .lessEqual | .greater | .greaterEqual
  | .equal | .notEqual => .comparative
  | .boolAnd => .boolAnd
  | .boolOr => .boolOr

/-- Powers group to the right, comparisons form chains, and all others group to the left. -/
def associativity (op : BinaryOp) : Associativity :=
  match op.level with
  | .exponential => .right
  | .comparative => .chained
  | _ => .left

/-- The operator with this very spelling; the refusal carries the text. -/
def ofText (text : String) : Except BuildError BinaryOp :=
  match all.find? fun op => op.text == text with
  | some op => .ok op
  | none => .error (.unrecognizedOperator text)

theorem mem_all (op : BinaryOp) : op ∈ all := by
  cases op <;> decide

theorem ofText_text (op : BinaryOp) : ofText op.text = .ok op := by
  cases op <;> rfl

end BinaryOp

/-- The operators that stand before their operand. -/
inductive UnaryOp where
  | starred
  | doubleStarred
  | yield
  | yieldFrom
  | await
  | positive
  | negative
  | bitNot
  | boolNot
  deriving DecidableEq

namespace UnaryOp

/-- All unary operators, in the order of the table. -/
def all : List UnaryOp :=
  [.starred, .doubleStarred, .yield, .yieldFrom, .await, .positive, .negative, .bitNot, .boolNot]

def text : UnaryOp → String
  | .starred => "*"
  | .doubleStarred => "**"
  | .yield => "yield"
  | .yieldFrom => "yield from"
  | .await => "await"
  | .positive => "+"
  | .negative => "-"
  | .bitNot => "~"
  | .boolNot => "not"

def level : UnaryOp → Level
  | .starred | .doubleStarred | .yield | .yieldFrom => .atom
  | .await => .await
  | .positive | .negative | .bitNot => .unary
  | .boolNot => .boolNot

/-- A standalone form is no operand of anything: it stands as a whole value or in parentheses. -/
def isStandalone : UnaryOp → Bool
  | .starred | .doubleStarred | .yield | .yieldFrom => true
  | .await | .positive | .negative | .bitNot | .boolNot => false

/-- The operator with this very spelling; the refusal carries the text. -/
def ofText (text : String) : Except BuildError UnaryOp :=
  match all.find? fun op => op.text == text with
  | some op => .ok op
  | none => .error (.unrecognizedOperator text)

theorem mem_all (op : UnaryOp) : op ∈ all := by
  cases op <;> decide

theorem ofText_text (op : UnaryOp) : ofText op.text = .ok op := by
  cases op <;> rfl

end UnaryOp

end Unparse
