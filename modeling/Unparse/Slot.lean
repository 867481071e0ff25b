import Unparse.Operator

/-!
Slots: the positions of a node that decide by themselves how loose their content may be.
-/

namespace Unparse

/-- Whether content of the slot's own level may stand bare: a strict slot refuses looser content
only, a non-strict slot refuses content of its own level too. -/
inductive WrapMode where
  | strict
  | nonStrict
  deriving DecidableEq

def WrapMode.name : WrapMode → String
  | .strict => "Strict"
  | .nonStrict => "NonStrict"

/-- Whether content of level `child` needs parentheses in a slot of level `parent`. -/
def WrapMode.needsWrap (mode : WrapMode) (child parent : Level) : Bool :=
  match mode with
  | .strict => parent.rank < child.rank
  | .nonStrict => parent.rank ≤ child.rank

/-- The positions whose content is parenthesized when it is too loose. -/
inductive Slot where
  | leftOperand (op : BinaryOp)
  | rightOperand (op : BinaryOp)
  | operand (op : UnaryOp)
  | callTarget
  | keywordValue
  | attributeTarget
  | subscriptTarget
  | slicePart
  | conditionPart
  | lambdaBody
  | namedValue
  | pairPart
  | comprehensionElement
  | comprehensionIterator
  | comprehensionFilter
  | formatValue
  | statementValue
  deriving DecidableEq

namespace Slot

/-- The loosest level that a slot is made for. -/
def level : Slot → Level
  | .leftOperand op | .rightOperand op => op.level
  | .operand op => op.level
  | .callTarget | .attributeTarget | .subscriptTarget => .call
  | .keywordValue | .lambdaBody | .pairPart | .comprehensionElement => .lambda
  | .slicePart | .conditionPart | .formatValue => .conditional
  | .comprehensionIterator | .comprehensionFilter => .boolOr
  | .namedValue | .statementValue => .namedExpr

/-- An operand on the side that its operator groups to may be of the operator's own level; a chain
has no such side. The value of a name or a statement is tighter than a named expression, and so are
the parts of a conditional against a conditional. -/
def mode : Slot → WrapMode
  | .leftOperand op =>
    match op.associativity with
    | .left => .strict
    | .right | .chained => .nonStrict
  | .rightOperand op =>
    match op.associativity with
    | .right => .strict
    | .left | .chained => .nonStrict
  | .conditionPart | .namedValue | .statementValue => .nonStrict
  | .operand _ | .callTarget | .keywordValue | .attributeTarget | .subscriptTarget | .slicePart
  | .lambdaBody | .pairPart | .comprehensionElement | .comprehensionIterator
  | .comprehensionFilter | .formatValue => .strict

/-- Whether the slot takes content of this level without parentheses. The tightest level stands
anywhere. -/
def admitsLevel (slot : Slot) (child : Level) : Bool :=
  child == .atom || !slot.mode.needsWrap child slot.level

/-- Whether a slot is the whole value of a statement, where a standalone form may stand bare. -/
def admitsStandalone : Slot → Bool
  | .statementValue => true
  | _ => false

end Slot

end Unparse
