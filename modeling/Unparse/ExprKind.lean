/-!
The kinds that expressions are told apart by in messages.
-/

namespace Unparse

/-- The kind of an expression. A display and a comprehension in the same brackets are of one kind;
`comprehension` is the kind of a generator. -/
inductive ExprKind where
  | identifier
  | wrapped
  | keyValuePair
  | unaryOp
  | binaryOp
  | list
  | dict
  | set
  | tuple
  | closure
  | condition
  | namedExpr
  | comprehension
  | formatString
  | subscript
  | attribute
  | call
  | literal
  | alias
  | empty
  deriving DecidableEq

/-- The name that messages use for a kind. -/
def ExprKind.name : ExprKind → String
  | .identifier => "Identifier"
  | .wrapped => "Wrapped"
  | .keyValuePair => "KeyValuePair"
  | .unaryOp => "UnaryOp"
  | .binaryOp => "BinaryOp"
  | .list => "List"
  | .dict => "Dict"
  | .set => "Set"
  | .tuple => "Tuple"
  | .closure => "Closure"
  | .condition => "Condition"
  | .namedExpr => "NamedExpr"
  | .comprehension => "Comprehension"
  | .formatString => "FormatString"
  | .subscript => "Subscript"
  | .attribute => "Attribute"
  | .call => "Call"
  | .literal => "Literal"
  | .alias => "Alias"
  | .empty => "Empty"

end Unparse
