import Unparse.ExprKind
import Unparse.Text.Quoted

/-!
Why a name, an operator or a node is refused, and the wording of each refusal.
-/

namespace Unparse

/-- A part that a draft must be given before it can be finished. -/
inductive RequiredField where
  | clauseIterator
  | clauseTarget
  | loopIterable
  | definitionName
  deriving DecidableEq

/-- The name of a required part in messages. -/
def RequiredField.label : RequiredField → String
  | .clauseIterator => "iterator"
  | .clauseTarget => "target"
  | .loopIterable => "iter"
  | .definitionName => "name"

/-- The lists that may not be empty, by what they are lists of. -/
inductive ListedItem where
  | importName
  | globalName
  | nonlocalName
  | withItem
  | clause
  deriving DecidableEq

/-- What messages call one entry of such a list. -/
def ListedItem.label : ListedItem → String
  | .importName => "import name"
  | .globalName => "global variable name"
  | .nonlocalName => "nonlocal variable name"
  | .withItem => "with item"
  | .clause => "comprehension clause"

inductive BuildError where
  | invalidIdentifier (text : String)
  | unrecognizedOperator (text : String)
  | kindMismatch (expected found : ExprKind)
  | missingFields (fields : List RequiredField)
  | emptyCollection (item : ListedItem)
  | notAnIdentifier (kind : ExprKind)
  | causeWithoutException
  | elseWithoutHandler
  deriving DecidableEq

def BuildError.message : BuildError → String
  | .invalidIdentifier text => shown text ++ " is not a valid identifier"
  | .unrecognizedOperator text => "unrecognized operator: " ++ shown text
  | .kindMismatch expected found =>
    "expected an expression of kind `" ++ expected.name ++ "`, found `" ++ found.name ++ "`"
  | .missingFields fields =>
    "missing required field(s): " ++
      ", ".intercalate (fields.map fun field => "`" ++ field.label ++ "`")
  | .emptyCollection item => "at least one " ++ item.label ++ " is required"
  | .notAnIdentifier kind => "expression of kind `" ++ kind.name ++ "` is not an identifier"
  | .causeWithoutException => "cannot set a cause on a `raise` without an exception"
  | .elseWithoutHandler => "a `try` needs an `except` handler before its `else` body"

/-- What is built from a list that may not be empty. -/
def requireSome {α β : Type} (item : ListedItem) (entries : List α) (build : List α → β) :
    Except BuildError β :=
  if entries.isEmpty then .error (.emptyCollection item) else .ok (build entries)

theorem requireSome_eq_ok_iff {α β : Type} {item : ListedItem} {entries : List α}
    {build : List α → β} {built : β} :
    requireSome item entries build = .ok built ↔ entries ≠ [] ∧ build entries = built := by
  cases entries <;> simp [requireSome]

end Unparse
