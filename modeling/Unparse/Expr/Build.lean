import Unparse.Expr.Basic

/-!
Building expressions. Each node is built by a function that puts its parts into their slots, so that
parentheses stand exactly where a slot refuses its content.
-/

namespace Unparse

namespace Slot

/-- Whether a slot takes an expression as it is. -/
def admits (slot : Slot) (e : Expr) : Bool :=
  if e.isStandalone then slot.admitsStandalone else slot.admitsLevel e.level

/-- An expression in a slot: as it is where the slot takes it, in parentheses otherwise. -/
def place (slot : Slot) (e : Expr) : Expr :=
  if slot.admits e then e else .wrapped e

theorem admits_wrapped (slot : Slot) (e : Expr) : slot.admits (.wrapped e) = true := rfl

theorem admits_place (slot : Slot) (e : Expr) : slot.admits (slot.place e) = true := by
  unfold place
  split
  · assumption
  · exact admits_wrapped slot e

theorem place_eq_self_iff {slot : Slot} {e : Expr} : slot.place e = e ↔ slot.admits e = true := by
  constructor
  · intro h
    rw [← h]
    exact admits_place slot e
  · intro h
    simp [place, h]

theorem place_place (slot : Slot) (e : Expr) : slot.place (slot.place e) = slot.place e :=
  place_eq_self_iff.2 (admits_place slot e)

end Slot

def mkKeyword (name : Identifier) (value : Expr) : KeywordArg :=
  ⟨name, Slot.keywordValue.place value⟩

/-- A slice, with a step or without; a bound that is left out is the empty expression. -/
def mkSlice (lower upper : Expr) : Option Expr → SubscriptItem
  | none => .slice (Slot.slicePart.place lower) (Slot.slicePart.place upper)
  | some step =>
    .stride (Slot.slicePart.place lower) (Slot.slicePart.place upper) (Slot.slicePart.place step)

def mkClause (isAsync : Bool) (targets : List Identifier) (iterator : Expr) (filters : List Expr) :
    Clause :=
  ⟨isAsync, targets, Slot.comprehensionIterator.place iterator,
    filters.map Slot.comprehensionFilter.place⟩

namespace FormatPart

/-- A field that shows a value plainly. -/
def ofValue (value : Expr) : FormatPart :=
  .field (Slot.formatValue.place value) .none ""

/-- A field with another conversion; plain text has none. -/
def withConversion (part : FormatPart) (conversion : Conversion) : FormatPart :=
  match part with
  | .field value _ spec => .field value conversion spec
  | .plain content => .plain content

/-- A field with another specification, the empty one being none; plain text has none. -/
def withSpec (part : FormatPart) (spec : String) : FormatPart :=
  match part with
  | .field value conversion _ => .field value conversion spec
  | .plain content => .plain content

end FormatPart

namespace Expr

def mkUnary (op : UnaryOp) (operand : Expr) : Expr :=
  .unary op ((Slot.operand op).place operand)

def mkBinary (op : BinaryOp) (left right : Expr) : Expr :=
  .binary op ((Slot.leftOperand op).place left) ((Slot.rightOperand op).place right)

/-- A call. The parentheses of the call close off its arguments, which may be anything. -/
def mkCall (target : Expr) (args : List Expr) (keywords : List KeywordArg) : Expr :=
  .call (Slot.callTarget.place target) args keywords

/-- An attribute of an expression. Bare digits are parenthesized, because the point would be read as
part of the number. -/
def mkAttribute (target : Expr) (name : Identifier) : Expr :=
  match target with
  | .literal value =>
    if value.isDigits then .attribute (.wrapped target) name
    else .attribute (Slot.attributeTarget.place target) name
  | _ => .attribute (Slot.attributeTarget.place target) name

/-- A subscript. The brackets close off the items, which may be anything. -/
def mkSubscript (target : Expr) (items : List SubscriptItem) : Expr :=
  .subscript (Slot.subscriptTarget.place target) items

def mkPair (key value : Expr) : Expr :=
  .pair (Slot.pairPart.place key) (Slot.pairPart.place value)

def mkLambda (params : List Identifier) (body : Expr) : Expr :=
  .lambda params (Slot.lambdaBody.place body)

/-- The choice of `body` if `test` holds and of `orElse` otherwise. -/
def mkConditional (body test orElse : Expr) : Expr :=
  .conditional (Slot.conditionPart.place body) (Slot.conditionPart.place test)
    (Slot.conditionPart.place orElse)

/-- A value and the name that it is given on the way. -/
def mkNamed (target : Identifier) (value : Expr) : Expr :=
  .named target (Slot.namedValue.place value)

end Expr

end Unparse
