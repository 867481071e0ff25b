/-!
Levels of expressions: how tightly an expression holds together, from the tightest to the loosest.
-/

namespace Unparse

/-- The levels, the tightest first. -/
inductive Level where
  | atom
  | call
  | await
  | exponential
  | unary
  | multiplicative
  | additive
  | shift
  | bitAnd
  | bitXor
  | bitOr
  | comparative
  | boolNot
  | boolAnd
  | boolOr
  | conditional
  | lambda
  | namedExpr
  deriving DecidableEq

namespace Level

def all : List Level :=
  [.atom, .call, .await, .exponential, .unary, .multiplicative, .additive, .shift, .bitAnd, .bitXor,
    .bitOr, .comparative, .boolNot, .boolAnd, .boolOr, .conditional, .lambda, .namedExpr]

/-- The place of a level in the order; a tighter level has the smaller rank. -/
def rank : Level → Nat
  | .atom => 0
  | .call => 1
  | .await => 2
  | .exponential => 3
  | .unary => 4
  | .multiplicative => 5
  | .additive => 6
  | .shift => 7
  | .bitAnd => 8
  | .bitXor => 9
  | .bitOr => 10
  | .comparative => 11
  | .boolNot => 12
  | .boolAnd => 13
  | .boolOr => 14
  | .conditional => 15
  | .lambda => 16
  | .namedExpr => 17

/-- The name that reports use for a level. -/
def name : Level → String
  | .atom => "Atom"
  | .call => "Call"
  | .await => "Await"
  | .exponential => "Exponential"
  | .unary => "Unary"
  | .multiplicative => "Multiplicative"
  | .additive => "Additive"
  | .shift => "Shift"
  | .bitAnd => "BitAnd"
  | .bitXor => "BitXor"
  | .bitOr => "BitOr"
  | .comparative => "Comparative"
  | .boolNot => "BoolNot"
  | .boolAnd => "BoolAnd"
  | .boolOr => "BoolOr"
  | .conditional => "Conditional"
  | .lambda => "Lambda"
  | .namedExpr => "NamedExpr"

theorem getElem?_all_rank (level : Level) : all[level.rank]? = some level := by
  cases level <;> rfl

theorem rank_injective {a b : Level} (h : a.rank = b.rank) : a = b := by
  have hsome : some a = some b := by rw [← getElem?_all_rank a, ← getElem?_all_rank b, h]
  exact Option.some.inj hsome

theorem mem_all (level : Level) : level ∈ all :=
  List.mem_of_getElem? (getElem?_all_rank level)

end Level

end Unparse
