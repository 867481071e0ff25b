import Unparse.Expr.Build
import Unparse.Expr.Text

/-!
Comprehensions: an element and a non-empty list of clauses, made at once or collected step by step.
A draft may be given its parts in any order; when it is finished, it says what is still missing.
-/

namespace Unparse

/-- An element and its clauses, not yet in brackets. -/
structure Comprehension where
  element : Expr
  clauses : List Clause
  clauses_ne_nil : clauses ≠ []

namespace Comprehension

/-- A comprehension from its parts; without a clause there is none. -/
def ofClauses (element : Expr) (clauses : List Clause) : Except BuildError Comprehension :=
  if h : clauses = [] then .error (.emptyCollection .clause)
  else .ok ⟨Slot.comprehensionElement.place element, clauses, h⟩

/-- The text of a comprehension without brackets. -/
def text (c : Comprehension) : String :=
  comprehensionText c.element.text (c.clauses.map Clause.text)

/-- A comprehension in the brackets of a form. A dictionary is made of pairs, lists and sets are
not, and a generator may yield anything. -/
def toExpr (c : Comprehension) (form : ComprehensionForm) : Except BuildError Expr :=
  let found := c.element.kind
  let e := Expr.comprehension form c.element c.clauses
  match form with
  | .list => if found = .keyValuePair then .error (.kindMismatch .list found) else .ok e
  | .set => if found = .keyValuePair then .error (.kindMismatch .set found) else .ok e
  | .dict => if found = .keyValuePair then .ok e else .error (.kindMismatch .keyValuePair found)
  | .generator => .ok e

end Comprehension

/-- A clause that may still lack its targets or its iterator. -/
structure ClauseDraft where
  isAsync : Bool
  targets : List Identifier
  iterator : Option Expr
  filters : List Expr

namespace ClauseDraft

/-- A clause of which only the targets are known. -/
def start (isAsync : Bool) (targets : List Identifier) : ClauseDraft :=
  ⟨isAsync, targets, none, []⟩

def missing (draft : ClauseDraft) : List RequiredField :=
  (if draft.iterator.isNone then [.clauseIterator] else []) ++
    (if draft.targets.isEmpty then [.clauseTarget] else [])

/-- The clause, once it has an iterator. -/
def finish? (draft : ClauseDraft) : Option Clause :=
  draft.iterator.map fun iterator => mkClause draft.isAsync draft.targets iterator draft.filters

end ClauseDraft

/-- A comprehension under construction: the clauses that are done with, in order, and the newest
one, which the steps act on. -/
structure ComprehensionDraft where
  element : Expr
  earlier : List ClauseDraft
  newest : ClauseDraft

inductive ComprehensionStep where
  | nextClause (isAsync : Bool) (targets : List Identifier)
  | targets (names : List Identifier)
  | iterator (value : Expr)
  | filter (condition : Expr)
  | isAsync (value : Bool)

namespace ComprehensionDraft

/-- The first clause is begun together with the element. -/
def start (element : Expr) (isAsync : Bool) (targets : List Identifier) : ComprehensionDraft :=
  ⟨element, [], .start isAsync targets⟩

/-- A step begins a new clause, or replaces the targets, the iterator or the kind of loop of the
newest clause, or adds a condition to it. -/
def step (draft : ComprehensionDraft) : ComprehensionStep → ComprehensionDraft
  | .nextClause isAsync targets =>
    { draft with
      earlier := draft.earlier ++ [draft.newest]
      newest := .start isAsync targets }
  | .targets names => { draft with newest := { draft.newest with targets := names } }
  | .iterator value => { draft with newest := { draft.newest with iterator := some value } }
  | .filter condition =>
    { draft with newest := { draft.newest with filters := draft.newest.filters ++ [condition] } }
  | .isAsync value => { draft with newest := { draft.newest with isAsync := value } }

def run (draft : ComprehensionDraft) (steps : List ComprehensionStep) : ComprehensionDraft :=
  steps.foldl step draft

/-- All clauses in order. -/
def clauses (draft : ComprehensionDraft) : List ClauseDraft :=
  draft.earlier ++ [draft.newest]

/-- What the clauses lack, each part once, in the order in which the clauses show it. -/
def missing (draft : ComprehensionDraft) : List RequiredField :=
  (draft.clauses.flatMap ClauseDraft.missing).eraseDups

/-- The comprehension, if no clause lacks anything. -/
def finish (draft : ComprehensionDraft) : Except BuildError Comprehension :=
  match draft.missing with
  | [] => Comprehension.ofClauses draft.element (draft.clauses.filterMap ClauseDraft.finish?)
  | fields => .error (.missingFields fields)

end ComprehensionDraft

end Unparse
