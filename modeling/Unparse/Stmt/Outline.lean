import Unparse.Outline
import Unparse.Stmt.Basic

/-!
The outline of a statement: each header is a line with the body below it. Blocks dissolve into the
statements they hold.
-/

namespace Unparse

mutual

/-- The outline of a statement. A `try` that would have neither a handler nor a cleanup gets an
empty cleanup, and an empty suite is filled with `pass`. -/
def Stmt.outline : Stmt → List Outline
  | .simple statement => [.leaf statement.text]
  | .branch test body arms orElse =>
    .clause ("if " ++ test.text) (outlineAll body) :: outlineArms arms ++
      outlineClause "else" orElse
  | .forLoop header body orElse =>
    .clause header.text (outlineAll body) :: outlineClause "else" orElse
  | .whileLoop test body orElse =>
    .clause ("while " ++ test.text) (outlineAll body) :: outlineClause "else" orElse
  | .tryBlock parts => parts.outline
  | .withBlock header body => [.clause header.text (outlineAll body)]
  | .matchBlock subject cases => [.clause ("match " ++ subject.text) (outlineCases cases)]
  | .functionDef header body =>
    (decoratorTexts header.decorators).map .leaf ++ [.clause header.text (outlineAll body)]
  | .classDef header body =>
    (decoratorTexts header.decorators).map .leaf ++ [.clause header.text (outlineAll body)]
  | .block body => outlineAll body

def outlineAll : List Stmt → List Outline
  | [] => []
  | s :: ss => s.outline ++ outlineAll ss

/-- A clause that is one word, if it is there. -/
def outlineClause (word : String) : Option (List Stmt) → List Outline
  | none => []
  | some body => [.clause word (outlineAll body)]

def ElifArm.outline : ElifArm → Outline
  | ⟨test, body⟩ => .clause ("elif " ++ test.text) (outlineAll body)

def outlineArms : List ElifArm → List Outline
  | [] => []
  | a :: as => a.outline :: outlineArms as

def Handler.outline : Handler → Outline
  | ⟨header, body⟩ => .clause header.text (outlineAll body)

def outlineHandlers : List Handler → List Outline
  | [] => []
  | h :: hs => h.outline :: outlineHandlers hs

def MatchCase.outline : MatchCase → Outline
  | ⟨header, body⟩ => .clause header.text (outlineAll body)

def outlineCases : List MatchCase → List Outline
  | [] => []
  | c :: cs => c.outline :: outlineCases cs

def Try.outline : Try → List Outline
  | ⟨body, handlers, orElse, cleanup⟩ =>
    .clause "try" (outlineAll body) :: outlineHandlers handlers ++ outlineClause "else" orElse ++
      outlineClause "finally" cleanup ++
      if handlers.isEmpty && cleanup.isNone then [.clause "finally" []] else []

end

theorem outlineAll_append (ss ts : List Stmt) :
    outlineAll (ss ++ ts) = outlineAll ss ++ outlineAll ts := by
  induction ss with
  | nil => rfl
  | cons s ss ih => simp [outlineAll, ih, List.append_assoc]

theorem outlineAll_eq_flatMap (ss : List Stmt) : outlineAll ss = ss.flatMap Stmt.outline := by
  induction ss with
  | nil => rfl
  | cons s ss ih => simp [outlineAll, ih]

end Unparse
