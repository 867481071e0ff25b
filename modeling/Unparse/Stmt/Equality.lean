import Unparse.Stmt.Basic

/-!
Statements can be compared: the comparison walks both trees and agrees with equality.
-/

namespace Unparse

mutual

/-- Whether two statements are the same tree. -/
def Stmt.same : Stmt → Stmt → Bool
  | .simple s, .simple s' => s == s'
  | .branch test body arms orElse, .branch test' body' arms' orElse' =>
    test == test' && sameStmts body body' && sameArms arms arms' && sameBodies orElse orElse'
  | .forLoop header body orElse, .forLoop header' body' orElse' =>
    header == header' && sameStmts body body' && sameBodies orElse orElse'
  | .whileLoop test body orElse, .whileLoop test' body' orElse' =>
    test == test' && sameStmts body body' && sameBodies orElse orElse'
  | .tryBlock parts, .tryBlock parts' => parts.same parts'
  | .withBlock header body, .withBlock header' body' => header == header' && sameStmts body body'
  | .matchBlock subject cases, .matchBlock subject' cases' =>
    subject == subject' && sameCases cases cases'
  | .functionDef header body, .functionDef header' body' =>
    header == header' && sameStmts body body'
  | .classDef header body, .classDef header' body' => header == header' && sameStmts body body'
  | .block body, .block body' => sameStmts body body'
  | _, _ => false
termination_by structural s => s

def sameStmts : List Stmt → List Stmt → Bool
  | [], [] => true
  | s :: ss, t :: ts => s.same t && sameStmts ss ts
  | _, _ => false
termination_by structural ss => ss

def sameBodies : Option (List Stmt) → Option (List Stmt) → Bool
  | none, none => true
  | some body, some body' => sameStmts body body'
  | _, _ => false
termination_by structural a => a

def ElifArm.same : ElifArm → ElifArm → Bool
  | ⟨test, body⟩, ⟨test', body'⟩ => test == test' && sameStmts body body'
termination_by structural a => a

def sameArms : List ElifArm → List ElifArm → Bool
  | [], [] => true
  | a :: as, b :: bs => a.same b && sameArms as bs
  | _, _ => false
termination_by structural as => as

def Handler.same : Handler → Handler → Bool
  | ⟨header, body⟩, ⟨header', body'⟩ => header == header' && sameStmts body body'
termination_by structural a => a

def sameHandlers : List Handler → List Handler → Bool
  | [], [] => true
  | a :: as, b :: bs => a.same b && sameHandlers as bs
  | _, _ => false
termination_by structural as => as

def MatchCase.same : MatchCase → MatchCase → Bool
  | ⟨header, body⟩, ⟨header', body'⟩ => header == header' && sameStmts body body'
termination_by structural a => a

def sameCases : List MatchCase → List MatchCase → Bool
  | [], [] => true
  | a :: as, b :: bs => a.same b && sameCases as bs
  | _, _ => false
termination_by structural as => as

/-- Whether two bodies agree, with all that guards them. -/
def Try.same : Try → Try → Bool
  | ⟨body, handlers, orElse, cleanup⟩, ⟨body', handlers', orElse', cleanup'⟩ =>
    sameStmts body body' && sameHandlers handlers handlers' && sameBodies orElse orElse' &&
      sameBodies cleanup cleanup'
termination_by structural a => a

end

mutual

theorem Stmt.same_iff (s t : Stmt) : s.same t = true ↔ s = t := by
  cases s <;> cases t <;> simp only [Stmt.same] <;>
    simp [sameStmts_iff, sameBodies_iff, sameArms_iff, sameCases_iff, Try.same_iff, and_assoc]
termination_by structural s

theorem sameStmts_iff (ss ts : List Stmt) : sameStmts ss ts = true ↔ ss = ts := by
  cases ss <;> cases ts <;> simp only [sameStmts] <;> simp [Stmt.same_iff, sameStmts_iff]
termination_by structural ss

theorem sameBodies_iff (a b : Option (List Stmt)) : sameBodies a b = true ↔ a = b := by
  cases a <;> cases b <;> simp only [sameBodies] <;> simp [sameStmts_iff]
termination_by structural a

theorem ElifArm.same_iff (a b : ElifArm) : a.same b = true ↔ a = b := by
  cases a; cases b; simp only [ElifArm.same]; simp [sameStmts_iff]
termination_by structural a

theorem sameArms_iff (as bs : List ElifArm) : sameArms as bs = true ↔ as = bs := by
  cases as <;> cases bs <;> simp only [sameArms] <;> simp [ElifArm.same_iff, sameArms_iff]
termination_by structural as

theorem Handler.same_iff (a b : Handler) : a.same b = true ↔ a = b := by
  cases a; cases b; simp only [Handler.same]; simp [sameStmts_iff]
termination_by structural a

theorem sameHandlers_iff (as bs : List Handler) : sameHandlers as bs = true ↔ as = bs := by
  cases as <;> cases bs <;> simp only [sameHandlers] <;> simp [Handler.same_iff, sameHandlers_iff]
termination_by structural as

theorem MatchCase.same_iff (a b : MatchCase) : a.same b = true ↔ a = b := by
  cases a; cases b; simp only [MatchCase.same]; simp [sameStmts_iff]
termination_by structural a

theorem sameCases_iff (as bs : List MatchCase) : sameCases as bs = true ↔ as = bs := by
  cases as <;> cases bs <;> simp only [sameCases] <;> simp [MatchCase.same_iff, sameCases_iff]
termination_by structural as

theorem Try.same_iff (a b : Try) : a.same b = true ↔ a = b := by
  cases a; cases b; simp only [Try.same]; simp [sameStmts_iff, sameHandlers_iff, sameBodies_iff,
    and_assoc]
termination_by structural a

end

instance : DecidableEq Stmt := fun s t => decidable_of_iff _ (Stmt.same_iff s t)

end Unparse
