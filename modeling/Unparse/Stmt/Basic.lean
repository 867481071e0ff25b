import Unparse.Stmt.Definition

/-!
Statements of Python: simple ones, compound ones, and blocks, which group statements without a trace
in the source.
-/

namespace Unparse

mutual

/-- A statement. An `else` that is there but empty differs from none. -/
inductive Stmt where
  | simple (statement : SimpleStmt)
  | branch (test : Expr) (body : List Stmt) (arms : List ElifArm) (orElse : Option (List Stmt))
  | forLoop (header : ForHeader) (body : List Stmt) (orElse : Option (List Stmt))
  | whileLoop (test : Expr) (body : List Stmt) (orElse : Option (List Stmt))
  | tryBlock (parts : Try)
  | withBlock (header : WithHeader) (body : List Stmt)
  | matchBlock (subject : Expr) (cases : List MatchCase)
  | functionDef (header : FunctionHeader) (body : List Stmt)
  | classDef (header : ClassHeader) (body : List Stmt)
  | block (body : List Stmt)

/-- A further condition of a branch and what it leads to. -/
structure ElifArm where
  test : Expr
  body : List Stmt

structure Handler where
  header : HandlerHeader
  body : List Stmt

structure MatchCase where
  header : CaseHeader
  body : List Stmt

/-- A body, the handlers of what it raises, what runs if it raises nothing, and what runs at any
rate. -/
structure Try where
  body : List Stmt
  handlers : List Handler
  orElse : Option (List Stmt)
  cleanup : Option (List Stmt)

end

/-- The function with a body, if its name is known. -/
def FunctionDraft.block (draft : FunctionDraft) (body : List Stmt) : Except BuildError Stmt :=
  draft.finish.map fun header => .functionDef header body

/-- The class with a body, if its name is known. -/
def ClassDraft.block (draft : ClassDraft) (body : List Stmt) : Except BuildError Stmt :=
  draft.finish.map fun header => .classDef header body

mutual

/-- A blank statement leaves no trace: it is a block of blank statements. -/
def Stmt.isBlank : Stmt → Bool
  | .block body => allBlank body
  | _ => false

def allBlank : List Stmt → Bool
  | [] => true
  | s :: ss => s.isBlank && allBlank ss

end

theorem allBlank_iff (body : List Stmt) : allBlank body = true ↔ ∀ s ∈ body, s.isBlank = true := by
  induction body with
  | nil => simp [allBlank]
  | cons s ss ih => simp [allBlank, ih]

end Unparse
