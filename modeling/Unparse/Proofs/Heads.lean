import Unparse.Stmt.Outline

/-!
The heads of a statement: all that it writes lines from. Each line of its outline is a head, a head
with a colon after it, or a `pass` that fills an empty suite.
-/

namespace Unparse

/-- What one line of a statement is written from. -/
inductive Head where
  | simple (statement : SimpleStmt)
  | ifTest (test : Expr)
  | elifTest (test : Expr)
  | elseWord
  | forLoop (header : ForHeader)
  | whileTest (test : Expr)
  | tryWord
  | handler (header : HandlerHeader)
  | finallyWord
  | withBlock (header : WithHeader)
  | matchSubject (subject : Expr)
  | matchCase (header : CaseHeader)
  | decorator (value : Expr)
  | functionDef (header : FunctionHeader)
  | classDef (header : ClassHeader)

/-- The text of a head, without a colon. -/
def Head.text : Head → String
  | .simple statement => statement.text
  | .ifTest test => "if " ++ test.text
  | .elifTest test => "elif " ++ test.text
  | .elseWord => "else"
  | .forLoop header => header.text
  | .whileTest test => "while " ++ test.text
  | .tryWord => "try"
  | .handler header => header.text
  | .finallyWord => "finally"
  | .withBlock header => header.text
  | .matchSubject subject => "match " ++ subject.text
  | .matchCase header => header.text
  | .decorator value => "@" ++ value.text
  | .functionDef header => header.text
  | .classDef header => header.text

/-- A simple statement and a decorator are lines on their own; all other heads open a suite. -/
def Head.opensSuite : Head → Bool
  | .simple _ | .decorator _ => false
  | _ => true

mutual

/-- The heads of a statement, in the order of their lines. -/
def Stmt.heads : Stmt → List Head
  | .simple statement => [.simple statement]
  | .branch test body arms orElse =>
    .ifTest test :: headsAll body ++ headsArms arms ++ headsClause .elseWord orElse
  | .forLoop header body orElse => .forLoop header :: headsAll body ++ headsClause .elseWord orElse
  | .whileLoop test body orElse => .whileTest test :: headsAll body ++ headsClause .elseWord orElse
  | .tryBlock parts => parts.heads
  | .withBlock header body => .withBlock header :: headsAll body
  | .matchBlock subject cases => .matchSubject subject :: headsCases cases
  | .functionDef header body =>
    header.decorators.map .decorator ++ .functionDef header :: headsAll body
  | .classDef header body => header.decorators.map .decorator ++ .classDef header :: headsAll body
  | .block body => headsAll body

def headsAll : List Stmt → List Head
  | [] => []
  | s :: ss => s.heads ++ headsAll ss

/-- A head and those of the body below it, if the body is there. -/
def headsClause (head : Head) : Option (List Stmt) → List Head
  | none => []
  | some body => head :: headsAll body

def ElifArm.heads : ElifArm → List Head
  | ⟨test, body⟩ => .elifTest test :: headsAll body

def headsArms : List ElifArm → List Head
  | [] => []
  | a :: as => a.heads ++ headsArms as

def Handler.heads : Handler → List Head
  | ⟨header, body⟩ => .handler header :: headsAll body

def headsHandlers : List Handler → List Head
  | [] => []
  | h :: hs => h.heads ++ headsHandlers hs

def MatchCase.heads : MatchCase → List Head
  | ⟨header, body⟩ => .matchCase header :: headsAll body

def headsCases : List MatchCase → List Head
  | [] => []
  | c :: cs => c.heads ++ headsCases cs

def Try.heads : Try → List Head
  | ⟨body, handlers, orElse, cleanup⟩ =>
    .tryWord :: headsAll body ++ headsHandlers handlers ++ headsClause .elseWord orElse ++
      headsClause .finallyWord cleanup ++
      if handlers.isEmpty && cleanup.isNone then [.finallyWord] else []

end

/-- An outline is built of lines without a suite and of clauses, from texts with a property that may
tell the two apart. -/
inductive Outline.Built (P : Bool → String → Prop) : Outline → Prop where
  | leaf {text : String} (htext : P false text) : Built P (leaf text)
  | clause {header : String} (hheader : P true header) {suite : List Outline}
    (hsuite : ∀ o ∈ suite, Built P o) : Built P (clause header suite)

section Built

variable {P : Bool → String → Prop}

theorem built_singleton {o : Outline} (h : o.Built P) : ∀ o' ∈ [o], o'.Built P := by
  intro o' ho'
  obtain rfl := List.mem_singleton.1 ho'
  exact h

theorem built_decorators {decorators : List Expr} {rest : List Head}
    (h : ∀ head ∈ decorators.map .decorator ++ rest, P head.opensSuite head.text) :
    ∀ o ∈ (decoratorTexts decorators).map Outline.leaf, o.Built P := by
  intro o ho
  simp only [decoratorTexts, List.map_map, List.mem_map, Function.comp_apply] at ho
  obtain ⟨value, hvalue, rfl⟩ := ho
  exact .leaf (h (.decorator value) (List.mem_append_left _ (List.mem_map_of_mem hvalue)))

mutual

/-- The outline of a statement is built from the texts of its heads. -/
theorem Stmt.built (s : Stmt) (h : ∀ head ∈ s.heads, P head.opensSuite head.text) :
    ∀ o ∈ s.outline, o.Built P := by
  cases s with
  | simple statement => exact built_singleton (.leaf (h (.simple statement) List.mem_cons_self))
  | branch test body arms orElse =>
      simp only [Stmt.heads, List.forall_mem_append, List.forall_mem_cons] at h
      obtain ⟨⟨⟨htest, hbody⟩, harms⟩, horElse⟩ := h
      exact List.forall_mem_append.2 ⟨List.forall_mem_cons.2
        ⟨.clause htest (outlineAll_built body hbody), outlineArms_built arms harms⟩,
        outlineClause_built .elseWord rfl orElse horElse⟩
  | forLoop header body orElse =>
      simp only [Stmt.heads, List.forall_mem_append, List.forall_mem_cons] at h
      obtain ⟨⟨hheader, hbody⟩, horElse⟩ := h
      exact List.forall_mem_cons.2 ⟨.clause hheader (outlineAll_built body hbody),
        outlineClause_built .elseWord rfl orElse horElse⟩
  | whileLoop test body orElse =>
      simp only [Stmt.heads, List.forall_mem_append, List.forall_mem_cons] at h
      obtain ⟨⟨htest, hbody⟩, horElse⟩ := h
      exact List.forall_mem_cons.2 ⟨.clause htest (outlineAll_built body hbody),
        outlineClause_built .elseWord rfl orElse horElse⟩
  | tryBlock parts => exact parts.built h
  | withBlock header body =>
      obtain ⟨hheader, hbody⟩ := List.forall_mem_cons.1 h
      exact built_singleton (.clause hheader (outlineAll_built body hbody))
  | matchBlock subject cases =>
      obtain ⟨hsubject, hcases⟩ := List.forall_mem_cons.1 h
      exact built_singleton (.clause hsubject (outlineCases_built cases hcases))
  | functionDef header body =>
      obtain ⟨hheader, hbody⟩ := List.forall_mem_cons.1 (List.forall_mem_append.1 h).2
      exact List.forall_mem_append.2 ⟨built_decorators h,
        built_singleton (.clause hheader (outlineAll_built body hbody))⟩
  | classDef header body =>
      obtain ⟨hheader, hbody⟩ := List.forall_mem_cons.1 (List.forall_mem_append.1 h).2
      exact List.forall_mem_append.2 ⟨built_decorators h,
        built_singleton (.clause hheader (outlineAll_built body hbody))⟩
  | block body => exact outlineAll_built body h
termination_by structural s

theorem outlineAll_built (body : List Stmt)
    (h : ∀ head ∈ headsAll body, P head.opensSuite head.text) :
    ∀ o ∈ outlineAll body, o.Built P := by
  cases body with
  | nil => exact List.forall_mem_nil _
  | cons s ss =>
      obtain ⟨hs, hss⟩ := List.forall_mem_append.1 h
      exact List.forall_mem_append.2 ⟨s.built hs, outlineAll_built ss hss⟩
termination_by structural body

theorem outlineClause_built (head : Head) (hopens : head.opensSuite = true)
    (body : Option (List Stmt))
    (h : ∀ other ∈ headsClause head body, P other.opensSuite other.text) :
    ∀ o ∈ outlineClause head.text body, o.Built P := by
  cases body with
  | none => exact List.forall_mem_nil _
  | some body =>
      obtain ⟨hhead, hbody⟩ := List.forall_mem_cons.1 h
      rw [hopens] at hhead
      exact built_singleton (.clause hhead (outlineAll_built body hbody))
termination_by structural body

theorem outlineArms_built (arms : List ElifArm)
    (h : ∀ head ∈ headsArms arms, P head.opensSuite head.text) :
    ∀ o ∈ outlineArms arms, o.Built P := by
  cases arms with
  | nil => exact List.forall_mem_nil _
  | cons a as =>
      obtain ⟨ha, has⟩ := List.forall_mem_append.1 h
      exact List.forall_mem_cons.2 ⟨a.built ha, outlineArms_built as has⟩
termination_by structural arms

theorem ElifArm.built (arm : ElifArm) (h : ∀ head ∈ arm.heads, P head.opensSuite head.text) :
    arm.outline.Built P := by
  cases arm with
  | mk test body =>
      obtain ⟨htest, hbody⟩ := List.forall_mem_cons.1 h
      exact .clause htest (outlineAll_built body hbody)
termination_by structural arm

theorem outlineHandlers_built (handlers : List Handler)
    (h : ∀ head ∈ headsHandlers handlers, P head.opensSuite head.text) :
    ∀ o ∈ outlineHandlers handlers, o.Built P := by
  cases handlers with
  | nil => exact List.forall_mem_nil _
  | cons first rest =>
      obtain ⟨hfirst, hrest⟩ := List.forall_mem_append.1 h
      exact List.forall_mem_cons.2 ⟨first.built hfirst, outlineHandlers_built rest hrest⟩
termination_by structural handlers

theorem Handler.built (handler : Handler) (h : ∀ head ∈ handler.heads, P head.opensSuite head.text) :
    handler.outline.Built P := by
  cases handler with
  | mk header body =>
      obtain ⟨hheader, hbody⟩ := List.forall_mem_cons.1 h
      exact .clause hheader (outlineAll_built body hbody)
termination_by structural handler

theorem outlineCases_built (cases : List MatchCase)
    (h : ∀ head ∈ headsCases cases, P head.opensSuite head.text) :
    ∀ o ∈ outlineCases cases, o.Built P := by
  cases cases with
  | nil => exact List.forall_mem_nil _
  | cons c cs =>
      obtain ⟨hc, hcs⟩ := List.forall_mem_append.1 h
      exact List.forall_mem_cons.2 ⟨c.built hc, outlineCases_built cs hcs⟩
termination_by structural cases

theorem MatchCase.built (case : MatchCase) (h : ∀ head ∈ case.heads, P head.opensSuite head.text) :
    case.outline.Built P := by
  cases case with
  | mk header body =>
      obtain ⟨hheader, hbody⟩ := List.forall_mem_cons.1 h
      exact .clause hheader (outlineAll_built body hbody)
termination_by structural case

theorem Try.built (parts : Try) (h : ∀ head ∈ parts.heads, P head.opensSuite head.text) :
    ∀ o ∈ parts.outline, o.Built P := by
  cases parts with
  | mk body handlers orElse cleanup =>
      simp only [Try.heads, List.forall_mem_append, List.forall_mem_cons] at h
      obtain ⟨⟨⟨⟨⟨htry, hbody⟩, hhandlers⟩, horElse⟩, hcleanup⟩, hadded⟩ := h
      have hfilled : ∀ o ∈ if handlers.isEmpty && cleanup.isNone then [Outline.clause "finally" []]
          else [], o.Built P := by
        by_cases hbare : (handlers.isEmpty && cleanup.isNone) = true
        · rw [if_pos hbare] at hadded ⊢
          exact built_singleton (.clause (hadded .finallyWord List.mem_cons_self)
            (List.forall_mem_nil _))
        · rw [if_neg hbare]
          exact List.forall_mem_nil _
      simp only [Try.outline, List.forall_mem_append, List.forall_mem_cons]
      exact ⟨⟨⟨⟨.clause htry (outlineAll_built body hbody), outlineHandlers_built handlers hhandlers⟩,
        outlineClause_built .elseWord rfl orElse horElse⟩,
        outlineClause_built .finallyWord rfl cleanup hcleanup⟩, hfilled⟩
termination_by structural parts

end

end Built

end Unparse
