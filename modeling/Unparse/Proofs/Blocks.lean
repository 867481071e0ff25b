import Unparse.Proofs.Layout

/-!
Blocks are transparent. Flattened, statements hold no blocks any more, at no depth, and are written as
before; so a block may be put around any statements that follow one another, and a blank one may be put
anywhere, without a trace in the source.
-/

namespace Unparse

/-! ### Flattening -/

mutual

/-- A statement without blocks: a block gives way to the statements in it, and any other statement
stays one statement, with flattened bodies. -/
def Stmt.flatten : Stmt → List Stmt
  | .simple statement => [.simple statement]
  | .branch test body arms orElse =>
    [.branch test (flattenAll body) (flattenArms arms) (flattenClause orElse)]
  | .forLoop header body orElse => [.forLoop header (flattenAll body) (flattenClause orElse)]
  | .whileLoop test body orElse => [.whileLoop test (flattenAll body) (flattenClause orElse)]
  | .tryBlock ⟨body, handlers, orElse, cleanup⟩ =>
    [.tryBlock ⟨flattenAll body, flattenHandlers handlers, flattenClause orElse,
      flattenClause cleanup⟩]
  | .withBlock header body => [.withBlock header (flattenAll body)]
  | .matchBlock subject cases => [.matchBlock subject (flattenCases cases)]
  | .functionDef header body => [.functionDef header (flattenAll body)]
  | .classDef header body => [.classDef header (flattenAll body)]
  | .block body => flattenAll body

def flattenAll : List Stmt → List Stmt
  | [] => []
  | s :: ss => s.flatten ++ flattenAll ss

/-- A body that may be left out, without blocks. -/
def flattenClause : Option (List Stmt) → Option (List Stmt)
  | none => none
  | some body => some (flattenAll body)

def flattenArms : List ElifArm → List ElifArm
  | [] => []
  | ⟨test, body⟩ :: arms => ⟨test, flattenAll body⟩ :: flattenArms arms

def flattenHandlers : List Handler → List Handler
  | [] => []
  | ⟨header, body⟩ :: handlers => ⟨header, flattenAll body⟩ :: flattenHandlers handlers

def flattenCases : List MatchCase → List MatchCase
  | [] => []
  | ⟨header, body⟩ :: cases => ⟨header, flattenAll body⟩ :: flattenCases cases

end

mutual

/-- Whether no block is in a statement, at whatever depth. -/
def Stmt.blockFree : Stmt → Bool
  | .simple _ => true
  | .branch _ body arms orElse => allBlockFree body && armsBlockFree arms && clauseBlockFree orElse
  | .forLoop _ body orElse => allBlockFree body && clauseBlockFree orElse
  | .whileLoop _ body orElse => allBlockFree body && clauseBlockFree orElse
  | .tryBlock ⟨body, handlers, orElse, cleanup⟩ =>
    allBlockFree body && handlersBlockFree handlers && clauseBlockFree orElse &&
      clauseBlockFree cleanup
  | .withBlock _ body => allBlockFree body
  | .matchBlock _ cases => casesBlockFree cases
  | .functionDef _ body => allBlockFree body
  | .classDef _ body => allBlockFree body
  | .block _ => false

/-- Whether no block is among statements or in them. -/
def allBlockFree : List Stmt → Bool
  | [] => true
  | s :: ss => s.blockFree && allBlockFree ss

/-- Whether no block is in a body that may be left out. -/
def clauseBlockFree : Option (List Stmt) → Bool
  | none => true
  | some body => allBlockFree body

def armsBlockFree : List ElifArm → Bool
  | [] => true
  | ⟨_, body⟩ :: arms => allBlockFree body && armsBlockFree arms

def handlersBlockFree : List Handler → Bool
  | [] => true
  | ⟨_, body⟩ :: handlers => allBlockFree body && handlersBlockFree handlers

def casesBlockFree : List MatchCase → Bool
  | [] => true
  | ⟨_, body⟩ :: cases => allBlockFree body && casesBlockFree cases

end

theorem flattenAll_append (body more : List Stmt) :
    flattenAll (body ++ more) = flattenAll body ++ flattenAll more := by
  induction body with
  | nil => rfl
  | cons s ss ih => rw [List.cons_append, flattenAll, flattenAll, ih, List.append_assoc]

theorem isEmpty_flattenHandlers (handlers : List Handler) :
    (flattenHandlers handlers).isEmpty = handlers.isEmpty := by
  rcases handlers with _ | ⟨⟨header, body⟩, handlers⟩ <;> rfl

theorem isNone_flattenClause (body : Option (List Stmt)) :
    (flattenClause body).isNone = body.isNone := by
  cases body <;> rfl

/-! ### Nothing but blocks is lost -/

mutual

/-- Flattened, a statement has the outline it had. -/
theorem Stmt.outlineAll_flatten (s : Stmt) : outlineAll s.flatten = s.outline := by
  cases s with
  | simple statement => rfl
  | branch test body arms orElse =>
      simp only [Stmt.flatten, outlineAll, Stmt.outline, List.append_nil, outlineAll_flattenAll body,
        outlineArms_flattenArms arms, outlineClause_flattenClause _ orElse]
  | forLoop header body orElse =>
      simp only [Stmt.flatten, outlineAll, Stmt.outline, List.append_nil, outlineAll_flattenAll body,
        outlineClause_flattenClause _ orElse]
  | whileLoop test body orElse =>
      simp only [Stmt.flatten, outlineAll, Stmt.outline, List.append_nil, outlineAll_flattenAll body,
        outlineClause_flattenClause _ orElse]
  | tryBlock parts =>
      obtain ⟨body, handlers, orElse, cleanup⟩ := parts
      simp only [Stmt.flatten, outlineAll, Stmt.outline, Try.outline, List.append_nil,
        outlineAll_flattenAll body, outlineHandlers_flattenHandlers handlers,
        outlineClause_flattenClause _ orElse, outlineClause_flattenClause _ cleanup,
        isEmpty_flattenHandlers, isNone_flattenClause]
  | withBlock header body =>
      simp only [Stmt.flatten, outlineAll, Stmt.outline, List.append_nil, outlineAll_flattenAll body]
  | matchBlock subject cases =>
      simp only [Stmt.flatten, outlineAll, Stmt.outline, List.append_nil,
        outlineCases_flattenCases cases]
  | functionDef header body =>
      simp only [Stmt.flatten, outlineAll, Stmt.outline, List.append_nil, outlineAll_flattenAll body]
  | classDef header body =>
      simp only [Stmt.flatten, outlineAll, Stmt.outline, List.append_nil, outlineAll_flattenAll body]
  | block body => rw [Stmt.flatten, Stmt.outline, outlineAll_flattenAll body]
termination_by structural s

theorem outlineAll_flattenAll (body : List Stmt) : outlineAll (flattenAll body) = outlineAll body := by
  cases body with
  | nil => rfl
  | cons s ss =>
      rw [flattenAll, outlineAll_append, s.outlineAll_flatten, outlineAll_flattenAll ss, outlineAll]
termination_by structural body

theorem outlineClause_flattenClause (word : String) (body : Option (List Stmt)) :
    outlineClause word (flattenClause body) = outlineClause word body := by
  cases body with
  | none => rfl
  | some body => rw [flattenClause, outlineClause, outlineClause, outlineAll_flattenAll body]
termination_by structural body

theorem outlineArms_flattenArms (arms : List ElifArm) :
    outlineArms (flattenArms arms) = outlineArms arms := by
  cases arms with
  | nil => rfl
  | cons a as =>
      obtain ⟨test, body⟩ := a
      simp only [flattenArms, outlineArms, ElifArm.outline, outlineAll_flattenAll body,
        outlineArms_flattenArms as]
termination_by structural arms

theorem outlineHandlers_flattenHandlers (handlers : List Handler) :
    outlineHandlers (flattenHandlers handlers) = outlineHandlers handlers := by
  cases handlers with
  | nil => rfl
  | cons h hs =>
      obtain ⟨header, body⟩ := h
      simp only [flattenHandlers, outlineHandlers, Handler.outline, outlineAll_flattenAll body,
        outlineHandlers_flattenHandlers hs]
termination_by structural handlers

theorem outlineCases_flattenCases (cases : List MatchCase) :
    outlineCases (flattenCases cases) = outlineCases cases := by
  cases cases with
  | nil => rfl
  | cons c cs =>
      obtain ⟨header, body⟩ := c
      simp only [flattenCases, outlineCases, MatchCase.outline, outlineAll_flattenAll body,
        outlineCases_flattenCases cs]
termination_by structural cases

end

/-! ### No block is left -/

theorem allBlockFree_append (body more : List Stmt) :
    allBlockFree (body ++ more) = (allBlockFree body && allBlockFree more) := by
  induction body with
  | nil => rfl
  | cons s ss ih => rw [List.cons_append, allBlockFree, allBlockFree, ih, Bool.and_assoc]

mutual

theorem Stmt.allBlockFree_flatten (s : Stmt) : allBlockFree s.flatten = true := by
  cases s with
  | simple statement => rfl
  | branch test body arms orElse =>
      simp only [Stmt.flatten, allBlockFree, Stmt.blockFree, allBlockFree_flattenAll body,
        armsBlockFree_flattenArms arms, clauseBlockFree_flattenClause orElse, Bool.and_true]
  | forLoop header body orElse =>
      simp only [Stmt.flatten, allBlockFree, Stmt.blockFree, allBlockFree_flattenAll body,
        clauseBlockFree_flattenClause orElse, Bool.and_true]
  | whileLoop test body orElse =>
      simp only [Stmt.flatten, allBlockFree, Stmt.blockFree, allBlockFree_flattenAll body,
        clauseBlockFree_flattenClause orElse, Bool.and_true]
  | tryBlock parts =>
      obtain ⟨body, handlers, orElse, cleanup⟩ := parts
      simp only [Stmt.flatten, allBlockFree, Stmt.blockFree, allBlockFree_flattenAll body,
        handlersBlockFree_flattenHandlers handlers, clauseBlockFree_flattenClause orElse,
        clauseBlockFree_flattenClause cleanup, Bool.and_true]
  | withBlock header body =>
      simp only [Stmt.flatten, allBlockFree, Stmt.blockFree, allBlockFree_flattenAll body,
        Bool.and_true]
  | matchBlock subject cases =>
      simp only [Stmt.flatten, allBlockFree, Stmt.blockFree, casesBlockFree_flattenCases cases,
        Bool.and_true]
  | functionDef header body =>
      simp only [Stmt.flatten, allBlockFree, Stmt.blockFree, allBlockFree_flattenAll body,
        Bool.and_true]
  | classDef header body =>
      simp only [Stmt.flatten, allBlockFree, Stmt.blockFree, allBlockFree_flattenAll body,
        Bool.and_true]
  | block body => rw [Stmt.flatten, allBlockFree_flattenAll body]
termination_by structural s

theorem allBlockFree_flattenAll (body : List Stmt) : allBlockFree (flattenAll body) = true := by
  cases body with
  | nil => rfl
  | cons s ss =>
      rw [flattenAll, allBlockFree_append, s.allBlockFree_flatten, allBlockFree_flattenAll ss,
        Bool.and_true]
termination_by structural body

theorem clauseBlockFree_flattenClause (body : Option (List Stmt)) :
    clauseBlockFree (flattenClause body) = true := by
  cases body with
  | none => rfl
  | some body => rw [flattenClause, clauseBlockFree, allBlockFree_flattenAll body]
termination_by structural body

theorem armsBlockFree_flattenArms (arms : List ElifArm) :
    armsBlockFree (flattenArms arms) = true := by
  cases arms with
  | nil => rfl
  | cons a as =>
      obtain ⟨test, body⟩ := a
      simp only [flattenArms, armsBlockFree, allBlockFree_flattenAll body,
        armsBlockFree_flattenArms as, Bool.and_true]
termination_by structural arms

theorem handlersBlockFree_flattenHandlers (handlers : List Handler) :
    handlersBlockFree (flattenHandlers handlers) = true := by
  cases handlers with
  | nil => rfl
  | cons h hs =>
      obtain ⟨header, body⟩ := h
      simp only [flattenHandlers, handlersBlockFree, allBlockFree_flattenAll body,
        handlersBlockFree_flattenHandlers hs, Bool.and_true]
termination_by structural handlers

theorem casesBlockFree_flattenCases (cases : List MatchCase) :
    casesBlockFree (flattenCases cases) = true := by
  cases cases with
  | nil => rfl
  | cons c cs =>
      obtain ⟨header, body⟩ := c
      simp only [flattenCases, casesBlockFree, allBlockFree_flattenAll body,
        casesBlockFree_flattenCases cs, Bool.and_true]
termination_by structural cases

end

/-! ### Contexts -/

/-- A compound statement without one of its bodies. -/
inductive Frame where
  | branchBody (test : Expr) (arms : List ElifArm) (orElse : Option (List Stmt))
  | branchArm (test : Expr) (body : List Stmt) (before : List ElifArm) (armTest : Expr)
    (after : List ElifArm) (orElse : Option (List Stmt))
  | branchElse (test : Expr) (body : List Stmt) (arms : List ElifArm)
  | forBody (header : ForHeader) (orElse : Option (List Stmt))
  | forElse (header : ForHeader) (body : List Stmt)
  | whileBody (test : Expr) (orElse : Option (List Stmt))
  | whileElse (test : Expr) (body : List Stmt)
  | tryBody (handlers : List Handler) (orElse cleanup : Option (List Stmt))
  | tryHandler (body : List Stmt) (before : List Handler) (header : HandlerHeader)
    (after : List Handler) (orElse cleanup : Option (List Stmt))
  | tryElse (body : List Stmt) (handlers : List Handler) (cleanup : Option (List Stmt))
  | tryCleanup (body : List Stmt) (handlers : List Handler) (orElse : Option (List Stmt))
  | withBody (header : WithHeader)
  | matchCase (subject : Expr) (before : List MatchCase) (header : CaseHeader)
    (after : List MatchCase)
  | functionBody (header : FunctionHeader)
  | classBody (header : ClassHeader)
  | blockBody

/-- The statement with the body that it was without. -/
def Frame.fill (run : List Stmt) : Frame → Stmt
  | .branchBody test arms orElse => .branch test run arms orElse
  | .branchArm test body before armTest after orElse =>
    .branch test body (before ++ ⟨armTest, run⟩ :: after) orElse
  | .branchElse test body arms => .branch test body arms (some run)
  | .forBody header orElse => .forLoop header run orElse
  | .forElse header body => .forLoop header body (some run)
  | .whileBody test orElse => .whileLoop test run orElse
  | .whileElse test body => .whileLoop test body (some run)
  | .tryBody handlers orElse cleanup => .tryBlock ⟨run, handlers, orElse, cleanup⟩
  | .tryHandler body before header after orElse cleanup =>
    .tryBlock ⟨body, before ++ ⟨header, run⟩ :: after, orElse, cleanup⟩
  | .tryElse body handlers cleanup => .tryBlock ⟨body, handlers, some run, cleanup⟩
  | .tryCleanup body handlers orElse => .tryBlock ⟨body, handlers, orElse, some run⟩
  | .withBody header => .withBlock header run
  | .matchCase subject before header after =>
    .matchBlock subject (before ++ ⟨header, run⟩ :: after)
  | .functionBody header => .functionDef header run
  | .classBody header => .classDef header run
  | .blockBody => .block run

/-- Statements around a gap, which is among them or, at whatever depth, among the statements of a
body. -/
inductive Context where
  | here (before after : List Stmt)
  | inside (before : List Stmt) (frame : Frame) (inner : Context) (after : List Stmt)

/-- The statements with the gap filled. -/
def Context.fill (run : List Stmt) : Context → List Stmt
  | .here before after => before ++ run ++ after
  | .inside before frame inner after => before ++ frame.fill (inner.fill run) :: after

theorem flattenArms_append (arms more : List ElifArm) :
    flattenArms (arms ++ more) = flattenArms arms ++ flattenArms more := by
  induction arms with
  | nil => rfl
  | cons a as ih => cases a; rw [List.cons_append, flattenArms, flattenArms, ih, List.cons_append]

theorem flattenHandlers_append (handlers more : List Handler) :
    flattenHandlers (handlers ++ more) = flattenHandlers handlers ++ flattenHandlers more := by
  induction handlers with
  | nil => rfl
  | cons h hs ih =>
      cases h; rw [List.cons_append, flattenHandlers, flattenHandlers, ih, List.cons_append]

theorem flattenCases_append (cases more : List MatchCase) :
    flattenCases (cases ++ more) = flattenCases cases ++ flattenCases more := by
  induction cases with
  | nil => rfl
  | cons c cs ih => cases c; rw [List.cons_append, flattenCases, flattenCases, ih, List.cons_append]

variable {run other : List Stmt}

theorem Frame.flatten_fill_congr (frame : Frame) (h : flattenAll run = flattenAll other) :
    (frame.fill run).flatten = (frame.fill other).flatten := by
  cases frame with
  | branchArm test body before armTest after orElse =>
      simp only [fill, Stmt.flatten, flattenArms_append, flattenArms, h]
  | tryHandler body before header after orElse cleanup =>
      simp only [fill, Stmt.flatten, flattenHandlers_append, flattenHandlers, h]
  | matchCase subject before header after =>
      simp only [fill, Stmt.flatten, flattenCases_append, flattenCases, h]
  | _ => simp only [fill, Stmt.flatten, flattenClause, h]

/-- Statements that are the same but for blocks are so in every context. -/
theorem Context.flattenAll_fill_congr (context : Context) (h : flattenAll run = flattenAll other) :
    flattenAll (context.fill run) = flattenAll (context.fill other) := by
  induction context with
  | here before after => simp only [fill, flattenAll_append, h]
  | inside before frame inner after ih =>
      simp only [fill, flattenAll_append, flattenAll, frame.flatten_fill_congr ih]

/-- Statements in a block, and that block in another one, as often as is said. -/
def wrapped : Nat → List Stmt → List Stmt
  | 0, run => run
  | times + 1, run => [.block (wrapped times run)]

theorem flattenAll_wrapped (times : Nat) (run : List Stmt) :
    flattenAll (wrapped times run) = flattenAll run := by
  induction times with
  | zero => rfl
  | succ times ih => rw [wrapped, flattenAll, flattenAll, List.append_nil, Stmt.flatten, ih]

/-! ### Blank statements and what is written -/

mutual

/-- A statement is blank just when nothing is left of it without blocks. -/
theorem Stmt.isBlank_iff_flatten (s : Stmt) : s.isBlank = true ↔ s.flatten = [] := by
  cases s with
  | block body => rw [Stmt.isBlank, Stmt.flatten, allBlank_iff_flattenAll body]
  | tryBlock parts =>
      obtain ⟨body, handlers, orElse, cleanup⟩ := parts
      simp [Stmt.isBlank, Stmt.flatten]
  | _ => simp [Stmt.isBlank, Stmt.flatten]
termination_by structural s

theorem allBlank_iff_flattenAll (body : List Stmt) :
    allBlank body = true ↔ flattenAll body = [] := by
  cases body with
  | nil => simp [allBlank, flattenAll]
  | cons s ss =>
      rw [allBlank, flattenAll, Bool.and_eq_true, List.append_eq_nil_iff, s.isBlank_iff_flatten,
        allBlank_iff_flattenAll ss]
termination_by structural body

end

namespace Sheet

theorem writeStmts_flattenAll (sheet : Sheet) (body : List Stmt) :
    sheet.writeStmts (flattenAll body) = sheet.writeStmts body := by
  rw [writeStmts, writeStmts, writeBody_eq_lay, writeBody_eq_lay, outlineAll_flattenAll]

theorem writeStmts_flatten (sheet : Sheet) (s : Stmt) :
    sheet.writeStmts s.flatten = sheet.writeStmt s := by
  rw [writeStmts, writeBody_eq_lay, writeStmt_eq_lay, s.outlineAll_flatten]

/-- Statements that are the same but for blocks are written alike. -/
theorem writeStmts_congr (sheet : Sheet) (h : flattenAll run = flattenAll other) :
    sheet.writeStmts run = sheet.writeStmts other := by
  rw [← writeStmts_flattenAll, h, writeStmts_flattenAll]

/-- Nothing but what is blank leaves every sheet as it was: where an indentation is in force, the
first line shows at least that. -/
theorem isBlank_iff_writeStmt (s : Stmt) :
    s.isBlank = true ↔ ∀ sheet : Sheet, sheet.writeStmt s = sheet := by
  constructor
  · intro hblank sheet
    rw [s.isBlank_eq, List.isEmpty_iff] at hblank
    rw [writeStmt_eq_lay, hblank]
    exact sheet.lay_nil
  · intro hkept
    have htext : ((Sheet.mk "" [" "] "" "").lay s.lines).text = "" := by
      rw [Stmt.lines, ← writeStmt_eq_lay, hkept]
    have hlines : s.lines = [] := by
      cases hl : s.lines with
      | nil => rfl
      | cons l lines =>
          rw [hl, lay_cons] at htext
          simp [lineText, layBelow, add] at htext
    rw [s.isBlank_eq, Outline.linesAll_eq_nil_iff.1 hlines]
    rfl

end Sheet

/-- Blocks leave no trace. Without blocks at any depth, statements are written as with them, on every
sheet and in every style. Statements are blank just when nothing is left of them without blocks, and
just when a block of them leaves every sheet as it was. In whatever context, statements may be put
into blocks, as often as one likes, and blank ones may be put in or left out. -/
theorem blocks_transparent (s : Stmt) (body : List Stmt) :
    (∀ sheet : Sheet, sheet.writeStmts s.flatten = sheet.writeStmt s ∧
      sheet.writeStmts (flattenAll body) = sheet.writeStmts body) ∧
    (∀ style, (SourceFile.mk (flattenAll body)).render style = (SourceFile.mk body).render style) ∧
    allBlockFree s.flatten = true ∧ allBlockFree (flattenAll body) = true ∧
    ((Stmt.block body).isBlank = true ↔ flattenAll body = []) ∧
    ((Stmt.block body).isBlank = true ↔ ∀ sheet : Sheet, sheet.writeStmt (.block body) = sheet) ∧
    (∀ (context : Context) (times : Nat) (sheet : Sheet),
      sheet.writeStmts (context.fill (wrapped times body)) = sheet.writeStmts (context.fill body)) ∧
    ((Stmt.block body).isBlank = true → ∀ (context : Context) (sheet : Sheet),
      sheet.writeStmts (context.fill body) = sheet.writeStmts (context.fill [])) := by
  have hblank : (Stmt.block body).isBlank = true ↔ flattenAll body = [] := by
    rw [Stmt.isBlank, allBlank_iff_flattenAll]
  refine ⟨fun sheet => ⟨sheet.writeStmts_flatten s, sheet.writeStmts_flattenAll body⟩, ?_,
    s.allBlockFree_flatten, allBlockFree_flattenAll body, hblank, Sheet.isBlank_iff_writeStmt _, ?_, ?_⟩
  · intro style
    rw [SourceFile.render, SourceFile.render, Sheet.writeStmts_flattenAll]
  · intro context times sheet
    exact sheet.writeStmts_congr (context.flattenAll_fill_congr (flattenAll_wrapped times body))
  · intro h context sheet
    exact sheet.writeStmts_congr (context.flattenAll_fill_congr (hblank.1 h))

/-- Blocks that hold nothing but one another. -/
def hollowBlocks : List Stmt :=
  [.block [], .block [.block []]]

/-- A loop without its body. -/
def loopContext : Context :=
  .inside [] (.whileBody (.literal (.int 1)) none) (.here [] []) []

theorem hollowBlocks_transparent :
    (Stmt.block hollowBlocks).isBlank = true ∧ flattenAll hollowBlocks = [] ∧
    ((Sheet.ofStyle {}).writeStmts (loopContext.fill hollowBlocks)).text = "while 1:\n    pass" := by
  obtain ⟨-, -, -, -, hblank, -, -, hdropped⟩ := blocks_transparent (.block []) hollowBlocks
  have hhollow : (Stmt.block hollowBlocks).isBlank = true := rfl
  refine ⟨hhollow, hblank.1 hhollow, ?_⟩
  rw [hdropped hhollow]
  decide

end Unparse
