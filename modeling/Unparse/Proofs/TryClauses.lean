import Mathlib.Data.List.Induction
import Unparse.Proofs.Layout
import Unparse.Stmt.Try

/-!
The clauses of a `try`. They are given in any order and number, and still the written sequence is one
that the grammar has: an `else` without a handler is refused when it is given, and a `try` with
neither a handler nor a cleanup gets a cleanup when it is written.
-/

namespace Unparse

/-! ### Lines at the margin -/

/-- The text of the first line. -/
def Outline.header : Outline → String
  | .line text _ => text

/-- The texts of the lines that stand as deep as the statement itself. -/
def Stmt.margin (s : Stmt) : List String :=
  (s.lines.filter (·.depth = 0)).map (·.text)

/-- The suites are deeper than the lines they belong to. -/
theorem Outline.margin_linesAll (os : List Outline) :
    ((linesAll 0 os).filter (·.depth = 0)).map (·.text) = os.map header := by
  induction os with
  | nil => rfl
  | cons o os ih =>
      obtain ⟨text, suite⟩ := o
      have hsuite : (linesAll 1 suite).filter (·.depth = 0) = [] := by
        rw [linesAll_succ, List.filter_eq_nil_iff]
        intro l hl
        obtain ⟨inner, -, rfl⟩ := List.mem_map.1 hl
        simp
      simp only [linesAll, lines, List.cons_append, List.filter_cons, List.filter_append, hsuite,
        List.nil_append, decide_true, if_true, List.map_cons, ih, header]

theorem header_outlineHandlers (handlers : List Handler) :
    (outlineHandlers handlers).map Outline.header = handlers.map (·.header.text ++ ":") := by
  induction handlers with
  | nil => rfl
  | cons handler handlers ih =>
      obtain ⟨header, body⟩ := handler
      rw [outlineHandlers, List.map_cons, ih, List.map_cons, Handler.outline, Outline.clause,
        Outline.header]

theorem header_outlineClause (word : String) (body : Option (List Stmt)) :
    (outlineClause word body).map Outline.header = if body.isSome then [word ++ ":"] else [] := by
  cases body with
  | none => rfl
  | some body => rfl

/-- The clauses that a `try` is written with: an `else` and a cleanup if there are any, and a cleanup
in any case if there is no handler. -/
theorem Try.margin_tryBlock (parts : Try) :
    (Stmt.tryBlock parts).margin =
      "try:" :: parts.handlers.map (·.header.text ++ ":") ++
        (if parts.orElse.isSome then ["else:"] else []) ++
        (if parts.cleanup.isSome || parts.handlers.isEmpty then ["finally:"] else []) := by
  obtain ⟨body, handlers, orElse, cleanup⟩ := parts
  rw [Stmt.margin, Stmt.lines, Stmt.outline, Try.outline, Outline.margin_linesAll]
  simp only [List.map_append, List.map_cons, header_outlineHandlers, header_outlineClause]
  cases cleanup with
  | some cleanup => simp [Outline.clause, Outline.header]
  | none => cases handlers <;> simp [Outline.clause, Outline.header]

/-! ### The steps so far -/

namespace TryStep

def handler? : TryStep → Option Handler
  | .handler added => some added
  | _ => none

/-- The body that a step gives for the `else`. -/
def orElse? : TryStep → Option (List Stmt)
  | .orElse body => some body
  | _ => none

/-- The body that a step gives for the cleanup. -/
def cleanup? : TryStep → Option (List Stmt)
  | .cleanup body => some body
  | _ => none

end TryStep

namespace Try

/-- The `try` that steps make if none is refused: the handlers in order, and of each other clause the
last body. -/
def given (body : List Stmt) (steps : List TryStep) : Try :=
  ⟨body, steps.filterMap TryStep.handler?, (steps.filterMap TryStep.orElse?).getLast?,
    (steps.filterMap TryStep.cleanup?).getLast?⟩

/-- Some `else` is given before any handler. -/
def PrematureElse (steps : List TryStep) : Prop :=
  ∃ before body after, steps = before ++ .orElse body :: after ∧
    before.filterMap TryStep.handler? = []

theorem prematureElse_concat {steps : List TryStep} {step : TryStep} :
    PrematureElse (steps ++ [step]) ↔
      PrematureElse steps ∨ step.orElse?.isSome ∧ steps.filterMap TryStep.handler? = [] := by
  constructor
  · rintro ⟨before, body, after, heq, hbefore⟩
    rcases List.eq_nil_or_concat after with rfl | ⟨rest, last, rfl⟩
    · obtain ⟨rfl, hstep⟩ := List.append_inj' heq rfl
      obtain rfl := List.singleton_inj.1 hstep
      exact Or.inr ⟨rfl, hbefore⟩
    · rw [List.concat_eq_append, ← List.cons_append, ← List.append_assoc] at heq
      exact Or.inl ⟨before, body, rest, (List.append_inj' heq rfl).1, hbefore⟩
  · rintro (⟨before, body, after, rfl, hbefore⟩ | ⟨hstep, hsteps⟩)
    · exact ⟨before, body, after ++ [step], by simp, hbefore⟩
    · cases step with
      | orElse body => exact ⟨steps, body, [], rfl, hsteps⟩
      | handler handler => cases hstep
      | cleanup body => cases hstep

/-- One step: an `else` before any handler is refused, and any other step does to the `try` what it
does to the steps. -/
theorem step_given (body : List Stmt) (steps : List TryStep) (step : TryStep) :
    (given body steps).step step =
      if step.orElse?.isSome ∧ steps.filterMap TryStep.handler? = [] then .error .elseWithoutHandler
      else .ok (given body (steps ++ [step])) := by
  cases step with
  | handler handler =>
      simp [Try.step, given, TryStep.orElse?, TryStep.handler?, TryStep.cleanup?, List.filterMap_cons]
  | orElse orElse =>
      simp [Try.step, given, TryStep.orElse?, TryStep.handler?, TryStep.cleanup?, List.filterMap_cons]
  | cleanup cleanup =>
      simp [Try.step, given, TryStep.orElse?, TryStep.handler?, TryStep.cleanup?, List.filterMap_cons]

/-- A run: by induction from the last step, the steps before it being what has been given so far. -/
theorem run_start (body : List Stmt) (steps : List TryStep) :
    PrematureElse steps ∧ (start body).run steps = .error .elseWithoutHandler ∨
      ¬PrematureElse steps ∧ (start body).run steps = .ok (given body steps) := by
  induction steps using List.reverseRecOn with
  | nil =>
      refine Or.inr ⟨?_, rfl⟩
      rintro ⟨before, body, after, heq, -⟩
      exact List.append_ne_nil_of_right_ne_nil before (List.cons_ne_nil _ after) heq.symm
  | append_singleton steps step ih =>
      have hrun : (start body).run (steps ++ [step]) =
          (start body).run steps >>= fun parts => parts.step step := by
        simp [run, List.foldlM_append]
      rw [hrun, prematureElse_concat]
      rcases ih with ⟨hearly, hsteps⟩ | ⟨hearly, hsteps⟩
      · exact Or.inl ⟨Or.inl hearly, by rw [hsteps]; rfl⟩
      · have hstep : (start body).run steps >>= (fun parts => parts.step step) =
            (given body steps).step step := by rw [hsteps]; rfl
        rw [hstep, step_given]
        by_cases hrefused : step.orElse?.isSome ∧ steps.filterMap TryStep.handler? = []
        · exact Or.inl ⟨Or.inr hrefused, if_pos hrefused⟩
        · exact Or.inr ⟨not_or.2 ⟨hearly, hrefused⟩, if_neg hrefused⟩

/-! ### Legal clauses -/

example : (start []).run [.cleanup [], .orElse []] = .error .elseWithoutHandler :=
  rfl

end Try

end Unparse
