import Mathlib.Data.List.Basic
import Mathlib.Data.List.Nodup
import Unparse.Expr.Comprehension

/-!
Runs of steps that make a comprehension. A run falls into parts, one for each clause, and what a clause
is made of can be told from its part alone: the last value that was set, or all that were added. A draft
agrees with the parts of its run, so it is finished exactly when no part lacks anything, and says what
they lack otherwise.
-/

namespace Unparse

/-! ### What steps say -/

namespace ComprehensionStep

def beginsClause : ComprehensionStep → Bool
  | .nextClause _ _ => true
  | _ => false

def targets? : ComprehensionStep → Option (List Identifier)
  | .targets names => some names
  | _ => none

def iterator? : ComprehensionStep → Option Expr
  | .iterator value => some value
  | _ => none

def filter? : ComprehensionStep → Option Expr
  | .filter condition => some condition
  | _ => none

def isAsync? : ComprehensionStep → Option Bool
  | .isAsync value => some value
  | _ => none

end ComprehensionStep

/-- The part of a run that is about one clause: what it is begun with, and the steps after that. -/
structure ClauseRun where
  startsAsync : Bool
  startTargets : List Identifier
  steps : List ComprehensionStep

namespace ClauseRun

/-- The parts of a run that goes on with a clause: a step that begins another one begins another part,
and any other step belongs to the part it stands in. -/
def split (run : ClauseRun) : List ComprehensionStep → List ClauseRun
  | [] => [run]
  | .nextClause isAsync targets :: steps => run :: split ⟨isAsync, targets, []⟩ steps
  | step :: steps => split { run with steps := run.steps ++ [step] } steps

/-- The targets that were set last. -/
def targets (run : ClauseRun) : List Identifier :=
  (run.steps.filterMap ComprehensionStep.targets?).getLast?.getD run.startTargets

/-- The iterator that was set last. -/
def iterator? (run : ClauseRun) : Option Expr :=
  (run.steps.filterMap ComprehensionStep.iterator?).getLast?

/-- All conditions, in order. -/
def filters (run : ClauseRun) : List Expr :=
  run.steps.filterMap ComprehensionStep.filter?

/-- The kind of loop that was set last. -/
def isAsync (run : ClauseRun) : Bool :=
  (run.steps.filterMap ComprehensionStep.isAsync?).getLast?.getD run.startsAsync

/-- A clause is complete when it has an iterator and a target at least. -/
def Complete (run : ClauseRun) : Prop :=
  run.iterator?.isSome ∧ run.targets ≠ []

/-- The clause that a part makes, if it is complete. -/
def clause? (run : ClauseRun) : Option Clause :=
  if run.targets = [] then none
  else run.iterator?.map fun iterator => mkClause run.isAsync run.targets iterator run.filters

/-- What a part lacks, the iterator before the targets. -/
def lacks (run : ClauseRun) : List RequiredField :=
  (if run.iterator? = none then [.clauseIterator] else []) ++
    (if run.targets = [] then [.clauseTarget] else [])

end ClauseRun

/-- Fields are listed as a scan shows them: each once, those that come first in it before the others. -/
structure ListsOnce (fields scan : List RequiredField) : Prop where
  nodup : fields.Nodup
  mem_iff : ∀ field, field ∈ fields ↔ field ∈ scan
  ordered : fields.Pairwise fun a b => scan.idxOf a < scan.idxOf b

/-! ### A draft and the parts of its run -/

namespace ClauseRun

/-- The draft of a clause that a part leads to. -/
def draft (run : ClauseRun) : ClauseDraft :=
  ⟨run.isAsync, run.targets, run.iterator?, run.filters⟩

theorem length_split (run : ClauseRun) (steps : List ComprehensionStep) :
    (run.split steps).length = 1 + steps.countP ComprehensionStep.beginsClause := by
  induction steps generalizing run with
  | nil => rfl
  | cons step steps ih =>
      cases step with
      | nextClause isAsync targets =>
          rw [split, List.length_cons, ih, List.countP_cons_of_pos rfl]
          omega
      | targets _ | iterator _ | filter _ | isAsync _ =>
          rw [split, ih, List.countP_cons_of_neg (by simp [ComprehensionStep.beginsClause])]
          all_goals simp

end ClauseRun

namespace ComprehensionDraft

/-- A step that begins no clause changes the newest clause as it changes the part of the run. -/
theorem newest_step {draft : ComprehensionDraft} {run : ClauseRun} (h : draft.newest = run.draft)
    {step : ComprehensionStep} (hstep : step.beginsClause = false) :
    (draft.step step).earlier = draft.earlier ∧
      (draft.step step).newest = ({ run with steps := run.steps ++ [step] } : ClauseRun).draft := by
  cases step with
  | nextClause _ _ => cases hstep
  | targets _ | iterator _ | filter _ | isAsync _ =>
      refine ⟨rfl, ?_⟩
      simp [ComprehensionDraft.step, h, ClauseRun.draft, ClauseRun.isAsync, ClauseRun.targets,
        ClauseRun.iterator?, ClauseRun.filters, ComprehensionStep.isAsync?,
        ComprehensionStep.targets?, ComprehensionStep.iterator?, ComprehensionStep.filter?]

/-- The clauses after a run are those before it and the drafts that its parts lead to. -/
theorem clauses_run {draft : ComprehensionDraft} {run : ClauseRun} (h : draft.newest = run.draft)
    (steps : List ComprehensionStep) :
    (draft.run steps).clauses = draft.earlier ++ (run.split steps).map ClauseRun.draft := by
  induction steps generalizing draft run with
  | nil => simp [ComprehensionDraft.run, clauses, ClauseRun.split, h]
  | cons step steps ih =>
      have hrun : draft.run (step :: steps) = (draft.step step).run steps := rfl
      have hchanged : step.beginsClause = false → _ := newest_step h
      cases step with
      | nextClause isAsync targets =>
          have hnext : (draft.step (.nextClause isAsync targets)).newest =
              (⟨isAsync, targets, []⟩ : ClauseRun).draft := rfl
          rw [hrun, ih hnext, ClauseRun.split, List.map_cons, ← h]
          simp [ComprehensionDraft.step]
      | targets _ | iterator _ | filter _ | isAsync _ =>
          obtain ⟨hearlier, hnewest⟩ := hchanged rfl
          rw [hrun, ih hnewest, hearlier, ClauseRun.split]
          simp

theorem element_run (draft : ComprehensionDraft) (steps : List ComprehensionStep) :
    (draft.run steps).element = draft.element := by
  induction steps generalizing draft with
  | nil => rfl
  | cons step steps ih =>
      have hstep : (draft.step step).element = draft.element := by cases step <;> rfl
      exact (ih (draft.step step)).trans hstep

end ComprehensionDraft

/-! ### What is missing -/

namespace ClauseRun

theorem missing_draft (run : ClauseRun) : run.draft.missing = run.lacks := by
  simp [ClauseDraft.missing, lacks, draft]

theorem lacks_eq_nil_iff (run : ClauseRun) : run.lacks = [] ↔ run.Complete := by
  cases hiterator : run.iterator? with
  | none => simp [lacks, Complete, hiterator]
  | some iterator => simp [lacks, Complete, hiterator]

theorem iterator_mem_lacks (run : ClauseRun) :
    RequiredField.clauseIterator ∈ run.lacks ↔ run.iterator? = none := by
  by_cases htargets : run.targets = [] <;> simp [lacks, htargets]

theorem target_mem_lacks (run : ClauseRun) :
    RequiredField.clauseTarget ∈ run.lacks ↔ run.targets = [] := by
  by_cases hiterator : run.iterator? = none <;> simp [lacks, hiterator]

/-- A complete part makes a clause, and its draft makes the same one. -/
theorem Complete.exists_clause {run : ClauseRun} (h : run.Complete) :
    ∃ c, run.clause? = some c ∧ run.draft.finish? = some c := by
  obtain ⟨iterator, hiterator⟩ := Option.isSome_iff_exists.1 h.1
  refine ⟨mkClause run.isAsync run.targets iterator run.filters, ?_, ?_⟩
  · rw [clause?, if_neg h.2, hiterator, Option.map_some]
  · simp [ClauseDraft.finish?, draft, hiterator]

/-- Complete parts make as many clauses, and none of their drafts is dropped. -/
theorem exists_clauses {runs : List ClauseRun} (h : ∀ run ∈ runs, run.Complete) :
    ∃ clauses, runs.map clause? = clauses.map some ∧
      (runs.map draft).filterMap ClauseDraft.finish? = clauses := by
  induction runs with
  | nil => exact ⟨[], rfl, rfl⟩
  | cons run runs ih =>
      obtain ⟨hrun, hruns⟩ := List.forall_mem_cons.1 h
      obtain ⟨c, hclause, hfinish⟩ := hrun.exists_clause
      obtain ⟨clauses, hclauses, hfinishes⟩ := ih hruns
      refine ⟨c :: clauses, ?_, ?_⟩
      · rw [List.map_cons, List.map_cons, hclause, hclauses]
      · rw [List.map_cons, List.filterMap_cons_some hfinish, hfinishes]

end ClauseRun

/-- What comes first without the occurrences of an element comes first with them. -/
theorem idxOf_lt_of_filter {x a b : RequiredField} (ha : a ≠ x) (hb : b ≠ x)
    {xs : List RequiredField}
    (h : (xs.filter fun y => !y == x).idxOf a < (xs.filter fun y => !y == x).idxOf b) :
    xs.idxOf a < xs.idxOf b := by
  induction xs with
  | nil => exact h
  | cons y xs ih =>
      by_cases hy : y = x
      · subst hy
        rw [List.filter_cons_of_neg (by simp)] at h
        rw [List.idxOf_cons_ne _ ha.symm, List.idxOf_cons_ne _ hb.symm]
        exact Nat.succ_lt_succ (ih h)
      · rw [List.filter_cons_of_pos (by simp [hy])] at h
        by_cases hyb : y = b
        · subst hyb
          rw [List.idxOf_cons_self] at h
          exact absurd h (Nat.not_lt_zero _)
        rw [List.idxOf_cons_ne _ hyb] at h ⊢
        by_cases hya : y = a
        · subst hya
          rw [List.idxOf_cons_self]
          exact Nat.succ_pos _
        rw [List.idxOf_cons_ne _ hya] at h ⊢
        exact Nat.succ_lt_succ (ih (Nat.lt_of_succ_lt_succ h))

/-- The first occurrences of elements stand in the order of the list. -/
theorem pairwise_eraseDups (xs : List RequiredField) :
    xs.eraseDups.Pairwise fun a b => xs.idxOf a < xs.idxOf b := by
  match xs with
  | [] => exact List.Pairwise.nil
  | x :: xs =>
      have hrest := pairwise_eraseDups (xs.filter fun y => !y == x)
      have hne {a : RequiredField} (ha : a ∈ (xs.filter fun y => !y == x).eraseDups) : a ≠ x := by
        have hmem := List.mem_eraseDups.1 ha
        simpa using (List.mem_filter.1 hmem).2
      rw [List.eraseDups_cons, List.pairwise_cons]
      constructor
      · intro a ha
        rw [List.idxOf_cons_self, List.idxOf_cons_ne _ (hne ha).symm]
        exact Nat.succ_pos _
      · refine hrest.imp_of_mem fun ha hb h => ?_
        rw [List.idxOf_cons_ne _ (hne ha).symm, List.idxOf_cons_ne _ (hne hb).symm]
        exact Nat.succ_lt_succ (idxOf_lt_of_filter (hne ha) (hne hb) h)
termination_by xs.length
decreasing_by exact Nat.lt_succ_of_le (List.length_filter_le _ _)

theorem listsOnce_eraseDups (scan : List RequiredField) : ListsOnce scan.eraseDups scan := by
  have hordered := pairwise_eraseDups scan
  refine ⟨hordered.imp fun h heq => ?_, fun _ => List.mem_eraseDups, hordered⟩
  exact absurd (heq ▸ h) (Nat.lt_irrefl _)

/-! ### Finished drafts -/

namespace ComprehensionDraft

theorem missing_eq {draft : ComprehensionDraft} {runs : List ClauseRun}
    (h : draft.clauses = runs.map ClauseRun.draft) :
    draft.missing = (runs.flatMap ClauseRun.lacks).eraseDups := by
  have hmissing : (fun run : ClauseRun => run.draft.missing) = ClauseRun.lacks :=
    funext ClauseRun.missing_draft
  rw [missing, h, List.flatMap_map, hmissing]

/-- Where no part lacks anything, a draft is finished with the clauses of all parts. -/
theorem finish_of_complete {draft : ComprehensionDraft} {runs : List ClauseRun}
    (h : draft.clauses = runs.map ClauseRun.draft) (hcomplete : ∀ run ∈ runs, run.Complete) :
    ∃ clauses, runs.map ClauseRun.clause? = clauses.map some ∧
      draft.finish = Comprehension.ofClauses draft.element clauses := by
  obtain ⟨clauses, hmade, hfinished⟩ := ClauseRun.exists_clauses hcomplete
  have hnone : runs.flatMap ClauseRun.lacks = [] := by
    rw [List.flatMap_eq_nil_iff]
    exact fun run hrun => run.lacks_eq_nil_iff.2 (hcomplete run hrun)
  refine ⟨clauses, hmade, ?_⟩
  rw [finish, missing_eq h, hnone, List.eraseDups_nil, h, hfinished]

/-- Where a part lacks something, a draft is refused for what all parts lack. -/
theorem finish_of_incomplete {draft : ComprehensionDraft} {runs : List ClauseRun}
    (h : draft.clauses = runs.map ClauseRun.draft) {run : ClauseRun} (hrun : run ∈ runs)
    (hlacks : ¬ run.Complete) :
    draft.finish = .error (.missingFields (runs.flatMap ClauseRun.lacks).eraseDups) := by
  obtain ⟨field, hfield⟩ := List.exists_mem_of_ne_nil _ (mt run.lacks_eq_nil_iff.1 hlacks)
  have hmem : field ∈ (runs.flatMap ClauseRun.lacks).eraseDups :=
    List.mem_eraseDups.2 (List.mem_flatMap.2 ⟨run, hrun, hfield⟩)
  rw [finish, missing_eq h]
  cases hfields : (runs.flatMap ClauseRun.lacks).eraseDups with
  | nil =>
      rw [hfields] at hmem
      cases hmem
  | cons _ _ => rfl

/-- A draft after any run has as many parts as clauses were begun. If every part has an iterator and a
target, the draft is finished, and the result is what the element and the clauses of all parts make in
order. Otherwise it is refused for what the parts lack, each field once and in the order in which the
parts show it, an iterator before a target. -/
theorem finish_run (element : Expr) (isAsync : Bool) (targets : List Identifier)
    (steps : List ComprehensionStep) :
    let runs := ClauseRun.split ⟨isAsync, targets, []⟩ steps
    let result := ((start element isAsync targets).run steps).finish
    runs.length = 1 + steps.countP ComprehensionStep.beginsClause ∧
    ((∃ c, result = .ok c) ↔ ∀ run ∈ runs, run.Complete) ∧
    (((∀ run ∈ runs, run.Complete) ∧ ∃ clauses, runs.map ClauseRun.clause? = clauses.map some ∧
        result = Comprehension.ofClauses element clauses) ∨
      ((∃ run ∈ runs, ¬ run.Complete) ∧ ∃ fields, result = .error (.missingFields fields) ∧
        (.clauseIterator ∈ fields ↔ ∃ run ∈ runs, run.iterator? = none) ∧
        (.clauseTarget ∈ fields ↔ ∃ run ∈ runs, run.targets = []) ∧
        ListsOnce fields (runs.flatMap ClauseRun.lacks))) := by
  intro runs result
  have hstart : (start element isAsync targets).newest =
      (⟨isAsync, targets, []⟩ : ClauseRun).draft := rfl
  have hclauses : ((start element isAsync targets).run steps).clauses = runs.map ClauseRun.draft :=
    clauses_run hstart steps
  have hlength : runs.length = 1 + steps.countP ComprehensionStep.beginsClause :=
    ClauseRun.length_split _ steps
  by_cases hcomplete : ∀ run ∈ runs, run.Complete
  · obtain ⟨clauses, hmade, hfinished⟩ := finish_of_complete hclauses hcomplete
    rw [element_run] at hfinished
    have hne : clauses ≠ [] := by
      rintro rfl
      have hlengths := congrArg List.length hmade
      simp only [List.length_map, List.length_nil] at hlengths
      omega
    refine ⟨hlength, ⟨fun _ => hcomplete, fun _ => ?_⟩,
      Or.inl ⟨hcomplete, clauses, hmade, hfinished⟩⟩
    exact ⟨⟨Slot.comprehensionElement.place element, clauses, hne⟩, hfinished.trans (dif_neg hne)⟩
  · have hlacking : ∃ run ∈ runs, ¬ run.Complete := by
      push Not at hcomplete
      exact hcomplete
    obtain ⟨run, hrun, hlacks⟩ := hlacking
    have hresult : result = .error (.missingFields (runs.flatMap ClauseRun.lacks).eraseDups) :=
      finish_of_incomplete hclauses hrun hlacks
    have hlisted := listsOnce_eraseDups (runs.flatMap ClauseRun.lacks)
    refine ⟨hlength, ⟨fun ⟨c, hc⟩ => ?_, fun h => absurd h hcomplete⟩,
      Or.inr ⟨⟨run, hrun, hlacks⟩, _, hresult, ?_, ?_, hlisted⟩⟩
    · rw [hresult] at hc
      cases hc
    · rw [hlisted.mem_iff, List.mem_flatMap]
      simp only [ClauseRun.iterator_mem_lacks]
    · rw [hlisted.mem_iff, List.mem_flatMap]
      simp only [ClauseRun.target_mem_lacks]

end ComprehensionDraft

end Unparse
