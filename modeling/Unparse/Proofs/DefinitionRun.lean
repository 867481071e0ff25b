import Unparse.Stmt.Basic

/-!
Runs of steps that make a function or a class. A step adds to a list, replaces a part, or makes the
function wait, and no two steps on different parts get in each other's way: what a run makes can be told
from each part alone, the lists by everything that was added to them, the name and the type of the
result by what was set last.
-/

namespace Unparse

/-! ### What steps say -/

namespace FunctionStep

def addedDecorators : FunctionStep → List Expr
  | .decorator value => [value]
  | _ => []

def addedTypeParams : FunctionStep → List TypeParam
  | .typeParams added => added
  | _ => []

def addedParams : FunctionStep → List Param
  | .params added => added
  | _ => []

def name? : FunctionStep → Option Identifier
  | .name chosen | .asyncName chosen => some chosen
  | _ => none

/-- The type of the result that a step sets. -/
def result? : FunctionStep → Option Expr
  | .result declared => some declared
  | _ => none

/-- Whether a step makes the function wait. -/
def setsAsync : FunctionStep → Bool
  | .async | .asyncName _ => true
  | _ => false

/-- Two runs of steps say the same about each part of a function. -/
structure SameFields (steps others : List FunctionStep) : Prop where
  decorators_eq : steps.flatMap addedDecorators = others.flatMap addedDecorators
  typeParams_eq : steps.flatMap addedTypeParams = others.flatMap addedTypeParams
  params_eq : steps.flatMap addedParams = others.flatMap addedParams
  name_eq : (steps.filterMap name?).getLast? = (others.filterMap name?).getLast?
  result_eq : (steps.filterMap result?).getLast? = (others.filterMap result?).getLast?
  async_iff : (∃ step ∈ steps, step.setsAsync = true) ↔ ∃ step ∈ others, step.setsAsync = true

end FunctionStep

namespace ClassStep

def addedDecorators : ClassStep → List Expr
  | .decorator value => [value]
  | _ => []

def addedTypeParams : ClassStep → List TypeParam
  | .typeParams added => added
  | _ => []

def addedBases : ClassStep → List Expr
  | .bases added => added
  | _ => []

def addedKeywords : ClassStep → List KeywordArg
  | .keywords added => added
  | _ => []

def name? : ClassStep → Option Identifier
  | .name chosen => some chosen
  | _ => none

/-- Two runs of steps say the same about each part of a class. -/
structure SameFields (steps others : List ClassStep) : Prop where
  decorators_eq : steps.flatMap addedDecorators = others.flatMap addedDecorators
  typeParams_eq : steps.flatMap addedTypeParams = others.flatMap addedTypeParams
  bases_eq : steps.flatMap addedBases = others.flatMap addedBases
  keywords_eq : steps.flatMap addedKeywords = others.flatMap addedKeywords
  name_eq : (steps.filterMap name?).getLast? = (others.filterMap name?).getLast?

end ClassStep

/-! ### The steps so far -/

/-- Where each step does to what is made what it does to the list of steps, a run goes on from the steps
before it. -/
theorem foldl_given {σ τ : Type} {step : σ → τ → σ} {given : List τ → σ}
    (h : ∀ before next, step (given before) next = given (before ++ [next])) (before steps : List τ) :
    steps.foldl step (given before) = given (before ++ steps) := by
  induction steps generalizing before with
  | nil => rw [List.append_nil, List.foldl_nil]
  | cons next steps ih => rw [List.foldl_cons, h, ih, List.append_assoc, List.singleton_append]

namespace FunctionDraft

/-- The draft that steps make: all that was added to each list, the last of what was set, and whether
any step makes the function wait. -/
def given (decorators : List Expr) (steps : List FunctionStep) : FunctionDraft where
  decorators := decorators ++ steps.flatMap FunctionStep.addedDecorators
  isAsync := steps.any FunctionStep.setsAsync
  name := (steps.filterMap FunctionStep.name?).getLast?
  typeParams := steps.flatMap FunctionStep.addedTypeParams
  params := steps.flatMap FunctionStep.addedParams
  result := (steps.filterMap FunctionStep.result?).getLast?.map Slot.keywordValue.place

/-- One step does to the draft what it does to the steps. -/
theorem step_given (decorators : List Expr) (steps : List FunctionStep) (step : FunctionStep) :
    (given decorators steps).step step = given decorators (steps ++ [step]) := by
  cases step <;>
    simp [FunctionDraft.step, given, FunctionStep.addedDecorators, FunctionStep.addedTypeParams,
      FunctionStep.addedParams, FunctionStep.name?, FunctionStep.result?, FunctionStep.setsAsync,
      List.filterMap_cons]

/-- A run from the start, by induction with the steps so far. -/
theorem run_start (decorators : List Expr) (steps : List FunctionStep) :
    (start decorators).run steps = given decorators steps := by
  have hstart : start decorators = given decorators [] := by simp [start, given]
  rw [hstart]
  exact foldl_given (step_given decorators) [] steps

/-- What a draft has been given can be told part by part. -/
theorem given_congr (decorators : List Expr) {steps others : List FunctionStep}
    (h : FunctionStep.SameFields steps others) :
    given decorators steps = given decorators others := by
  have hasync : steps.any FunctionStep.setsAsync = others.any FunctionStep.setsAsync := by
    rw [Bool.eq_iff_iff, List.any_eq_true, List.any_eq_true]
    exact h.async_iff
  simp only [given, h.decorators_eq, h.typeParams_eq, h.params_eq, h.name_eq, h.result_eq, hasync]

/-- Decorators that are added first are decorators to start with. -/
theorem run_decorators (decorators values : List Expr) (steps : List FunctionStep) :
    (start decorators).run (values.map .decorator ++ steps) =
      (start (decorators ++ values)).run steps := by
  have hvalues : values.foldl (fun draft value => FunctionDraft.step draft (.decorator value))
      (start decorators) = start (decorators ++ values) :=
    foldl_given (fun _ _ => rfl) decorators values
  rw [run, List.foldl_append, List.foldl_map, hvalues, run]

/-- After any steps, a body makes a function from the fields that the steps collected; if no name was
given, it is refused for the missing name. -/
theorem block_run (decorators : List Expr) (steps : List FunctionStep) (body : List Stmt) :
    let told := given decorators steps
    ((start decorators).run steps).block body =
      match told.name with
      | some name =>
        .ok (.functionDef
          ⟨told.decorators, told.isAsync, name, told.typeParams, told.params, told.result⟩ body)
      | none => .error (.missingFields [.definitionName]) := by
  intro told
  rw [run_start, block, finish]
  cases (given decorators steps).name with
  | some name => rfl
  | none => rfl

end FunctionDraft

namespace ClassDraft

/-- The draft that steps make: all that was added to each list, and the name that was set last. -/
def given (decorators : List Expr) (steps : List ClassStep) : ClassDraft where
  decorators := decorators ++ steps.flatMap ClassStep.addedDecorators
  name := (steps.filterMap ClassStep.name?).getLast?
  typeParams := steps.flatMap ClassStep.addedTypeParams
  bases := steps.flatMap ClassStep.addedBases
  keywords := steps.flatMap ClassStep.addedKeywords

/-- One step does to the draft what it does to the steps. -/
theorem step_given (decorators : List Expr) (steps : List ClassStep) (step : ClassStep) :
    (given decorators steps).step step = given decorators (steps ++ [step]) := by
  cases step <;>
    simp [ClassDraft.step, given, ClassStep.addedDecorators, ClassStep.addedTypeParams,
      ClassStep.addedBases, ClassStep.addedKeywords, ClassStep.name?, List.filterMap_cons]

/-- A run from the start, by induction with the steps so far. -/
theorem run_start (decorators : List Expr) (steps : List ClassStep) :
    (start decorators).run steps = given decorators steps := by
  have hstart : start decorators = given decorators [] := by simp [start, given]
  rw [hstart]
  exact foldl_given (step_given decorators) [] steps

/-- What a draft has been given can be told part by part. -/
theorem given_congr (decorators : List Expr) {steps others : List ClassStep}
    (h : ClassStep.SameFields steps others) :
    given decorators steps = given decorators others := by
  simp only [given, h.decorators_eq, h.typeParams_eq, h.bases_eq, h.keywords_eq, h.name_eq]

/-- Decorators that are added first are decorators to start with. -/
theorem run_decorators (decorators values : List Expr) (steps : List ClassStep) :
    (start decorators).run (values.map .decorator ++ steps) =
      (start (decorators ++ values)).run steps := by
  have hvalues : values.foldl (fun draft value => ClassDraft.step draft (.decorator value))
      (start decorators) = start (decorators ++ values) :=
    foldl_given (fun _ _ => rfl) decorators values
  rw [run, List.foldl_append, List.foldl_map, hvalues, run]

/-- After any steps, a body makes a class from the fields that the steps collected; if no name was given,
it is refused for the missing name. -/
theorem block_run (decorators : List Expr) (steps : List ClassStep) (body : List Stmt) :
    let told := given decorators steps
    ((start decorators).run steps).block body =
      match told.name with
      | some name =>
        .ok (.classDef ⟨told.decorators, name, told.typeParams, told.bases, told.keywords⟩ body)
      | none => .error (.missingFields [.definitionName]) := by
  intro told
  rw [run_start, block, finish]
  cases (given decorators steps).name with
  | some name => rfl
  | none => rfl

end ClassDraft

/-! ### Definitions told from their parts -/

/-- Decorators that are collected one after the other are all there, in this order. -/
theorem DecoratorGroup.foldl_add (group : DecoratorGroup) (values : List Expr) :
    values.foldl add group = ⟨group.decorators ++ values⟩ := by
  have hadd (before : List Expr) (next : Expr) : add ⟨before⟩ next = ⟨before ++ [next]⟩ := rfl
  exact foldl_given hadd group.decorators values

/-- What comes of decorators that are collected ahead of a definition with a name. -/
structure DecoratorGroup.Hands (group : DecoratorGroup) (decorators : List Expr) (name : Identifier) :
    Prop where
  /-- They are the first steps of the run. -/
  function_run : ∀ steps, (group.function name).run steps =
    (FunctionDraft.start []).run (decorators.map .decorator ++ .name name :: steps)
  asyncFunction_run : ∀ steps, (group.asyncFunction name).run steps =
    (FunctionDraft.start []).run (decorators.map .decorator ++ .asyncName name :: steps)
  class_run : ∀ steps, (group.classOf name).run steps =
    (ClassDraft.start []).run (decorators.map .decorator ++ .name name :: steps)
  /-- Those that are added later follow them in one list. -/
  function_decorators : ∀ steps, ((group.function name).run steps).decorators =
    decorators ++ steps.flatMap FunctionStep.addedDecorators
  asyncFunction_decorators : ∀ steps, ((group.asyncFunction name).run steps).decorators =
    decorators ++ steps.flatMap FunctionStep.addedDecorators
  class_decorators : ∀ steps, ((group.classOf name).run steps).decorators =
    decorators ++ steps.flatMap ClassStep.addedDecorators

theorem DecoratorGroup.hands_decorators (group : DecoratorGroup) (name : Identifier) :
    group.Hands group.decorators name where
  function_run steps := (FunctionDraft.run_decorators [] group.decorators (.name name :: steps)).symm
  asyncFunction_run steps :=
    (FunctionDraft.run_decorators [] group.decorators (.asyncName name :: steps)).symm
  class_run steps := (ClassDraft.run_decorators [] group.decorators (.name name :: steps)).symm
  function_decorators steps :=
    congrArg FunctionDraft.decorators (FunctionDraft.run_start group.decorators (.name name :: steps))
  asyncFunction_decorators steps :=
    congrArg FunctionDraft.decorators
      (FunctionDraft.run_start group.decorators (.asyncName name :: steps))
  class_decorators steps :=
    congrArg ClassDraft.decorators (ClassDraft.run_start group.decorators (.name name :: steps))

/-- What a run of steps makes of a definition is told from what the steps say about each part of it: two
runs that say the same, in whatever order, make the same function or class with every body, or both lack
its name. Decorators that are collected ahead of the definition stand in one list with those that are
added to it, in the order in which they were given. -/
theorem definition_told_by_fields (decorators : List Expr) (body : List Stmt) :
    (∀ steps : List FunctionStep,
      let told := FunctionDraft.given decorators steps
      ((FunctionDraft.start decorators).run steps).block body =
        match told.name with
        | some name =>
          .ok (.functionDef
            ⟨told.decorators, told.isAsync, name, told.typeParams, told.params, told.result⟩ body)
        | none => .error (.missingFields [.definitionName])) ∧
    (∀ steps others : List FunctionStep, FunctionStep.SameFields steps others →
      ((FunctionDraft.start decorators).run steps).block body =
        ((FunctionDraft.start decorators).run others).block body) ∧
    (∀ steps : List ClassStep,
      let told := ClassDraft.given decorators steps
      ((ClassDraft.start decorators).run steps).block body =
        match told.name with
        | some name =>
          .ok (.classDef ⟨told.decorators, name, told.typeParams, told.bases, told.keywords⟩ body)
        | none => .error (.missingFields [.definitionName])) ∧
    (∀ steps others : List ClassStep, ClassStep.SameFields steps others →
      ((ClassDraft.start decorators).run steps).block body =
        ((ClassDraft.start decorators).run others).block body) ∧
    ∀ (first : Expr) (more : List Expr) (name : Identifier),
      (more.foldl DecoratorGroup.add (.ofDecorator first)).Hands (first :: more) name := by
  refine ⟨fun steps => FunctionDraft.block_run decorators steps body, fun steps others hsame => ?_,
    fun steps => ClassDraft.block_run decorators steps body, fun steps others hsame => ?_,
    fun first more name => ?_⟩
  · rw [FunctionDraft.run_start, FunctionDraft.run_start, FunctionDraft.given_congr decorators hsame]
  · rw [ClassDraft.run_start, ClassDraft.run_start, ClassDraft.given_congr decorators hsame]
  · rw [DecoratorGroup.foldl_add]
    exact DecoratorGroup.hands_decorators _ name

/-- The parts of a function one by one, with a name that is replaced later. -/
def scatteredSteps (value : Expr) : List FunctionStep :=
  [.name ⟨"load", by decide⟩, .params [.ofName .single ⟨"key", by decide⟩], .decorator value, .async,
    .result value, .params [.ofName .further ⟨"values", by decide⟩], .name ⟨"store", by decide⟩]

/-- The same parts with all parameters at once. -/
def gatheredSteps (value : Expr) : List FunctionStep :=
  [.asyncName ⟨"store", by decide⟩,
    .params [.ofName .single ⟨"key", by decide⟩, .ofName .further ⟨"values", by decide⟩], .result value,
    .decorator value]

theorem sameFields_scatteredSteps (value : Expr) :
    FunctionStep.SameFields (scatteredSteps value) (gatheredSteps value) where
  decorators_eq := rfl
  typeParams_eq := rfl
  params_eq := rfl
  name_eq := rfl
  result_eq := rfl
  async_iff := by simp [scatteredSteps, gatheredSteps, FunctionStep.setsAsync]

theorem scatteredSteps_told_by_fields :
    let value := Expr.identifier ⟨"cached", by decide⟩
    let made : FunctionHeader := ⟨[value, value], true, ⟨"store", by decide⟩, [],
      [.ofName .single ⟨"key", by decide⟩, .ofName .further ⟨"values", by decide⟩], some value⟩
    ((FunctionDraft.start [value]).run (scatteredSteps value)).block [] = .ok (.functionDef made []) ∧
    ((FunctionDraft.start [value]).run (gatheredSteps value)).block [] = .ok (.functionDef made []) ∧
    ((FunctionDraft.start [value]).run [.async]).block [] =
      .error (.missingFields [.definitionName]) := by
  intro value made
  obtain ⟨htold, hsame, -⟩ := definition_told_by_fields [value] []
  refine ⟨(htold _).trans rfl, ?_, (htold _).trans rfl⟩
  exact (hsame _ _ (sameFields_scatteredSteps value)).symm.trans ((htold _).trans rfl)

end Unparse
