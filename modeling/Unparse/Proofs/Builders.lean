import Unparse.Proofs.Construction

/-!
Statements as they are built: each head is made by its own steps from expressions that were built
before. Whatever such a statement holds fits the position where it is held, since every step that
stores an expression in a slot puts it there, and a later step only replaces it.
-/

namespace Unparse

/-! ### Simple statements -/

inductive Assignment.Built : Assignment → Prop where
  | ofTarget {target : Expr} (htarget : target.Built True) : Built (.ofTarget target)
  | annotate {a : Assignment} (ha : a.Built) {declared : Expr} (hdeclared : declared.Built True) :
    Built (a.annotate declared)
  | assign {a : Assignment} (ha : a.Built) {value : Expr} (hvalue : value.Built True) :
    Built (a.assign value)

/-- What is raised, with a cause that may be given more than once. -/
inductive Raised.Built : Raised → Prop where
  | ofException {value : Option Expr} (hvalue : ∀ e ∈ value, e.Built True) :
    Built (.ofException value)
  | withCause {raised : Raised} (hraised : raised.Built) {cause : Expr} (hcause : cause.Built True)
    {result : Raised} (hresult : raised.withCause cause = .ok result) : Built result

/-- A simple statement that is made by its builder. -/
inductive SimpleStmt.Built : SimpleStmt → Prop where
  | expression {value : Expr} (hvalue : value.Built True) : Built (.mkExpression value)
  | assignment {a : Assignment} (ha : a.Built) : Built (.assignment a)
  | returning {value : Option Expr} (hvalue : ∀ e ∈ value, e.Built True) : Built (.mkReturn value)
  | raising {raised : Raised} (hraised : raised.Built) : Built (.raising raised)
  | asserting {test : Expr} (htest : test.Built True) {message : Option Expr}
    (hmessage : ∀ e ∈ message, e.Built True) : Built (.mkAssert test message)
  | deleting {target : Expr} (htarget : target.Built True) : Built (.deleting target)
  | loneWord (word : LoneWord) : Built (.loneWord word)
  | globals (names : List Identifier) : Built (.globals names)
  | nonlocals (names : List Identifier) : Built (.nonlocals names)
  | imports {names : List ImportName}
    (hnames : ∀ target name, .alias target name ∈ names → target.Built True) : Built (.imports names)
  | importsFrom (source : ModulePath) {names : List ImportName}
    (hnames : ∀ target name, .alias target name ∈ names → target.Built True) :
    Built (.importsFrom source names)

/-! ### Headers -/

inductive ForDraft.Built : ForDraft → Prop where
  | start {target : Expr} (htarget : target.Built True) : Built (.start target)
  | through {draft : ForDraft} (hdraft : draft.Built) {iterable : Expr}
    (hiterable : iterable.Built True) : Built (draft.through iterable)
  | async {draft : ForDraft} (hdraft : draft.Built) : Built draft.async

inductive WithItem.Built : WithItem → Prop where
  | ofContext {context : Expr} (hcontext : context.Built True) {target : Option Expr}
    (htarget : ∀ e ∈ target, e.Built True) : Built (.ofContext context target)

/-- The header of a handler, with a name that may be given more than once. -/
inductive HandlerHeader.Built : HandlerHeader → Prop where
  | catchingAnything : Built .catchingAnything
  | catchingType {type : Expr} (htype : type.Built True) : Built (.catchingType type)
  | catchingGroup {type : Expr} (htype : type.Built True) : Built (.catchingGroup type)
  | named {header : HandlerHeader} (hheader : header.Built) (name : Identifier) :
    Built (header.named name)

inductive Param.Built : Param → Prop where
  | ofName (kind : ParamKind) (name : Identifier) : Built (.ofName kind name)
  | withKind {param : Param} (hparam : param.Built) (kind : ParamKind) : Built (param.withKind kind)
  | annotate {param : Param} (hparam : param.Built) {declared : Expr}
    (hdeclared : declared.Built True) : Built (param.annotate declared)
  | withDefault {param : Param} (hparam : param.Built) {value : Expr} (hvalue : value.Built True) :
    Built (param.withDefault value)

/-- A type parameter whose bound is built. -/
def TypeParam.Built (param : TypeParam) : Prop :=
  ∀ bound ∈ param.exprs, bound.Built True

/-- A step of a function that brings built parts. -/
def FunctionStep.Built : FunctionStep → Prop
  | .decorator value | .result value => value.Built True
  | .async | .name _ | .asyncName _ => True
  | .typeParams added => ∀ param ∈ added, param.Built
  | .params added => ∀ param ∈ added, param.Built

/-- A step of a class that brings built parts; a named argument is made by its builder. -/
def ClassStep.Built : ClassStep → Prop
  | .decorator value => value.Built True
  | .name _ => True
  | .typeParams added => ∀ param ∈ added, param.Built
  | .bases values => ∀ value ∈ values, value.Built True
  | .keywords values => ∀ k ∈ values, ∃ name value, value.Built True ∧ k = mkKeyword name value

/-- A head that is made by its builder. The decorators that a definition collects are heads of their
own, above it. -/
inductive Head.Built : Head → Prop where
  | simple {statement : SimpleStmt} (hstatement : statement.Built) : Built (.simple statement)
  | ifTest {test : Expr} (htest : test.Built True) : Built (.ifTest test)
  | elifTest {test : Expr} (htest : test.Built True) : Built (.elifTest test)
  | elseWord : Built .elseWord
  | forLoop {draft : ForDraft} (hdraft : draft.Built) {header : ForHeader}
    (hheader : draft.finish = .ok header) : Built (.forLoop header)
  | whileTest {test : Expr} (htest : test.Built True) : Built (.whileTest test)
  | tryWord : Built .tryWord
  | handler {header : HandlerHeader} (hheader : header.Built) : Built (.handler header)
  | finallyWord : Built .finallyWord
  | withBlock {items : List WithItem} (hitems : ∀ item ∈ items, item.Built) (isAsync : Bool) :
    Built (.withBlock ⟨isAsync, items⟩)
  | matchSubject {subject : Expr} (hsubject : subject.Built True) : Built (.matchSubject subject)
  | matchCase {pattern : Expr} (hpattern : pattern.Built True) {guard : Option Expr}
    (hguard : ∀ e ∈ guard, e.Built True) : Built (.matchCase ⟨pattern, guard⟩)
  | decorator {value : Expr} (hvalue : value.Built True) : Built (.decorator value)
  | functionDef (decorators : List Expr) {steps : List FunctionStep}
    (hsteps : ∀ step ∈ steps, step.Built) {header : FunctionHeader}
    (hheader : ((FunctionDraft.start decorators).run steps).finish = .ok header) :
    Built (.functionDef header)
  | classDef (decorators : List Expr) {steps : List ClassStep} (hsteps : ∀ step ∈ steps, step.Built)
    {header : ClassHeader}
    (hheader : ((ClassDraft.start decorators).run steps).finish = .ok header) :
    Built (.classDef header)

/-- A statement is built if each of its heads is: bodies only put heads below one another. -/
def Stmt.Built (s : Stmt) : Prop :=
  ∀ head ∈ s.heads, head.Built

/-! ### What built statements hold -/

/-- All expressions at the given positions, and all below them, sit where they are held. -/
def Settled (places : List (Position × Expr)) : Prop :=
  ∀ p e, (p, e) ∈ places → ∀ q ∈ (p, e) :: e.held, Sits True q

theorem settled_nil : Settled [] := by
  intro p e h
  cases h

theorem settled_append {places others : List (Position × Expr)} :
    Settled (places ++ others) ↔ Settled places ∧ Settled others := by
  simp only [Settled, List.mem_append, or_imp, forall_and]

theorem settled_cons {p : Position} {e : Expr} {places : List (Position × Expr)} :
    Settled ((p, e) :: places) ↔ (∀ q ∈ (p, e) :: e.held, Sits True q) ∧ Settled places := by
  constructor
  · intro h
    exact ⟨h p e List.mem_cons_self, fun p' e' he' => h p' e' (List.mem_cons_of_mem _ he')⟩
  · rintro ⟨hfirst, hrest⟩ p' e' he'
    rcases List.mem_cons.1 he' with heq | he'
    · cases heq
      exact hfirst
    · exact hrest p' e' he'

theorem settled_flatMap {α : Type} {f : α → List (Position × Expr)} {xs : List α}
    (h : ∀ x ∈ xs, Settled (f x)) : Settled (xs.flatMap f) := by
  intro p e he
  obtain ⟨x, hx, he⟩ := List.mem_flatMap.1 he
  exact h x hx p e he

theorem settled_free {place : FreePlace} {e : Expr} (he : e.Built True)
    {places : List (Position × Expr)} (hplaces : Settled places) :
    Settled ((.free place, e) :: places) :=
  settled_cons.2 ⟨sits_free place he he.sits_held, hplaces⟩

theorem settled_value {place : ValuePlace} {e : Expr} (he : e.Built True)
    {places : List (Position × Expr)} (hplaces : Settled places) :
    Settled ((.value place, statementValue e) :: places) :=
  settled_cons.2 ⟨sits_value place he he.sits_held, hplaces⟩

theorem settled_part {slot : Slot} {e : Expr} (he : e.Built True)
    {places : List (Position × Expr)} (hplaces : Settled places) :
    Settled ((.part slot, slot.place e) :: places) :=
  settled_cons.2 ⟨sits_part slot he he.sits_held, hplaces⟩

theorem settled_optional_free {place : FreePlace} {e : Option Expr} (he : ∀ x ∈ e, x.Built True) :
    Settled (optionalAt (.free place) e) := by
  cases e with
  | none => exact settled_nil
  | some x => exact settled_free (he x rfl) settled_nil

theorem settled_optional_value {place : ValuePlace} {e : Option Expr} (he : ∀ x ∈ e, x.Built True) :
    Settled (optionalAt (.value place) (e.map statementValue)) := by
  cases e with
  | none => exact settled_nil
  | some x => exact settled_value (he x rfl) settled_nil

theorem Assignment.Built.settled {a : Assignment} (h : a.Built) :
    Settled (SimpleStmt.assignment a).places := by
  induction h with
  | ofTarget htarget => exact settled_free htarget settled_nil
  | annotate _ hdeclared ih =>
      obtain ⟨htarget, hrest⟩ := settled_cons.1 ih
      exact settled_cons.2 ⟨htarget, settled_value hdeclared (settled_append.1 hrest).2⟩
  | assign _ hvalue ih =>
      obtain ⟨htarget, hrest⟩ := settled_cons.1 ih
      exact settled_cons.2 ⟨htarget,
        settled_append.2 ⟨(settled_append.1 hrest).1, settled_value hvalue settled_nil⟩⟩

theorem Raised.Built.settled {raised : Raised} (h : raised.Built) :
    Settled (SimpleStmt.raising raised).places := by
  induction h with
  | @ofException value hvalue =>
      cases value with
      | none => exact settled_nil
      | some e => exact settled_value (hvalue e rfl) settled_nil
  | @withCause raised _ cause hcause result hresult ih =>
      cases raised with
      | again => cases hresult
      | exception value _ =>
          cases hresult
          exact settled_cons.2 ⟨(settled_cons.1 ih).1, settled_value hcause settled_nil⟩

theorem settled_imports {names : List ImportName}
    (hnames : ∀ target name, .alias target name ∈ names → target.Built True) :
    Settled (SimpleStmt.imports names).places := by
  apply settled_flatMap
  intro importName hmem
  cases importName with
  | «alias» target name => exact settled_free (hnames target name hmem) settled_nil
  | star | path _ | pathAlias _ _ => exact settled_nil

theorem SimpleStmt.Built.settled {statement : SimpleStmt} (h : statement.Built) :
    Settled statement.places := by
  cases h with
  | expression hvalue => exact settled_value hvalue settled_nil
  | assignment ha => exact ha.settled
  | returning hvalue => exact settled_optional_value hvalue
  | raising hraised => exact hraised.settled
  | asserting htest hmessage => exact settled_value htest (settled_optional_value hmessage)
  | deleting htarget => exact settled_free htarget settled_nil
  | loneWord _ | globals _ | nonlocals _ => exact settled_nil
  | imports hnames | importsFrom _ hnames => exact settled_imports hnames

theorem ForDraft.Built.settled {draft : ForDraft} (h : draft.Built) :
    Settled ((.free .loopTarget, draft.target) :: optionalAt (.value .iterable) draft.iterable) := by
  induction h with
  | start htarget => exact settled_free htarget settled_nil
  | through _ hiterable ih =>
      exact settled_cons.2 ⟨(settled_cons.1 ih).1, settled_value hiterable settled_nil⟩
  | async _ ih => exact ih

theorem HandlerHeader.Built.settled {header : HandlerHeader} (h : header.Built) :
    Settled header.caught.places := by
  induction h with
  | catchingAnything => exact settled_nil
  | catchingType htype | catchingGroup htype => exact settled_value htype settled_nil
  | named _ _ ih => exact ih

theorem WithItem.Built.settled {item : WithItem} (h : item.Built) : Settled item.places := by
  cases h with
  | ofContext hcontext htarget => exact settled_value hcontext (settled_optional_free htarget)

theorem TypeParam.Built.settled {param : TypeParam} (h : param.Built) : Settled param.places := by
  cases param with
  | type name bound =>
      exact settled_optional_free fun e he => h e (by simpa [TypeParam.exprs] using he)
  | types _ | params _ => exact settled_nil

theorem Param.Built.settled {param : Param} (h : param.Built) : Settled param.places := by
  induction h with
  | ofName _ _ => exact settled_nil
  | withKind _ _ ih => exact ih
  | annotate _ hdeclared ih => exact settled_part hdeclared (settled_append.1 ih).2
  | withDefault _ hvalue ih =>
      exact settled_append.2 ⟨(settled_append.1 ih).1, settled_part hvalue settled_nil⟩

/-! ### Definitions -/

namespace FunctionDraft

/-- The expressions of a function under construction, each with its position. -/
def places (draft : FunctionDraft) : List (Position × Expr) :=
  draft.typeParams.flatMap TypeParam.places ++ draft.params.flatMap Param.places ++
    optionalAt (.part .keywordValue) draft.result

theorem settled_step {draft : FunctionDraft} (h : Settled draft.places) {step : FunctionStep}
    (hstep : step.Built) : Settled (draft.step step).places := by
  simp only [places, settled_append] at h
  obtain ⟨⟨htypes, hparams⟩, hresult⟩ := h
  cases step with
  | decorator _ | async | name _ | asyncName _ =>
      exact settled_append.2 ⟨settled_append.2 ⟨htypes, hparams⟩, hresult⟩
  | typeParams added =>
      have hadded := settled_flatMap fun param hparam => (hstep param hparam).settled
      simp only [places, FunctionDraft.step, List.flatMap_append, settled_append]
      exact ⟨⟨⟨htypes, hadded⟩, hparams⟩, hresult⟩
  | params added =>
      have hadded := settled_flatMap fun param hparam => (hstep param hparam).settled
      simp only [places, FunctionDraft.step, List.flatMap_append, settled_append]
      exact ⟨⟨htypes, hparams, hadded⟩, hresult⟩
  | result declared =>
      exact settled_append.2 ⟨settled_append.2 ⟨htypes, hparams⟩, settled_part hstep settled_nil⟩

theorem settled_run {draft : FunctionDraft} (h : Settled draft.places) {steps : List FunctionStep}
    (hsteps : ∀ step ∈ steps, step.Built) : Settled (draft.run steps).places := by
  induction steps generalizing draft with
  | nil => exact h
  | cons step steps ih =>
      obtain ⟨hstep, hsteps⟩ := List.forall_mem_cons.1 hsteps
      exact ih (settled_step h hstep) hsteps

theorem places_of_finish {draft : FunctionDraft} {header : FunctionHeader}
    (h : draft.finish = .ok header) : (Head.functionDef header).places = draft.places := by
  unfold finish at h
  split at h
  · cases h
    rfl
  · cases h

end FunctionDraft

namespace ClassDraft

/-- The expressions of a class under construction, each with its position. -/
def places (draft : ClassDraft) : List (Position × Expr) :=
  draft.typeParams.flatMap TypeParam.places ++ draft.bases.map ((.free .base, ·)) ++
    draft.keywords.map fun k => (.part .keywordValue, k.value)

theorem settled_bases {values : List Expr} (hvalues : ∀ value ∈ values, value.Built True) :
    Settled (values.map ((.free .base, ·))) := by
  rw [List.map_eq_flatMap]
  exact settled_flatMap fun value hvalue => settled_free (hvalues value hvalue) settled_nil

theorem settled_keywords {values : List KeywordArg}
    (hvalues : ∀ k ∈ values, ∃ name value, value.Built True ∧ k = mkKeyword name value) :
    Settled (values.map fun k => (.part .keywordValue, k.value)) := by
  rw [List.map_eq_flatMap]
  apply settled_flatMap
  intro k hk
  obtain ⟨name, value, hvalue, rfl⟩ := hvalues k hk
  exact settled_part hvalue settled_nil

theorem settled_step {draft : ClassDraft} (h : Settled draft.places) {step : ClassStep}
    (hstep : step.Built) : Settled (draft.step step).places := by
  simp only [places, settled_append] at h
  obtain ⟨⟨htypes, hbases⟩, hkeywords⟩ := h
  cases step with
  | decorator _ | name _ =>
      exact settled_append.2 ⟨settled_append.2 ⟨htypes, hbases⟩, hkeywords⟩
  | typeParams added =>
      have hadded := settled_flatMap fun param hparam => (hstep param hparam).settled
      simp only [places, ClassDraft.step, List.flatMap_append, settled_append]
      exact ⟨⟨⟨htypes, hadded⟩, hbases⟩, hkeywords⟩
  | bases added =>
      simp only [places, ClassDraft.step, List.map_append, settled_append]
      exact ⟨⟨htypes, hbases, settled_bases hstep⟩, hkeywords⟩
  | keywords added =>
      simp only [places, ClassDraft.step, List.map_append, settled_append]
      exact ⟨⟨htypes, hbases⟩, hkeywords, settled_keywords hstep⟩

theorem settled_run {draft : ClassDraft} (h : Settled draft.places) {steps : List ClassStep}
    (hsteps : ∀ step ∈ steps, step.Built) : Settled (draft.run steps).places := by
  induction steps generalizing draft with
  | nil => exact h
  | cons step steps ih =>
      obtain ⟨hstep, hsteps⟩ := List.forall_mem_cons.1 hsteps
      exact ih (settled_step h hstep) hsteps

theorem places_of_finish {draft : ClassDraft} {header : ClassHeader}
    (h : draft.finish = .ok header) : (Head.classDef header).places = draft.places := by
  unfold finish at h
  split at h
  · cases h
    rfl
  · cases h

end ClassDraft

/-! ### Heads and statements -/

theorem Head.Built.settled {head : Head} (h : head.Built) : Settled head.places := by
  cases h with
  | simple hstatement => exact hstatement.settled
  | ifTest htest | elifTest htest | whileTest htest => exact settled_free htest settled_nil
  | elseWord | tryWord | finallyWord => exact settled_nil
  | @forLoop draft hdraft header hheader =>
      unfold ForDraft.finish at hheader
      split at hheader
      · next iterable hiterable =>
          cases hheader
          have hsettled := hdraft.settled
          rw [hiterable] at hsettled
          exact hsettled
      · cases hheader
  | handler hheader => exact hheader.settled
  | withBlock hitems _ => exact settled_flatMap fun item hitem => (hitems item hitem).settled
  | matchSubject hsubject => exact settled_free hsubject settled_nil
  | matchCase hpattern hguard => exact settled_free hpattern (settled_optional_free hguard)
  | decorator hvalue => exact settled_free hvalue settled_nil
  | functionDef decorators hsteps hheader =>
      rw [FunctionDraft.places_of_finish hheader]
      have hstart : Settled (FunctionDraft.start decorators).places := settled_nil
      exact FunctionDraft.settled_run hstart hsteps
  | classDef decorators hsteps hheader =>
      rw [ClassDraft.places_of_finish hheader]
      have hstart : Settled (ClassDraft.start decorators).places := settled_nil
      exact ClassDraft.settled_run hstart hsteps

/-- Every expression in a built statement, however deep it stands, fits the position where it is
held. -/
theorem Stmt.Built.fits {s : Stmt} (h : s.Built) {p : Position} {e : Expr} (he : (p, e) ∈ s.held) :
    p.Fits e := by
  obtain ⟨head, hhead, he⟩ := List.mem_flatMap.1 he
  obtain ⟨⟨p', e'⟩, hplace, he⟩ := List.mem_flatMap.1 he
  exact ((h head hhead).settled p' e' hplace (p, e) he).1

end Unparse
