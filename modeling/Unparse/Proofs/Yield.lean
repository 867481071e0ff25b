import Unparse.Proofs.Named

/-!
Where a `yield` stands bare. It is an atom, so no comparison of levels ever puts it in parentheses:
what does is that it stands alone, which every slot minds but the one for the whole value of a
statement.
-/

namespace Unparse

/-- A `yield`, with `from` or without. -/
def Expr.isYield : Expr → Bool
  | .unary .yield _ | .unary .yieldFrom _ => true
  | _ => false

/-- The positions where the grammar takes a `yield` without parentheses: parentheses themselves, a
statement that is an expression, the value of an assignment and the value of a field in a format
string. -/
def Position.takesYield : Position → Bool
  | .free .parentheses | .value .expression | .value .assigned | .part .formatValue => true
  | _ => false

/-- The positions that keep a `yield` as it is given although the grammar takes none there: all other
whole values of statements, and all other places without a slot. -/
def Position.exposesYield : Position → Bool
  | .part _ => false
  | .value place => place != .expression && place != .assigned
  | .free place => place != .parentheses

/-! ### Slots -/

theorem Expr.isStandalone_of_isYield {e : Expr} (h : e.isYield = true) : e.isStandalone = true := by
  unfold isYield at h
  split at h
  · rfl
  · rfl
  · cases h

/-- Only the slot for the whole value of a statement takes a bare `yield`. -/
theorem Slot.admits_yield_iff {slot : Slot} {e : Expr} (he : e.isYield = true) :
    slot.admits e = true ↔ slot = .statementValue := by
  rw [Slot.admits, if_pos (Expr.isStandalone_of_isYield he)]
  cases slot <;> simp [Slot.admitsStandalone]

theorem statementValue_of_isYield {e : Expr} (he : e.isYield = true) : statementValue e = e :=
  Slot.place_eq_self_iff.2 ((Slot.admits_yield_iff he).2 rfl)

/-! ### A statement for each position -/

/-- A statement whose value at a place is made from an expression. -/
def ValuePlace.holder (e : Expr) : ValuePlace → Stmt
  | .expression => .simple (.mkExpression e)
  | .declaredType => .simple (.assignment ((Assignment.ofTarget sampleExpr).annotate e))
  | .assigned => .simple (.assignment ((Assignment.ofTarget sampleExpr).assign e))
  | .returned => .simple (.mkReturn (some e))
  | .raised => .simple (.raising (.ofException (some e)))
  | .cause => .simple (.raising (.exception sampleExpr (some (statementValue e))))
  | .asserted => .simple (.mkAssert e none)
  | .message => .simple (.mkAssert sampleExpr (some e))
  | .iterable => .forLoop ⟨false, sampleExpr, statementValue e⟩ [] none
  | .context => .withBlock ⟨false, [.ofContext e none]⟩ []
  | .caught => .tryBlock ⟨[], [⟨.catchingType e, []⟩], none, none⟩

/-- A statement that has an expression at a place without a slot. -/
def FreePlace.holder (e : Expr) : FreePlace → Stmt
  | .parentheses => .simple (.mkExpression (.wrapped e))
  | .argument => .simple (.mkExpression (.mkCall sampleExpr [e] []))
  | .index => .simple (.mkExpression (.mkSubscript sampleExpr [.index e]))
  | .element => .simple (.mkExpression (.display .list [e]))
  | .aliasTarget => .simple (.imports [.alias e sampleName])
  | .test => .branch e [] [] none
  | .assignmentTarget => .simple (.assignment (.ofTarget e))
  | .deletionTarget => .simple (.deleting e)
  | .loopTarget => .forLoop ⟨false, e, sampleExpr⟩ [] none
  | .withTarget => .withBlock ⟨false, [.ofContext sampleExpr (some e)]⟩ []
  | .subject => .matchBlock e []
  | .pattern => .matchBlock sampleExpr [⟨⟨e, none⟩, []⟩]
  | .guard => .matchBlock sampleExpr [⟨⟨sampleExpr, some e⟩, []⟩]
  | .decorator => .classDef ⟨[e], sampleName, [], [], []⟩ []
  | .typeBound => .functionDef (boundedFunction e) []
  | .base => .classDef ⟨[], sampleName, [], [e], []⟩ []

theorem Stmt.built_of_heads_eq {s : Stmt} {head : Head} (hs : s.heads = [head]) (h : head.Built) :
    s.Built := by
  rw [Built, hs]
  exact List.forall_mem_singleton.2 h

theorem built_sampleExpr : sampleExpr.Built True :=
  .identifier sampleName

theorem Raised.built_withCause {e : Expr} (he : e.Built True) :
    (Raised.exception sampleExpr (some (statementValue e))).Built := by
  have hraised : (Raised.ofException (some sampleExpr)).Built :=
    .ofException (by simpa using built_sampleExpr)
  exact .withCause hraised he rfl

theorem Head.built_classDef {decorators bases : List Expr} (hbases : ∀ e ∈ bases, e.Built True) :
    (Head.classDef ⟨decorators, sampleName, [], bases, []⟩).Built := by
  have hsteps : ∀ step ∈ [ClassStep.name sampleName, .bases bases], step.Built := by
    simpa [ClassStep.Built] using hbases
  exact .classDef decorators hsteps rfl

theorem ValuePlace.built_holder {e : Expr} (he : e.Built True) (place : ValuePlace) :
    (place.holder e).Built := by
  have hsome : ∀ x ∈ some e, x.Built True := by simpa using he
  cases place with
  | expression => exact Stmt.built_of_heads_eq rfl (.simple (.expression he))
  | declaredType =>
      exact Stmt.built_of_heads_eq rfl
        (.simple (.assignment (.annotate (.ofTarget built_sampleExpr) he)))
  | assigned =>
      exact Stmt.built_of_heads_eq rfl
        (.simple (.assignment (.assign (.ofTarget built_sampleExpr) he)))
  | returned => exact Stmt.built_of_heads_eq rfl (.simple (.returning hsome))
  | raised => exact Stmt.built_of_heads_eq rfl (.simple (.raising (.ofException hsome)))
  | cause => exact Stmt.built_of_heads_eq rfl (.simple (.raising (Raised.built_withCause he)))
  | asserted => exact Stmt.built_of_heads_eq rfl (.simple (.asserting he (by simp)))
  | message => exact Stmt.built_of_heads_eq rfl (.simple (.asserting built_sampleExpr hsome))
  | iterable =>
      exact Stmt.built_of_heads_eq rfl (.forLoop (.through (.start built_sampleExpr) he) rfl)
  | context =>
      exact Stmt.built_of_heads_eq rfl
        (.withBlock (List.forall_mem_singleton.2 (.ofContext he (by simp))) false)
  | caught =>
      exact List.forall_mem_cons.2
        ⟨.tryWord, List.forall_mem_singleton.2 (.handler (.catchingType he))⟩

theorem FreePlace.built_holder {e : Expr} (he : e.Built True) (place : FreePlace) :
    (place.holder e).Built := by
  have hsome : ∀ x ∈ some e, x.Built True := by simpa using he
  have halone : ∀ x ∈ [e], x.Built True := List.forall_mem_singleton.2 he
  cases place with
  | parentheses =>
      exact Stmt.built_of_heads_eq rfl (.simple (.expression (.wrapped trivial he)))
  | argument =>
      exact Stmt.built_of_heads_eq rfl
        (.simple (.expression (.call built_sampleExpr halone (List.forall_mem_nil _))))
  | index =>
      have hindex : ∀ item ∈ [SubscriptItem.index e], ∀ x ∈ item.exprs, x.Built True :=
        List.forall_mem_singleton.2 halone
      exact Stmt.built_of_heads_eq rfl (.simple (.expression (.subscript built_sampleExpr hindex)))
  | element => exact Stmt.built_of_heads_eq rfl (.simple (.expression (.display .list halone)))
  | aliasTarget =>
      exact Stmt.built_of_heads_eq rfl (.simple (.imports (by simpa using he)))
  | test => exact Stmt.built_of_heads_eq rfl (.ifTest he)
  | assignmentTarget => exact Stmt.built_of_heads_eq rfl (.simple (.assignment (.ofTarget he)))
  | deletionTarget => exact Stmt.built_of_heads_eq rfl (.simple (.deleting he))
  | loopTarget =>
      exact Stmt.built_of_heads_eq rfl (.forLoop (.through (.start he) built_sampleExpr) rfl)
  | withTarget =>
      exact Stmt.built_of_heads_eq rfl
        (.withBlock (List.forall_mem_singleton.2 (.ofContext built_sampleExpr hsome)) false)
  | subject => exact Stmt.built_of_heads_eq rfl (.matchSubject he)
  | pattern =>
      exact List.forall_mem_cons.2 ⟨.matchSubject built_sampleExpr,
        List.forall_mem_singleton.2 (.matchCase he (by simp))⟩
  | guard =>
      exact List.forall_mem_cons.2 ⟨.matchSubject built_sampleExpr,
        List.forall_mem_singleton.2 (.matchCase built_sampleExpr hsome)⟩
  | decorator =>
      exact List.forall_mem_cons.2 ⟨.decorator he,
        List.forall_mem_singleton.2 (Head.built_classDef (List.forall_mem_nil _))⟩
  | typeBound => exact built_boundedFunction he
  | base => exact Stmt.built_of_heads_eq rfl (Head.built_classDef halone)

/-- A statement holds what one of its heads has at a position. -/
theorem Stmt.mem_held {s : Stmt} {head : Head} (hhead : head ∈ s.heads) {q : Position × Expr}
    (hq : q ∈ head.places) : q ∈ s.held :=
  List.mem_flatMap.2 ⟨head, hhead, List.mem_flatMap.2 ⟨q, hq, List.mem_cons_self⟩⟩

theorem ValuePlace.mem_held_holder (e : Expr) (place : ValuePlace) :
    (.value place, statementValue e) ∈ (place.holder e).held := by
  cases place with
  | expression | returned | raised | asserted | context =>
      exact Stmt.mem_held List.mem_cons_self List.mem_cons_self
  | declaredType | assigned | cause | message | iterable =>
      exact Stmt.mem_held List.mem_cons_self (List.mem_cons_of_mem _ List.mem_cons_self)
  | caught =>
      exact Stmt.mem_held (List.mem_cons_of_mem _ List.mem_cons_self) List.mem_cons_self

theorem FreePlace.mem_held_holder (e : Expr) (place : FreePlace) :
    (.free place, e) ∈ (place.holder e).held := by
  cases place with
  | parentheses | element => exact List.mem_cons_of_mem _ List.mem_cons_self
  | argument | index => exact List.mem_cons_of_mem _ (List.mem_cons_of_mem _ List.mem_cons_self)
  | aliasTarget | test | assignmentTarget | deletionTarget | loopTarget | subject | decorator |
      base =>
      exact Stmt.mem_held List.mem_cons_self List.mem_cons_self
  | withTarget => exact Stmt.mem_held List.mem_cons_self (List.mem_cons_of_mem _ List.mem_cons_self)
  | pattern => exact Stmt.mem_held (List.mem_cons_of_mem _ List.mem_cons_self) List.mem_cons_self
  | guard =>
      exact Stmt.mem_held (List.mem_cons_of_mem _ List.mem_cons_self)
        (List.mem_cons_of_mem _ List.mem_cons_self)
  | typeBound => exact typeBound_held e

/-! ### What is built -/

theorem not_mem_optionalAt {p q : Position} (hne : p ≠ q) (e : Expr) (value : Option Expr) :
    (p, e) ∉ optionalAt q value := by
  intro h
  obtain ⟨_, _, heq⟩ := List.mem_map.1 h
  exact hne (congrArg Prod.fst heq).symm

theorem TypeParam.not_mem_places (slot : Slot) (param : TypeParam) (e : Expr) :
    (.part slot, e) ∉ param.places := by
  cases param <;> simp [places, not_mem_optionalAt]

/-- A head has no slot of its own but the one for types, defaults and named arguments. -/
theorem Head.not_mem_places {slot : Slot} (hslot : slot ≠ .keywordValue) (head : Head) (e : Expr) :
    (.part slot, e) ∉ head.places := by
  cases head with
  | simple statement =>
      cases statement with
      | raising raised => cases raised <;> simp [places, SimpleStmt.places, not_mem_optionalAt]
      | imports names | importsFrom source names =>
          simp only [places, SimpleStmt.places, List.mem_flatMap, not_exists, not_and]
          intro importName _
          cases importName <;> simp
      | _ => simp [places, SimpleStmt.places, not_mem_optionalAt]
  | handler header =>
      obtain ⟨caught, name⟩ := header
      cases caught <;> simp [places, Caught.places]
  | functionDef header =>
      simp [places, Param.places, TypeParam.not_mem_places, not_mem_optionalAt, hslot]
  | classDef header => simp [places, TypeParam.not_mem_places, hslot.symm]
  | _ => simp [places, WithItem.places, not_mem_optionalAt]

/-- The slot for the whole value of a statement is no part of a node. -/
theorem Stmt.not_mem_held_statementValue (s : Stmt) (e : Expr) :
    (.part .statementValue, e) ∉ s.held := by
  intro h
  obtain ⟨head, _, h⟩ := List.mem_flatMap.1 h
  obtain ⟨⟨p, x⟩, hplace, h⟩ := List.mem_flatMap.1 h
  rcases List.mem_cons.1 h with heq | hbelow
  · cases heq
    exact head.not_mem_places (by decide) e hplace
  · have hinside := x.inExpr_of_held _ hbelow
    exact Bool.false_ne_true hinside

/-- No part of a node keeps a `yield` bare, whatever statement it is in and at whatever depth. -/
theorem Stmt.Built.isYield_part {s : Stmt} (h : s.Built) {slot : Slot} {e : Expr}
    (he : (.part slot, e) ∈ s.held) : e.isYield = false := by
  cases hyield : e.isYield with
  | false => rfl
  | true =>
      obtain rfl := (Slot.admits_yield_iff hyield).1 (h.fits he slot rfl)
      exact absurd he (s.not_mem_held_statementValue e)

/-- A position takes a `yield`, or exposes it, or is a part of a node. -/
theorem Position.takesYield_or_exposesYield (p : Position) :
    p.takesYield = true ∨ p.exposesYield = true ∨ ∃ slot, p = .part slot := by
  cases p with
  | part slot => exact Or.inr (Or.inr ⟨slot, rfl⟩)
  | value place => cases place <;> simp [takesYield, exposesYield]
  | free place => cases place <;> simp [takesYield, exposesYield]

theorem Position.takesYield_eq_false {p : Position} (h : p.exposesYield = true) :
    p.takesYield = false := by
  cases p with
  | part slot => cases h
  | value place => cases place <;> first | rfl | cases h
  | free place => cases place <;> first | rfl | cases h

/-- Every position that exposes a `yield` does so in some statement, whichever `yield` it is given. -/
theorem Position.exists_held {p : Position} (hp : p.exposesYield = true) {e : Expr}
    (he : e.Built True) (hyield : e.isYield = true) : ∃ s : Stmt, s.Built ∧ (p, e) ∈ s.held := by
  cases p with
  | part slot => cases hp
  | value place =>
      have hheld := place.mem_held_holder e
      rw [statementValue_of_isYield hyield] at hheld
      exact ⟨place.holder e, place.built_holder he, hheld⟩
  | free place => exact ⟨place.holder e, place.built_holder he, place.mem_held_holder e⟩

/-- Whatever a statement is built from, and at whatever depth, no part of a node is a bare `yield`:
no operand, target of a call, value of a named argument, bound of a slice, part of a conditional, of a
pair or of a comprehension, no body, field, default or type of a parameter or of a result. So a
statement has bare `yield`s only where the grammar takes them exactly when none is in a position that
exposes it, and each of these positions does so in some statement, whichever `yield` it is given. -/
theorem yield_held_bare {s : Stmt} (hs : s.Built) :
    (∀ slot x, (.part slot, x) ∈ s.held → x.isYield = false) ∧
    ((∀ p x, (p, x) ∈ s.held → x.isYield = true → p.takesYield = true) ↔
      ∀ p x, (p, x) ∈ s.held → p.exposesYield = true → x.isYield = false) ∧
    ∀ p, p.exposesYield = true → ∀ e : Expr, e.Built True → e.isYield = true →
      ∃ t : Stmt, t.Built ∧ (p, e) ∈ t.held := by
  refine ⟨fun slot x hx => hs.isYield_part hx, ⟨?_, ?_⟩,
    fun p hp e he hyield => p.exists_held hp he hyield⟩
  · intro htakes p x hx hexposes
    cases hyield : x.isYield with
    | false => rfl
    | true =>
        have htaken := htakes p x hx hyield
        rw [Position.takesYield_eq_false hexposes] at htaken
        cases htaken
  · intro hexposed p x hx hyield
    rcases p.takesYield_or_exposesYield with htakes | hexposes | ⟨slot, rfl⟩
    · exact htakes
    · rw [hexposed p x hx hexposes] at hyield
      cases hyield
    · rw [hs.isYield_part hx] at hyield
      cases hyield

/-- A `yield` that yields a sum with another `yield` in it. -/
def nestedYield : Expr :=
  .mkUnary .yield (.mkBinary .add (.mkUnary .yield sampleExpr) sampleExpr)

theorem built_nestedYield : nestedYield.Built True :=
  .unary _ (.binary _ (.unary _ built_sampleExpr) built_sampleExpr)

theorem nestedYield_held_bare :
    ((Assignment.ofTarget sampleExpr).assign nestedYield).text = "x = yield ((yield x) + x)" ∧
    (∀ p x, (p, x) ∈ (ValuePlace.assigned.holder nestedYield).held → x.isYield = true →
      p.takesYield = true) ∧
    ∃ t : Stmt, t.Built ∧ (.free .test, nestedYield) ∈ t.held := by
  have hassigned := yield_held_bare (ValuePlace.assigned.built_holder built_nestedYield)
  have hexposed : ∀ q ∈ (ValuePlace.assigned.holder nestedYield).held,
      q.1.exposesYield = true → q.2.isYield = false := by decide
  exact ⟨by decide, hassigned.2.1.2 fun p x hx => hexposed (p, x) hx,
    hassigned.2.2 _ rfl _ built_nestedYield rfl⟩

/-- The test of a branch is stored as it is given, so it may be a bare `yield`, which the grammar does
not take there. -/
theorem not_forall_takesYield :
    (Head.ifTest (.mkUnary .yield sampleExpr)).text = "if yield x" ∧
    ¬ ∀ s : Stmt, s.Built → ∀ p e, (p, e) ∈ s.held → e.isYield = true → p.takesYield = true := by
  refine ⟨by decide, ?_⟩
  intro htakes
  have hbuilt := FreePlace.test.built_holder (.unary .yield built_sampleExpr)
  have htest := htakes _ hbuilt _ _ (FreePlace.test.mem_held_holder _) rfl
  cases htest

end Unparse
