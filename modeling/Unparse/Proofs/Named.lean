import Unparse.Proofs.Builders

/-!
Where a named expression or an alias stands bare. They are the loosest of all expressions, so every
slot puts them in parentheses. The positions without a slot take them as they are, and so does the
grammar there, with one exception: the bound of a type parameter.
-/

namespace Unparse

/-- A named expression, or an expression or a path under another name. -/
def Expr.isNamed : Expr → Bool
  | .named _ _ | .alias _ _ | .pathAlias _ _ => true
  | _ => false

/-- The positions that take an expression but no named one without parentheses: all parts of nodes
except the element of a comprehension, all whole values of statements, and the bound of a type
parameter. Targets and patterns are no such positions, since they take no named expression in
parentheses either. -/
def Position.refusesNamed : Position → Bool
  | .part .comprehensionElement => false
  | .part _ | .value _ | .free .typeBound => true
  | .free _ => false

/-! ### Slots -/

theorem Expr.level_of_isNamed {e : Expr} (h : e.isNamed = true) : e.level = .namedExpr := by
  unfold isNamed at h
  split at h
  · rfl
  · rfl
  · rfl
  · cases h

/-- No slot takes content of the loosest level: a slot that is made for it is not strict. -/
theorem Slot.not_admitsLevel_namedExpr (slot : Slot) : slot.admitsLevel .namedExpr = false := by
  cases slot with
  | leftOperand op | rightOperand op => cases op <;> rfl
  | operand op => cases op <;> rfl
  | _ => rfl

theorem Slot.not_admits_of_isNamed (slot : Slot) {e : Expr} (h : e.isNamed = true) :
    slot.admits e = false := by
  have halone : e.isStandalone = false := by
    unfold Expr.isNamed at h
    split at h
    · rfl
    · rfl
    · rfl
    · cases h
  rw [admits, halone, Expr.level_of_isNamed h]
  exact slot.not_admitsLevel_namedExpr

/-- A named expression fits a position only where there is no slot. -/
theorem Position.slot?_eq_none {p : Position} {e : Expr} (hfits : p.Fits e)
    (hnamed : e.isNamed = true) : p.slot? = none := by
  cases hslot : p.slot? with
  | none => rfl
  | some slot =>
      have hadmits := hfits slot hslot
      rw [slot.not_admits_of_isNamed hnamed] at hadmits
      cases hadmits

/-- The bound of a type parameter is the one position without a slot that refuses a named
expression. -/
theorem Position.eq_typeBound {p : Position} (hslot : p.slot? = none)
    (hrefuses : p.refusesNamed = true) : p = .free .typeBound := by
  cases p with
  | part slot | value place => cases hslot
  | free place => cases place <;> first | rfl | cases hrefuses

/-! ### Positions in expressions -/

/-- The positions that a node of an expression has for its parts. The slot for the value of a statement
is none of them. -/
def Position.inExpr : Position → Bool
  | .part .statementValue => false
  | .part _ | .free .parentheses | .free .argument | .free .index | .free .element
  | .free .aliasTarget => true
  | .value _ | .free _ => false

mutual

/-- Whatever an expression holds, at any depth, it holds in a position of its nodes. -/
theorem Expr.inExpr_of_held (e : Expr) : ∀ q ∈ e.held, q.1.inExpr = true := by
  cases e with
  | identifier _ | literal _ | pathAlias _ _ | empty => exact List.forall_mem_nil _
  | unary op operand => exact List.forall_mem_cons.2 ⟨rfl, operand.inExpr_of_held⟩
  | binary op left right =>
      exact List.forall_mem_append.2 ⟨List.forall_mem_cons.2 ⟨rfl, left.inExpr_of_held⟩,
        List.forall_mem_cons.2 ⟨rfl, right.inExpr_of_held⟩⟩
  | call target args keywords =>
      exact List.forall_mem_append.2 ⟨List.forall_mem_append.2
        ⟨List.forall_mem_cons.2 ⟨rfl, target.inExpr_of_held⟩, inExpr_of_heldEach rfl args⟩,
        inExpr_of_heldKeywords keywords⟩
  | «attribute» target name => exact List.forall_mem_cons.2 ⟨rfl, target.inExpr_of_held⟩
  | subscript target items =>
      exact List.forall_mem_append.2 ⟨List.forall_mem_cons.2 ⟨rfl, target.inExpr_of_held⟩,
        inExpr_of_heldItems items⟩
  | display form elements => exact inExpr_of_heldEach rfl elements
  | comprehension form element clauses =>
      exact List.forall_mem_append.2 ⟨List.forall_mem_cons.2 ⟨rfl, element.inExpr_of_held⟩,
        inExpr_of_heldClauses clauses⟩
  | pair key value =>
      exact List.forall_mem_append.2 ⟨List.forall_mem_cons.2 ⟨rfl, key.inExpr_of_held⟩,
        List.forall_mem_cons.2 ⟨rfl, value.inExpr_of_held⟩⟩
  | lambda params body => exact List.forall_mem_cons.2 ⟨rfl, body.inExpr_of_held⟩
  | conditional body test orElse =>
      exact List.forall_mem_append.2 ⟨List.forall_mem_append.2
        ⟨List.forall_mem_cons.2 ⟨rfl, body.inExpr_of_held⟩,
          List.forall_mem_cons.2 ⟨rfl, test.inExpr_of_held⟩⟩,
        List.forall_mem_cons.2 ⟨rfl, orElse.inExpr_of_held⟩⟩
  | named target value => exact List.forall_mem_cons.2 ⟨rfl, value.inExpr_of_held⟩
  | formatString parts => exact inExpr_of_heldParts parts
  | wrapped inner => exact List.forall_mem_cons.2 ⟨rfl, inner.inExpr_of_held⟩
  | «alias» target name => exact List.forall_mem_cons.2 ⟨rfl, target.inExpr_of_held⟩
termination_by structural e

theorem inExpr_of_heldEach {p : Position} (hp : p.inExpr = true) (es : List Expr) :
    ∀ q ∈ heldEach p es, q.1.inExpr = true := by
  cases es with
  | nil => exact List.forall_mem_nil _
  | cons e es =>
      exact List.forall_mem_append.2 ⟨List.forall_mem_cons.2 ⟨hp, e.inExpr_of_held⟩,
        inExpr_of_heldEach hp es⟩
termination_by structural es

theorem KeywordArg.inExpr_of_held (k : KeywordArg) : ∀ q ∈ k.held, q.1.inExpr = true := by
  obtain ⟨name, value⟩ := k
  exact List.forall_mem_cons.2 ⟨rfl, value.inExpr_of_held⟩
termination_by structural k

theorem inExpr_of_heldKeywords (ks : List KeywordArg) :
    ∀ q ∈ heldKeywords ks, q.1.inExpr = true := by
  cases ks with
  | nil => exact List.forall_mem_nil _
  | cons k ks => exact List.forall_mem_append.2 ⟨k.inExpr_of_held, inExpr_of_heldKeywords ks⟩
termination_by structural ks

theorem SubscriptItem.inExpr_of_held (item : SubscriptItem) :
    ∀ q ∈ item.held, q.1.inExpr = true := by
  cases item with
  | index value => exact List.forall_mem_cons.2 ⟨rfl, value.inExpr_of_held⟩
  | slice lower upper =>
      exact List.forall_mem_append.2 ⟨List.forall_mem_cons.2 ⟨rfl, lower.inExpr_of_held⟩,
        List.forall_mem_cons.2 ⟨rfl, upper.inExpr_of_held⟩⟩
  | stride lower upper step =>
      exact List.forall_mem_append.2 ⟨List.forall_mem_append.2
        ⟨List.forall_mem_cons.2 ⟨rfl, lower.inExpr_of_held⟩,
          List.forall_mem_cons.2 ⟨rfl, upper.inExpr_of_held⟩⟩,
        List.forall_mem_cons.2 ⟨rfl, step.inExpr_of_held⟩⟩
termination_by structural item

theorem inExpr_of_heldItems (items : List SubscriptItem) :
    ∀ q ∈ heldItems items, q.1.inExpr = true := by
  cases items with
  | nil => exact List.forall_mem_nil _
  | cons item items =>
      exact List.forall_mem_append.2 ⟨item.inExpr_of_held, inExpr_of_heldItems items⟩
termination_by structural items

theorem Clause.inExpr_of_held (c : Clause) : ∀ q ∈ c.held, q.1.inExpr = true := by
  obtain ⟨isAsync, targets, iterator, filters⟩ := c
  exact List.forall_mem_append.2 ⟨List.forall_mem_cons.2 ⟨rfl, iterator.inExpr_of_held⟩,
    inExpr_of_heldEach rfl filters⟩
termination_by structural c

theorem inExpr_of_heldClauses (cs : List Clause) : ∀ q ∈ heldClauses cs, q.1.inExpr = true := by
  cases cs with
  | nil => exact List.forall_mem_nil _
  | cons c cs => exact List.forall_mem_append.2 ⟨c.inExpr_of_held, inExpr_of_heldClauses cs⟩
termination_by structural cs

theorem FormatPart.inExpr_of_held (part : FormatPart) : ∀ q ∈ part.held, q.1.inExpr = true := by
  cases part with
  | plain content => exact List.forall_mem_nil _
  | field value conversion spec => exact List.forall_mem_cons.2 ⟨rfl, value.inExpr_of_held⟩
termination_by structural part

theorem inExpr_of_heldParts (parts : List FormatPart) :
    ∀ q ∈ heldParts parts, q.1.inExpr = true := by
  cases parts with
  | nil => exact List.forall_mem_nil _
  | cons part parts =>
      exact List.forall_mem_append.2 ⟨part.inExpr_of_held, inExpr_of_heldParts parts⟩
termination_by structural parts

end

/-! ### What is built -/

/-- In a built expression, a named expression is bare only where the grammar takes it so. -/
theorem Expr.Built.refusesNamed_eq {wraps : Prop} {e : Expr} (h : e.Built wraps) {p : Position}
    {x : Expr} (hx : (p, x) ∈ e.held) (hnamed : x.isNamed = true) : p.refusesNamed = false := by
  have hslot : p.slot? = none := Position.slot?_eq_none (h.sits_held (p, x) hx).1 hnamed
  have hinside : p.inExpr = true := e.inExpr_of_held (p, x) hx
  cases hrefuses : p.refusesNamed with
  | false => rfl
  | true =>
      rw [Position.eq_typeBound hslot hrefuses] at hinside
      cases hinside

/-- The header of a generic function whose one type parameter has a bound. -/
def boundedFunction (bound : Expr) : FunctionHeader :=
  ⟨[], false, ⟨"f", by decide⟩, [.type ⟨"T", by decide⟩ (some bound)], [], none⟩

theorem built_boundedFunction {bound : Expr} (h : bound.Built True) :
    (Stmt.functionDef (boundedFunction bound) []).Built := by
  let steps : List FunctionStep :=
    [.name ⟨"f", by decide⟩, .typeParams [.type ⟨"T", by decide⟩ (some bound)]]
  have hsteps : ∀ step ∈ steps, step.Built := by
    simpa [steps, FunctionStep.Built, TypeParam.Built, TypeParam.exprs] using h
  have hfinish : ((FunctionDraft.start []).run steps).finish = .ok (boundedFunction bound) := rfl
  intro head hhead
  obtain rfl := List.mem_singleton.1 hhead
  exact .functionDef [] hsteps hfinish

theorem typeBound_held (bound : Expr) :
    (.free .typeBound, bound) ∈ (Stmt.functionDef (boundedFunction bound) []).held := by
  simp [Stmt.held, Stmt.heads, headsAll, boundedFunction, Head.places, TypeParam.places, optionalAt]

/-- Whatever sequence of steps something is built by, no part of an expression, at whatever depth, is a
bare named expression or alias where the grammar takes none. In a statement none is so exactly when
none is the bound of a type parameter, and anything that can be built at all is kept as such a bound
the way it is given. -/
theorem named_held_bare {e : Expr} (he : e.Built True) {s : Stmt} (hs : s.Built) :
    (∀ p x, (p, x) ∈ e.held → x.isNamed = true → p.refusesNamed = false) ∧
    ((∀ p x, (p, x) ∈ s.held → x.isNamed = true → p.refusesNamed = false) ↔
      ∀ x, (.free .typeBound, x) ∈ s.held → x.isNamed = false) ∧
    ∃ t : Stmt, t.Built ∧ (.free .typeBound, e) ∈ t.held := by
  refine ⟨fun p x hx hnamed => he.refusesNamed_eq hx hnamed, ⟨?_, ?_⟩,
    _, built_boundedFunction he, typeBound_held e⟩
  · intro hrefused x hx
    cases hnamed : x.isNamed with
    | false => rfl
    | true => cases hrefused _ x hx hnamed
  · intro hbounds p x hx hnamed
    cases hrefuses : p.refusesNamed with
    | false => rfl
    | true =>
        obtain rfl := Position.eq_typeBound (Position.slot?_eq_none (hs.fits hx) hnamed) hrefuses
        rw [hbounds x hx] at hnamed
        cases hnamed

def sampleNamed : Expr :=
  .mkNamed sampleName sampleExpr

theorem built_sampleNamed : sampleNamed.Built True :=
  .named _ (.identifier _)

theorem sampleNamed_held_bare :
    (Expr.mkUnary .boolNot sampleNamed).text = "not (x := x)" ∧
    (∀ p x, (p, x) ∈ (Expr.mkUnary .boolNot sampleNamed).held → x.isNamed = true →
      p.refusesNamed = false) ∧
    (boundedFunction (.wrapped sampleNamed)).text = "def f[T: (x := x)]()" ∧
    ∀ p x, (p, x) ∈ (Stmt.functionDef (boundedFunction (.wrapped sampleNamed)) []).held →
      x.isNamed = true → p.refusesNamed = false := by
  have hwrapped : (Expr.wrapped sampleNamed).Built True := .wrapped trivial built_sampleNamed
  have hbounds : ∀ q ∈ (Stmt.functionDef (boundedFunction (.wrapped sampleNamed)) []).held,
      q.1 = .free .typeBound → q.2.isNamed = false := by decide
  obtain ⟨hexpr, hstmt, -⟩ :=
    named_held_bare (.unary .boolNot built_sampleNamed) (built_boundedFunction hwrapped)
  exact ⟨by decide, hexpr, by decide, hstmt.2 fun x hx => hbounds _ hx rfl⟩

/-- The bound of a type parameter is stored as it is given, so it may be a bare named expression, which
the grammar does not take there. -/
theorem not_forall_refusesNamed :
    (boundedFunction sampleNamed).text = "def f[T: x := x]()" ∧
    ¬ ∀ s : Stmt, s.Built → ∀ p x, (p, x) ∈ s.held → x.isNamed = true → p.refusesNamed = false := by
  refine ⟨by decide, ?_⟩
  intro hrefused
  have hbound := hrefused _ (built_boundedFunction built_sampleNamed) _ _ (typeBound_held sampleNamed)
    rfl
  cases hbound

end Unparse
