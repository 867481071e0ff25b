import Unparse.Expr.Comprehension
import Unparse.Proofs.Position

/-!
Expressions as they are built: every node is made by its own builder from parts that were built
before. Whatever such an expression holds in a slot is content that the slot takes as it is.
-/

namespace Unparse

/-! ### Parts of nodes -/

/-- A named argument with its value in its slot. -/
def KeywordArg.placed (k : KeywordArg) : KeywordArg :=
  mkKeyword k.name k.value

/-- A subscript item with its bounds in their slots. -/
def SubscriptItem.placed : SubscriptItem → SubscriptItem
  | .index value => .index value
  | .slice lower upper => mkSlice lower upper none
  | .stride lower upper step => mkSlice lower upper (some step)

/-- A clause with its iterator and its filters in their slots. -/
def Clause.placed (c : Clause) : Clause :=
  mkClause c.isAsync c.targets c.iterator c.filters

/-- A part of a format string with its value in its slot. -/
def FormatPart.placed : FormatPart → FormatPart
  | .plain content => .plain content
  | .field value conversion spec =>
    ((FormatPart.ofValue value).withConversion conversion).withSpec spec

def SubscriptItem.exprs : SubscriptItem → List Expr
  | .index value => [value]
  | .slice lower upper => [lower, upper]
  | .stride lower upper step => [lower, upper, step]

def Clause.exprs (c : Clause) : List Expr :=
  c.iterator :: c.filters

def FormatPart.exprs : FormatPart → List Expr
  | .plain _ => []
  | .field value _ _ => [value]

theorem Slot.place_eq (slot : Slot) (e : Expr) : slot.place e = e ∨ slot.place e = .wrapped e := by
  unfold place
  split
  · exact Or.inl rfl
  · exact Or.inr rfl

/-- The target of an attribute stands as it is or in parentheses, and its slot takes it either way.
-/
theorem Expr.exists_mkAttribute_eq (target : Expr) (name : Identifier) :
    ∃ stored, mkAttribute target name = .attribute stored name ∧
      (stored = target ∨ stored = .wrapped target) ∧ Slot.attributeTarget.admits stored = true := by
  have hplaced : ∃ stored, Expr.attribute (Slot.attributeTarget.place target) name =
      .attribute stored name ∧ (stored = target ∨ stored = .wrapped target) ∧
      Slot.attributeTarget.admits stored = true :=
    ⟨_, rfl, Slot.attributeTarget.place_eq target, Slot.attributeTarget.admits_place target⟩
  unfold mkAttribute
  split
  · split
    · exact ⟨_, rfl, Or.inr rfl, Slot.admits_wrapped _ _⟩
    · exact hplaced
  · exact hplaced

namespace Comprehension

theorem ofClauses_eq_ok {element : Expr} {clauses : List Clause} {c : Comprehension}
    (h : ofClauses element clauses = .ok c) :
    c.element = Slot.comprehensionElement.place element ∧ c.clauses = clauses := by
  unfold ofClauses at h
  split at h
  · cases h
  · cases h
    exact ⟨rfl, rfl⟩

theorem toExpr_eq_ok {c : Comprehension} {form : ComprehensionForm} {e : Expr}
    (h : c.toExpr form = .ok e) : e = .comprehension form c.element c.clauses := by
  cases form with
  | generator =>
      cases h
      rfl
  | list | set | dict =>
      simp only [toExpr] at h
      split at h <;> cases h
      rfl

end Comprehension

/-! ### Built expressions -/

/-- An expression that is made by the builders of its nodes. Parentheses that are asked for are a
node of their own, which `wraps` allows or forbids. -/
inductive Expr.Built (wraps : Prop) : Expr → Prop where
  | identifier (name : Identifier) : Built wraps (.identifier name)
  | literal (value : Literal) : Built wraps (.literal value)
  | empty : Built wraps .empty
  | unary (op : UnaryOp) {operand : Expr} (hoperand : Built wraps operand) :
    Built wraps (.mkUnary op operand)
  | binary (op : BinaryOp) {left right : Expr} (hleft : Built wraps left)
    (hright : Built wraps right) : Built wraps (.mkBinary op left right)
  | call {target : Expr} (htarget : Built wraps target) {args : List Expr}
    (hargs : ∀ e ∈ args, Built wraps e) {keywords : List KeywordArg}
    (hkeywords : ∀ k ∈ keywords, Built wraps k.value) :
    Built wraps (.mkCall target args (keywords.map KeywordArg.placed))
  | access {target : Expr} (htarget : Built wraps target) (name : Identifier) :
    Built wraps (.mkAttribute target name)
  | subscript {target : Expr} (htarget : Built wraps target) {items : List SubscriptItem}
    (hitems : ∀ item ∈ items, ∀ e ∈ item.exprs, Built wraps e) :
    Built wraps (.mkSubscript target (items.map SubscriptItem.placed))
  | display (form : DisplayForm) {elements : List Expr} (helements : ∀ e ∈ elements, Built wraps e) :
    Built wraps (.display form elements)
  | comprehension {element : Expr} (helement : Built wraps element) {clauses : List Clause}
    (hclauses : ∀ c ∈ clauses, ∀ e ∈ c.exprs, Built wraps e) {c : Comprehension}
    (hc : Comprehension.ofClauses element (clauses.map Clause.placed) = .ok c)
    {form : ComprehensionForm} {e : Expr} (he : c.toExpr form = .ok e) : Built wraps e
  | pair {key value : Expr} (hkey : Built wraps key) (hvalue : Built wraps value) :
    Built wraps (.mkPair key value)
  | lambda (params : List Identifier) {body : Expr} (hbody : Built wraps body) :
    Built wraps (.mkLambda params body)
  | conditional {body test orElse : Expr} (hbody : Built wraps body) (htest : Built wraps test)
    (horElse : Built wraps orElse) : Built wraps (.mkConditional body test orElse)
  | named (target : Identifier) {value : Expr} (hvalue : Built wraps value) :
    Built wraps (.mkNamed target value)
  | formatString {parts : List FormatPart}
    (hparts : ∀ part ∈ parts, ∀ e ∈ part.exprs, Built wraps e) :
    Built wraps (.formatString (parts.map FormatPart.placed))
  | alias {target : Expr} (htarget : Built wraps target) (name : Identifier) :
    Built wraps (.alias target name)
  | pathAlias (path : ModulePath) (name : Identifier) : Built wraps (.pathAlias path name)
  | wrapped (hwraps : wraps) {inner : Expr} (hinner : Built wraps inner) :
    Built wraps (.wrapped inner)

/-- `Built` leaves out no comprehension that the steps of a draft make. It has no rule for drafts;
what a complete one gives is built by the rule for clauses. -/
theorem ComprehensionDraft.built_of_finish {wraps : Prop} {draft : ComprehensionDraft}
    (helement : draft.element.Built wraps)
    (hclauses : ∀ c ∈ draft.clauses, ∀ e ∈ c.iterator.toList ++ c.filters, e.Built wraps)
    {c : Comprehension} (hc : draft.finish = .ok c) {form : ComprehensionForm} {e : Expr}
    (he : c.toExpr form = .ok e) : e.Built wraps := by
  let loose (clause : ClauseDraft) : Option Clause :=
    clause.iterator.map fun iterator => ⟨clause.isAsync, clause.targets, iterator, clause.filters⟩
  have hfinish : draft.clauses.filterMap ClauseDraft.finish? =
      (draft.clauses.filterMap loose).map Clause.placed := by
    rw [List.map_filterMap]
    congr 1
    funext clause
    simp [loose, ClauseDraft.finish?, Clause.placed, Function.comp_def]
  unfold finish at hc
  split at hc
  · rw [hfinish] at hc
    refine .comprehension helement ?_ hc he
    intro clause hclause
    obtain ⟨clauseDraft, hdraft, hloose⟩ := List.mem_filterMap.1 hclause
    obtain ⟨iterator, hiterator, rfl⟩ := Option.map_eq_some_iff.1 hloose
    simpa [hiterator, Clause.exprs] using hclauses clauseDraft hdraft
  · cases hc

/-- An expression fits the position where it is held, and where the position has no slot, it is held
as it was built. -/
def Sits (wraps : Prop) (q : Position × Expr) : Prop :=
  q.1.Fits q.2 ∧ (q.1.slot? = none → q.2.Built wraps)

section Sits

variable {wraps : Prop} {e : Expr}

theorem sits_free (place : FreePlace) (he : e.Built wraps) (hheld : ∀ q ∈ e.held, Sits wraps q) :
    ∀ q ∈ (.free place, e) :: e.held, Sits wraps q :=
  List.forall_mem_cons.2 ⟨⟨Position.fits_free place e, fun _ => he⟩, hheld⟩

/-- In a slot, parentheses may come between the slot and the content. -/
theorem sits_stored {p : Position} {slot : Slot} (hp : p.slot? = some slot) (he : e.Built wraps)
    (hheld : ∀ q ∈ e.held, Sits wraps q) {stored : Expr} (hstored : stored = e ∨ stored = .wrapped e)
    (hadmits : slot.admits stored = true) : ∀ q ∈ (p, stored) :: stored.held, Sits wraps q := by
  have hfits : p.Fits stored := by
    intro other hother
    rw [hp, Option.some.injEq] at hother
    rw [← hother]
    exact hadmits
  refine List.forall_mem_cons.2 ⟨⟨hfits, fun hslot => by simp [hp] at hslot⟩, ?_⟩
  rcases hstored with rfl | rfl
  · exact hheld
  · exact sits_free .parentheses he hheld

theorem sits_part (slot : Slot) (he : e.Built wraps) (hheld : ∀ q ∈ e.held, Sits wraps q) :
    ∀ q ∈ (.part slot, slot.place e) :: (slot.place e).held, Sits wraps q :=
  sits_stored rfl he hheld (slot.place_eq e) (slot.admits_place e)

theorem sits_value (place : ValuePlace) (he : e.Built wraps) (hheld : ∀ q ∈ e.held, Sits wraps q) :
    ∀ q ∈ (.value place, Slot.statementValue.place e) :: (Slot.statementValue.place e).held,
      Sits wraps q :=
  sits_stored rfl he hheld (Slot.place_eq _ e) (Slot.admits_place _ e)

theorem sits_each (place : FreePlace) {es : List Expr} (hes : ∀ e ∈ es, e.Built wraps)
    (hheld : ∀ e ∈ es, ∀ q ∈ e.held, Sits wraps q) :
    ∀ q ∈ heldEach (.free place) es, Sits wraps q := by
  rw [heldEach_eq_flatMap]
  intro q hq
  obtain ⟨e, he, hq⟩ := List.mem_flatMap.1 hq
  exact sits_free place (hes e he) (hheld e he) q hq

theorem sits_keywords {keywords : List KeywordArg} (hkeywords : ∀ k ∈ keywords, k.value.Built wraps)
    (hheld : ∀ k ∈ keywords, ∀ q ∈ k.value.held, Sits wraps q) :
    ∀ q ∈ heldKeywords (keywords.map KeywordArg.placed), Sits wraps q := by
  rw [heldKeywords_eq_flatMap]
  intro q hq
  obtain ⟨_, hplaced, hq⟩ := List.mem_flatMap.1 hq
  obtain ⟨k, hk, rfl⟩ := List.mem_map.1 hplaced
  exact sits_part .keywordValue (hkeywords k hk) (hheld k hk) q hq

theorem sits_items {items : List SubscriptItem}
    (hitems : ∀ item ∈ items, ∀ e ∈ item.exprs, e.Built wraps)
    (hheld : ∀ item ∈ items, ∀ e ∈ item.exprs, ∀ q ∈ e.held, Sits wraps q) :
    ∀ q ∈ heldItems (items.map SubscriptItem.placed), Sits wraps q := by
  rw [heldItems_eq_flatMap]
  intro q hq
  obtain ⟨_, hplaced, hq⟩ := List.mem_flatMap.1 hq
  obtain ⟨item, hitem, rfl⟩ := List.mem_map.1 hplaced
  have hbuilt := hitems item hitem
  have hsits := hheld item hitem
  cases item with
  | index value =>
      exact sits_free .index (hbuilt value (by simp [SubscriptItem.exprs]))
        (hsits value (by simp [SubscriptItem.exprs])) q hq
  | slice lower upper =>
      simp only [SubscriptItem.exprs, List.forall_mem_cons] at hbuilt hsits
      obtain ⟨hlower, hupper, -⟩ := hbuilt
      obtain ⟨hlower', hupper', -⟩ := hsits
      exact List.forall_mem_append.2 ⟨sits_part .slicePart hlower hlower',
        sits_part .slicePart hupper hupper'⟩ q hq
  | stride lower upper step =>
      simp only [SubscriptItem.exprs, List.forall_mem_cons] at hbuilt hsits
      obtain ⟨hlower, hupper, hstep, -⟩ := hbuilt
      obtain ⟨hlower', hupper', hstep', -⟩ := hsits
      exact List.forall_mem_append.2 ⟨List.forall_mem_append.2
        ⟨sits_part .slicePart hlower hlower', sits_part .slicePart hupper hupper'⟩,
        sits_part .slicePart hstep hstep'⟩ q hq

theorem sits_clauses {clauses : List Clause} (hclauses : ∀ c ∈ clauses, ∀ e ∈ c.exprs, e.Built wraps)
    (hheld : ∀ c ∈ clauses, ∀ e ∈ c.exprs, ∀ q ∈ e.held, Sits wraps q) :
    ∀ q ∈ heldClauses (clauses.map Clause.placed), Sits wraps q := by
  rw [heldClauses_eq_flatMap]
  intro q hq
  obtain ⟨_, hplaced, hq⟩ := List.mem_flatMap.1 hq
  obtain ⟨c, hc, rfl⟩ := List.mem_map.1 hplaced
  obtain ⟨hiterator, hfilters⟩ := List.forall_mem_cons.1 (hclauses c hc)
  obtain ⟨hiterator', hfilters'⟩ := List.forall_mem_cons.1 (hheld c hc)
  refine List.forall_mem_append.2 ⟨sits_part .comprehensionIterator hiterator hiterator', ?_⟩ q hq
  intro q hq
  rw [heldEach_eq_flatMap] at hq
  obtain ⟨_, hplaced, hq⟩ := List.mem_flatMap.1 hq
  obtain ⟨filter, hfilter, rfl⟩ := List.mem_map.1 hplaced
  exact sits_part .comprehensionFilter (hfilters filter hfilter) (hfilters' filter hfilter) q hq

theorem sits_parts {parts : List FormatPart}
    (hparts : ∀ part ∈ parts, ∀ e ∈ part.exprs, e.Built wraps)
    (hheld : ∀ part ∈ parts, ∀ e ∈ part.exprs, ∀ q ∈ e.held, Sits wraps q) :
    ∀ q ∈ heldParts (parts.map FormatPart.placed), Sits wraps q := by
  rw [heldParts_eq_flatMap]
  intro q hq
  obtain ⟨_, hplaced, hq⟩ := List.mem_flatMap.1 hq
  obtain ⟨part, hpart, rfl⟩ := List.mem_map.1 hplaced
  cases part with
  | plain content => exact absurd hq List.not_mem_nil
  | field value conversion spec =>
      have hvalue : value ∈ (FormatPart.field value conversion spec).exprs :=
        List.mem_singleton_self _
      exact sits_part .formatValue (hparts _ hpart value hvalue) (hheld _ hpart value hvalue) q hq

/-- Everything that a built expression holds, at any depth, sits where it is held. The induction is
on how the expression was built. -/
theorem Expr.Built.sits_held (h : e.Built wraps) : ∀ q ∈ e.held, Sits wraps q := by
  induction h with
  | identifier _ | literal _ | empty | pathAlias _ _ => exact List.forall_mem_nil _
  | unary op hoperand ih => exact sits_part (.operand op) hoperand ih
  | binary op hleft hright ihleft ihright =>
      exact List.forall_mem_append.2 ⟨sits_part (.leftOperand op) hleft ihleft,
        sits_part (.rightOperand op) hright ihright⟩
  | call htarget hargs hkeywords ih ihargs ihkeywords =>
      exact List.forall_mem_append.2 ⟨List.forall_mem_append.2
        ⟨sits_part .callTarget htarget ih, sits_each .argument hargs ihargs⟩,
        sits_keywords hkeywords ihkeywords⟩
  | @access target htarget name ih =>
      obtain ⟨stored, heq, hstored, hadmits⟩ := exists_mkAttribute_eq target name
      rw [heq]
      exact sits_stored rfl htarget ih hstored hadmits
  | subscript htarget hitems ih ihitems =>
      exact List.forall_mem_append.2 ⟨sits_part .subscriptTarget htarget ih,
        sits_items hitems ihitems⟩
  | display form helements ih => exact sits_each .element helements ih
  | comprehension helement hclauses hc he ih ihclauses =>
      obtain ⟨helement', hclauses'⟩ := Comprehension.ofClauses_eq_ok hc
      rw [Comprehension.toExpr_eq_ok he, helement', hclauses']
      exact List.forall_mem_append.2 ⟨sits_part .comprehensionElement helement ih,
        sits_clauses hclauses ihclauses⟩
  | pair hkey hvalue ihkey ihvalue =>
      exact List.forall_mem_append.2 ⟨sits_part .pairPart hkey ihkey,
        sits_part .pairPart hvalue ihvalue⟩
  | lambda params hbody ih => exact sits_part .lambdaBody hbody ih
  | conditional hbody htest horElse ihbody ihtest ihorElse =>
      exact List.forall_mem_append.2 ⟨List.forall_mem_append.2
        ⟨sits_part .conditionPart hbody ihbody, sits_part .conditionPart htest ihtest⟩,
        sits_part .conditionPart horElse ihorElse⟩
  | named target hvalue ih => exact sits_part .namedValue hvalue ih
  | formatString hparts ih => exact sits_parts hparts ih
  | «alias» htarget name ih => exact sits_free .aliasTarget htarget ih
  | wrapped hwraps hinner ih => exact sits_free .parentheses hinner ih

end Sits

/-! ### A name to build from -/

theorem Identifier.valid_x : Identifier.Valid "x" := by decide

/-- The name of all examples. -/
def sampleName : Identifier :=
  ⟨"x", Identifier.valid_x⟩

def sampleExpr : Expr :=
  .identifier sampleName

end Unparse
