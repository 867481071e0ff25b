import Unparse.Proofs.FormatParts

/-!
Positions: where an expression is held by a node or a statement. A position is a part of a node,
which has a slot of its own, the whole value of a statement, which shares one slot with all others
of them, or a place that takes an expression as it is.
-/

namespace Unparse

/-- The whole values of statements. -/
inductive ValuePlace where
  | expression
  | declaredType
  | assigned
  | returned
  | raised
  | cause
  | asserted
  | message
  | iterable
  | context
  | caught
  deriving DecidableEq

/-- The places that take an expression as it is. -/
inductive FreePlace where
  | parentheses
  | argument
  | index
  | element
  | aliasTarget
  | test
  | assignmentTarget
  | deletionTarget
  | loopTarget
  | withTarget
  | subject
  | pattern
  | guard
  | decorator
  | typeBound
  | base
  deriving DecidableEq

/-- Where an expression is held. -/
inductive Position where
  | part (slot : Slot)
  | value (place : ValuePlace)
  | free (place : FreePlace)
  deriving DecidableEq

/-- The slot that an expression is put into at a position. -/
def Position.slot? : Position → Option Slot
  | .part slot => some slot
  | .value _ => some .statementValue
  | .free _ => none

/-- An expression fits a position if the slot of the position, where there is one, takes it as it
is. -/
def Position.Fits (p : Position) (e : Expr) : Prop :=
  ∀ slot, p.slot? = some slot → slot.admits e = true

theorem Position.fits_part {slot : Slot} {e : Expr} : (part slot).Fits e ↔ slot.admits e = true := by
  simp [Fits, slot?]

theorem Position.fits_free (place : FreePlace) (e : Expr) : (free place).Fits e := by
  simp [Fits, slot?]

/-! ### Expressions -/

mutual

/-- All expressions below an expression, each with the position where it is held. -/
def Expr.held : Expr → List (Position × Expr)
  | .identifier _ | .literal _ | .pathAlias _ _ | .empty => []
  | .unary op operand => (.part (.operand op), operand) :: operand.held
  | .binary op left right =>
    (.part (.leftOperand op), left) :: left.held ++ (.part (.rightOperand op), right) :: right.held
  | .call target args keywords =>
    (.part .callTarget, target) :: target.held ++ heldEach (.free .argument) args ++
      heldKeywords keywords
  | .attribute target _ => (.part .attributeTarget, target) :: target.held
  | .subscript target items => (.part .subscriptTarget, target) :: target.held ++ heldItems items
  | .display _ elements => heldEach (.free .element) elements
  | .comprehension _ element clauses =>
    (.part .comprehensionElement, element) :: element.held ++ heldClauses clauses
  | .pair key value => (.part .pairPart, key) :: key.held ++ (.part .pairPart, value) :: value.held
  | .lambda _ body => (.part .lambdaBody, body) :: body.held
  | .conditional body test orElse =>
    (.part .conditionPart, body) :: body.held ++ (.part .conditionPart, test) :: test.held ++
      (.part .conditionPart, orElse) :: orElse.held
  | .named _ value => (.part .namedValue, value) :: value.held
  | .formatString parts => heldParts parts
  | .wrapped inner => (.free .parentheses, inner) :: inner.held
  | .alias target _ => (.free .aliasTarget, target) :: target.held

/-- Expressions that are held in one kind of position, and those below them. -/
def heldEach (p : Position) : List Expr → List (Position × Expr)
  | [] => []
  | e :: es => (p, e) :: e.held ++ heldEach p es

/-- The value of an argument that is passed by name, and what is below it. -/
def KeywordArg.held : KeywordArg → List (Position × Expr)
  | ⟨_, value⟩ => (.part .keywordValue, value) :: value.held

/-- The values of named arguments, and what is below them. -/
def heldKeywords : List KeywordArg → List (Position × Expr)
  | [] => []
  | k :: ks => k.held ++ heldKeywords ks

/-- The parts of a subscript item, and what is below them. -/
def SubscriptItem.held : SubscriptItem → List (Position × Expr)
  | .index value => (.free .index, value) :: value.held
  | .slice lower upper =>
    (.part .slicePart, lower) :: lower.held ++ (.part .slicePart, upper) :: upper.held
  | .stride lower upper step =>
    (.part .slicePart, lower) :: lower.held ++ (.part .slicePart, upper) :: upper.held ++
      (.part .slicePart, step) :: step.held

/-- The parts of subscript items, and what is below them. -/
def heldItems : List SubscriptItem → List (Position × Expr)
  | [] => []
  | item :: items => item.held ++ heldItems items

/-- The iterator and the filters of a clause, and what is below them. -/
def Clause.held : Clause → List (Position × Expr)
  | ⟨_, _, iterator, filters⟩ =>
    (.part .comprehensionIterator, iterator) :: iterator.held ++
      heldEach (.part .comprehensionFilter) filters

/-- The iterators and the filters of clauses, and what is below them. -/
def heldClauses : List Clause → List (Position × Expr)
  | [] => []
  | c :: cs => c.held ++ heldClauses cs

/-- The value of a field of a format string, and what is below it. -/
def FormatPart.held : FormatPart → List (Position × Expr)
  | .plain _ => []
  | .field value _ _ => (.part .formatValue, value) :: value.held

/-- The values of fields, and what is below them. -/
def heldParts : List FormatPart → List (Position × Expr)
  | [] => []
  | part :: parts => part.held ++ heldParts parts

end

/-- An expression and all expressions below it. -/
def Expr.nodes (e : Expr) : List Expr :=
  e :: e.held.map Prod.snd

theorem heldEach_eq_flatMap (p : Position) (es : List Expr) :
    heldEach p es = es.flatMap fun e => (p, e) :: e.held := by
  induction es with
  | nil => rfl
  | cons e es ih => simp [heldEach, ih]

theorem heldKeywords_eq_flatMap (ks : List KeywordArg) :
    heldKeywords ks = ks.flatMap KeywordArg.held := by
  induction ks with
  | nil => rfl
  | cons k ks ih => simp [heldKeywords, ih]

theorem heldItems_eq_flatMap (items : List SubscriptItem) :
    heldItems items = items.flatMap SubscriptItem.held := by
  induction items with
  | nil => rfl
  | cons item items ih => simp [heldItems, ih]

theorem heldClauses_eq_flatMap (cs : List Clause) : heldClauses cs = cs.flatMap Clause.held := by
  induction cs with
  | nil => rfl
  | cons c cs ih => simp [heldClauses, ih]

theorem heldParts_eq_flatMap (parts : List FormatPart) :
    heldParts parts = parts.flatMap FormatPart.held := by
  induction parts with
  | nil => rfl
  | cons part parts ih => simp [heldParts, ih]

theorem map_snd_heldEach (p : Position) (es : List Expr) :
    (heldEach p es).map Prod.snd = es.flatMap Expr.nodes := by
  rw [heldEach_eq_flatMap, List.map_flatMap]
  rfl

theorem map_snd_heldKeywords (ks : List KeywordArg) :
    (heldKeywords ks).map Prod.snd = ks.flatMap fun k => k.value.nodes := by
  rw [heldKeywords_eq_flatMap, List.map_flatMap]
  congr 1
  funext k
  obtain ⟨_, value⟩ := k
  rfl

theorem map_snd_heldItems_index (values : List Expr) :
    (heldItems (values.map .index)).map Prod.snd = values.flatMap Expr.nodes := by
  rw [heldItems_eq_flatMap, List.map_flatMap, List.flatMap_map]
  rfl

namespace Expr

theorem nodes_unary (op : UnaryOp) (operand : Expr) :
    (unary op operand).nodes = unary op operand :: operand.nodes := rfl

theorem nodes_binary (op : BinaryOp) (left right : Expr) :
    (binary op left right).nodes = binary op left right :: (left.nodes ++ right.nodes) := by
  simp [nodes, held]

theorem nodes_call (target : Expr) (args : List Expr) (keywords : List KeywordArg) :
    (call target args keywords).nodes = call target args keywords ::
      (target.nodes ++ (args.flatMap nodes ++ keywords.flatMap fun k => k.value.nodes)) := by
  rw [nodes, held, List.map_append, List.map_append, map_snd_heldEach, map_snd_heldKeywords,
    List.append_assoc]
  rfl

theorem nodes_attribute (target : Expr) (name : Identifier) :
    (Expr.attribute target name).nodes = .attribute target name :: target.nodes := rfl

theorem nodes_subscript_index (target : Expr) (values : List Expr) :
    (subscript target (values.map .index)).nodes =
      subscript target (values.map .index) :: (target.nodes ++ values.flatMap nodes) := by
  rw [nodes, held, List.map_append, map_snd_heldItems_index]
  rfl

theorem nodes_display (form : DisplayForm) (elements : List Expr) :
    (display form elements).nodes = display form elements :: elements.flatMap nodes := by
  rw [nodes, held, map_snd_heldEach]

theorem nodes_lambda (params : List Identifier) (body : Expr) :
    (lambda params body).nodes = lambda params body :: body.nodes := rfl

theorem nodes_conditional (body test orElse : Expr) :
    (conditional body test orElse).nodes =
      conditional body test orElse :: (body.nodes ++ (test.nodes ++ orElse.nodes)) := by
  simp [nodes, held]

theorem nodes_named (target : Identifier) (value : Expr) :
    (named target value).nodes = named target value :: value.nodes := rfl

theorem nodes_wrapped (inner : Expr) : (wrapped inner).nodes = wrapped inner :: inner.nodes := rfl

end Expr

/-! ### Statements -/

/-- An expression that may be left out, at a position. -/
def optionalAt (p : Position) (e : Option Expr) : List (Position × Expr) :=
  e.toList.map (p, ·)

/-- The expressions of a simple statement, each with its position. -/
def SimpleStmt.places : SimpleStmt → List (Position × Expr)
  | .expression value => [(.value .expression, value)]
  | .assignment ⟨target, declared, value⟩ =>
    (.free .assignmentTarget, target) :: optionalAt (.value .declaredType) declared ++
      optionalAt (.value .assigned) value
  | .returning value => optionalAt (.value .returned) value
  | .raising .again => []
  | .raising (.exception value cause) =>
    (.value .raised, value) :: optionalAt (.value .cause) cause
  | .asserting test message => (.value .asserted, test) :: optionalAt (.value .message) message
  | .deleting target => [(.free .deletionTarget, target)]
  | .loneWord _ | .globals _ | .nonlocals _ => []
  | .imports names | .importsFrom _ names =>
    names.flatMap fun
      | .alias target _ => [(.free .aliasTarget, target)]
      | .star | .path _ | .pathAlias _ _ => []

def TypeParam.places : TypeParam → List (Position × Expr)
  | .type _ bound => optionalAt (.free .typeBound) bound
  | .types _ | .params _ => []

def Param.places (param : Param) : List (Position × Expr) :=
  optionalAt (.part .keywordValue) param.declared ++ optionalAt (.part .keywordValue) param.fallback

/-- The context of a `with` and the target of its value. -/
def WithItem.places (item : WithItem) : List (Position × Expr) :=
  (.value .context, item.context) :: optionalAt (.free .withTarget) item.target

def Caught.places : Caught → List (Position × Expr)
  | .anything => []
  | .type value | .group value => [(.value .caught, value)]

/-- The expressions of a head, each with its position. -/
def Head.places : Head → List (Position × Expr)
  | .simple statement => statement.places
  | .ifTest e | .elifTest e | .whileTest e => [(.free .test, e)]
  | .matchSubject e => [(.free .subject, e)]
  | .decorator e => [(.free .decorator, e)]
  | .elseWord | .tryWord | .finallyWord => []
  | .forLoop header => [(.free .loopTarget, header.target), (.value .iterable, header.iterable)]
  | .handler header => header.caught.places
  | .withBlock header => header.items.flatMap WithItem.places
  | .matchCase header => (.free .pattern, header.pattern) :: optionalAt (.free .guard) header.guard
  | .functionDef header =>
    header.typeParams.flatMap TypeParam.places ++ header.params.flatMap Param.places ++
      optionalAt (.part .keywordValue) header.result
  | .classDef header =>
    header.typeParams.flatMap TypeParam.places ++ header.bases.map ((.free .base, ·)) ++
      header.keywords.map fun k => (.part .keywordValue, k.value)

/-- All expressions in a statement, each with the position where it is held. -/
def Stmt.held (s : Stmt) : List (Position × Expr) :=
  s.heads.flatMap fun head => head.places.flatMap fun q => q :: q.2.held

/-- `optionalAt` leaves nothing out: a part that is there is at its position. -/
@[simp] theorem map_snd_optionalAt (p : Position) (e : Option Expr) :
    (optionalAt p e).map Prod.snd = e.toList := by
  simp [optionalAt, Function.comp_def]

/-- `Stmt.held` leaves nothing out: every expression of a head is at a position, and nothing else is. -/
theorem Head.map_snd_places (head : Head) : head.places.map Prod.snd = head.exprs := by
  have htypes (params : List TypeParam) :
      (params.flatMap TypeParam.places).map Prod.snd = params.flatMap TypeParam.exprs := by
    rw [List.map_flatMap]
    congr 1
    funext param
    cases param <;> simp [TypeParam.places, TypeParam.exprs]
  have hnames (names : List ImportName) :
      (SimpleStmt.places (.imports names)).map Prod.snd = SimpleStmt.exprs (.imports names) := by
    rw [SimpleStmt.places, SimpleStmt.exprs, List.map_flatMap]
    congr 1
    funext name
    cases name <;> rfl
  cases head with
  | simple statement =>
      cases statement with
      | raising raised => cases raised <;> simp [places, exprs, SimpleStmt.places, SimpleStmt.exprs]
      | imports names => exact hnames names
      | importsFrom source names => exact hnames names
      | _ => simp [places, exprs, SimpleStmt.places, SimpleStmt.exprs]
  | handler header =>
      obtain ⟨caught, name⟩ := header
      cases caught <;> rfl
  | withBlock header =>
      simp only [places, exprs, List.map_flatMap]
      congr 1
      funext item
      simp [WithItem.places]
  | functionDef header =>
      simp [places, exprs, htypes, List.map_flatMap, Param.places]
  | classDef header => simp [places, exprs, htypes, Function.comp_def]
  | _ => simp [places, exprs]

end Unparse
