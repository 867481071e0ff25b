import Unparse.Proofs.Construction

/-!
Bare trees: an expression without its parentheses. Where nobody asked for parentheses, the bare tree
says all: when each node of it is built again, bottom up, the same expression comes out, parentheses
included.
-/

namespace Unparse

/-! ### Without parentheses -/

mutual

/-- An expression without its parentheses, at any depth. -/
def Expr.bare : Expr → Expr
  | .identifier name => .identifier name
  | .literal value => .literal value
  | .unary op operand => .unary op operand.bare
  | .binary op left right => .binary op left.bare right.bare
  | .call target args keywords => .call target.bare (bareAll args) (bareKeywords keywords)
  | .attribute target name => .attribute target.bare name
  | .subscript target items => .subscript target.bare (bareItems items)
  | .display form elements => .display form (bareAll elements)
  | .comprehension form element clauses => .comprehension form element.bare (bareClauses clauses)
  | .pair key value => .pair key.bare value.bare
  | .lambda params body => .lambda params body.bare
  | .conditional body test orElse => .conditional body.bare test.bare orElse.bare
  | .named target value => .named target value.bare
  | .formatString parts => .formatString (bareParts parts)
  | .wrapped inner => inner.bare
  | .alias target name => .alias target.bare name
  | .pathAlias path name => .pathAlias path name
  | .empty => .empty

def bareAll : List Expr → List Expr
  | [] => []
  | e :: es => e.bare :: bareAll es

def KeywordArg.bare : KeywordArg → KeywordArg
  | ⟨name, value⟩ => ⟨name, value.bare⟩

def bareKeywords : List KeywordArg → List KeywordArg
  | [] => []
  | k :: ks => k.bare :: bareKeywords ks

def SubscriptItem.bare : SubscriptItem → SubscriptItem
  | .index value => .index value.bare
  | .slice lower upper => .slice lower.bare upper.bare
  | .stride lower upper step => .stride lower.bare upper.bare step.bare

def bareItems : List SubscriptItem → List SubscriptItem
  | [] => []
  | item :: items => item.bare :: bareItems items

def Clause.bare : Clause → Clause
  | ⟨isAsync, targets, iterator, filters⟩ => ⟨isAsync, targets, iterator.bare, bareAll filters⟩

def bareClauses : List Clause → List Clause
  | [] => []
  | c :: cs => c.bare :: bareClauses cs

def FormatPart.bare : FormatPart → FormatPart
  | .plain content => .plain content
  | .field value conversion spec => .field value.bare conversion spec

def bareParts : List FormatPart → List FormatPart
  | [] => []
  | part :: parts => part.bare :: bareParts parts

end

theorem bareAll_eq_map (es : List Expr) : bareAll es = es.map Expr.bare := by
  induction es with
  | nil => rfl
  | cons e es ih => simp [bareAll, ih]

theorem Slot.bare_place (slot : Slot) (e : Expr) : (slot.place e).bare = e.bare := by
  rcases slot.place_eq e with h | h
  · rw [h]
  · rw [h, Expr.bare]

theorem bareAll_map_place (slot : Slot) (es : List Expr) :
    bareAll (es.map slot.place) = bareAll es := by
  simp [bareAll_eq_map, Slot.bare_place]

namespace Expr

theorem bare_mkUnary (op : UnaryOp) (operand : Expr) :
    (mkUnary op operand).bare = .unary op operand.bare := by
  show unary op (Slot.place _ operand).bare = _
  rw [Slot.bare_place]

theorem bare_mkBinary (op : BinaryOp) (left right : Expr) :
    (mkBinary op left right).bare = .binary op left.bare right.bare := by
  show binary op (Slot.place _ left).bare (Slot.place _ right).bare = _
  rw [Slot.bare_place, Slot.bare_place]

theorem bare_mkCall (target : Expr) (args : List Expr) (keywords : List KeywordArg) :
    (mkCall target args keywords).bare =
      .call target.bare (bareAll args) (bareKeywords keywords) := by
  show call (Slot.place _ target).bare (bareAll args) (bareKeywords keywords) = _
  rw [Slot.bare_place]

theorem bare_mkAttribute (target : Expr) (name : Identifier) :
    (mkAttribute target name).bare = .attribute target.bare name := by
  obtain ⟨stored, heq, hstored, -⟩ := exists_mkAttribute_eq target name
  rw [heq, bare]
  rcases hstored with rfl | rfl
  · rfl
  · rw [bare]

theorem bare_mkSubscript (target : Expr) (items : List SubscriptItem) :
    (mkSubscript target items).bare = .subscript target.bare (bareItems items) := by
  show subscript (Slot.place _ target).bare (bareItems items) = _
  rw [Slot.bare_place]

theorem bare_mkPair (key value : Expr) : (mkPair key value).bare = .pair key.bare value.bare := by
  show pair (Slot.place _ key).bare (Slot.place _ value).bare = _
  rw [Slot.bare_place, Slot.bare_place]

theorem bare_mkLambda (params : List Identifier) (body : Expr) :
    (mkLambda params body).bare = .lambda params body.bare := by
  show lambda params (Slot.place _ body).bare = _
  rw [Slot.bare_place]

theorem bare_mkConditional (body test orElse : Expr) :
    (mkConditional body test orElse).bare = .conditional body.bare test.bare orElse.bare := by
  show conditional (Slot.place _ body).bare (Slot.place _ test).bare (Slot.place _ orElse).bare = _
  rw [Slot.bare_place, Slot.bare_place, Slot.bare_place]

theorem bare_mkNamed (target : Identifier) (value : Expr) :
    (mkNamed target value).bare = .named target value.bare := by
  show named target (Slot.place _ value).bare = _
  rw [Slot.bare_place]

end Expr

theorem KeywordArg.bare_placed (k : KeywordArg) : k.placed.bare = k.bare := by
  obtain ⟨name, value⟩ := k
  simp only [placed, mkKeyword, bare, Slot.bare_place]

theorem SubscriptItem.bare_placed (item : SubscriptItem) : item.placed.bare = item.bare := by
  cases item with
  | index value => rfl
  | slice lower upper => simp only [placed, mkSlice, bare, Slot.bare_place]
  | stride lower upper step => simp only [placed, mkSlice, bare, Slot.bare_place]

theorem Clause.bare_placed (c : Clause) : c.placed.bare = c.bare := by
  obtain ⟨isAsync, targets, iterator, filters⟩ := c
  simp only [placed, mkClause, bare, Slot.bare_place, bareAll_map_place]

theorem FormatPart.bare_placed (part : FormatPart) : part.placed.bare = part.bare := by
  cases part with
  | plain content => rfl
  | field value conversion spec =>
      simp only [placed, ofValue, withConversion, withSpec, bare, Slot.bare_place]

/-! ### Built again -/

mutual

/-- An expression built again from the leaves up, each node by its own builder. -/
def Expr.rebuild : Expr → Except BuildError Expr
  | .identifier name => .ok (.identifier name)
  | .literal value => .ok (.literal value)
  | .unary op operand => do
    let operand ← operand.rebuild
    return .mkUnary op operand
  | .binary op left right => do
    let left ← left.rebuild
    let right ← right.rebuild
    return .mkBinary op left right
  | .call target args keywords => do
    let target ← target.rebuild
    let args ← rebuildAll args
    let keywords ← rebuildKeywords keywords
    return .mkCall target args keywords
  | .attribute target name => do
    let target ← target.rebuild
    return .mkAttribute target name
  | .subscript target items => do
    let target ← target.rebuild
    let items ← rebuildItems items
    return .mkSubscript target items
  | .display form elements => do
    let elements ← rebuildAll elements
    return .display form elements
  | .comprehension form element clauses => do
    let element ← element.rebuild
    let clauses ← rebuildClauses clauses
    let content ← Comprehension.ofClauses element clauses
    content.toExpr form
  | .pair key value => do
    let key ← key.rebuild
    let value ← value.rebuild
    return .mkPair key value
  | .lambda params body => do
    let body ← body.rebuild
    return .mkLambda params body
  | .conditional body test orElse => do
    let body ← body.rebuild
    let test ← test.rebuild
    let orElse ← orElse.rebuild
    return .mkConditional body test orElse
  | .named target value => do
    let value ← value.rebuild
    return .mkNamed target value
  | .formatString parts => do
    let parts ← rebuildParts parts
    return .formatString parts
  | .wrapped inner => do
    let inner ← inner.rebuild
    return .wrapped inner
  | .alias target name => do
    let target ← target.rebuild
    return .alias target name
  | .pathAlias path name => .ok (.pathAlias path name)
  | .empty => .ok .empty

def rebuildAll : List Expr → Except BuildError (List Expr)
  | [] => .ok []
  | e :: es => do
    let e ← e.rebuild
    let es ← rebuildAll es
    return e :: es

def KeywordArg.rebuild : KeywordArg → Except BuildError KeywordArg
  | ⟨name, value⟩ => do
    let value ← value.rebuild
    return mkKeyword name value

def rebuildKeywords : List KeywordArg → Except BuildError (List KeywordArg)
  | [] => .ok []
  | k :: ks => do
    let k ← k.rebuild
    let ks ← rebuildKeywords ks
    return k :: ks

def SubscriptItem.rebuild : SubscriptItem → Except BuildError SubscriptItem
  | .index value => do
    let value ← value.rebuild
    return .index value
  | .slice lower upper => do
    let lower ← lower.rebuild
    let upper ← upper.rebuild
    return mkSlice lower upper none
  | .stride lower upper step => do
    let lower ← lower.rebuild
    let upper ← upper.rebuild
    let step ← step.rebuild
    return mkSlice lower upper (some step)

def rebuildItems : List SubscriptItem → Except BuildError (List SubscriptItem)
  | [] => .ok []
  | item :: items => do
    let item ← item.rebuild
    let items ← rebuildItems items
    return item :: items

def Clause.rebuild : Clause → Except BuildError Clause
  | ⟨isAsync, targets, iterator, filters⟩ => do
    let iterator ← iterator.rebuild
    let filters ← rebuildAll filters
    return mkClause isAsync targets iterator filters

def rebuildClauses : List Clause → Except BuildError (List Clause)
  | [] => .ok []
  | c :: cs => do
    let c ← c.rebuild
    let cs ← rebuildClauses cs
    return c :: cs

def FormatPart.rebuild : FormatPart → Except BuildError FormatPart
  | .plain content => .ok (.plain content)
  | .field value conversion spec => do
    let value ← value.rebuild
    return ((FormatPart.ofValue value).withConversion conversion).withSpec spec

def rebuildParts : List FormatPart → Except BuildError (List FormatPart)
  | [] => .ok []
  | part :: parts => do
    let part ← part.rebuild
    let parts ← rebuildParts parts
    return part :: parts

end

theorem bind_eq_ok {α β : Type} {x : Except BuildError α} {f : α → Except BuildError β} {b : β}
    (h : x >>= f = .ok b) : ∃ a, x = .ok a ∧ f a = .ok b := by
  cases x with
  | error e => cases h
  | ok a => exact ⟨a, rfl, h⟩

mutual

/-- Building again neither loses nor moves a node: the bare form stays. -/
theorem Expr.bare_of_rebuild (e : Expr) {e' : Expr} (h : e.rebuild = .ok e') :
    e'.bare = e.bare := by
  cases e with
  | identifier name | literal value | pathAlias path name | empty =>
      cases h
      rfl
  | unary op operand =>
      obtain ⟨operand', hoperand, h⟩ := bind_eq_ok h
      cases h
      rw [Expr.bare_mkUnary, Expr.bare, operand.bare_of_rebuild hoperand]
  | binary op left right =>
      obtain ⟨left', hleft, h⟩ := bind_eq_ok h
      obtain ⟨right', hright, h⟩ := bind_eq_ok h
      cases h
      rw [Expr.bare_mkBinary, Expr.bare, left.bare_of_rebuild hleft, right.bare_of_rebuild hright]
  | call target args keywords =>
      obtain ⟨target', htarget, h⟩ := bind_eq_ok h
      obtain ⟨args', hargs, h⟩ := bind_eq_ok h
      obtain ⟨keywords', hkeywords, h⟩ := bind_eq_ok h
      cases h
      rw [Expr.bare_mkCall, Expr.bare, target.bare_of_rebuild htarget,
        bareAll_of_rebuild args hargs, bareKeywords_of_rebuild keywords hkeywords]
  | «attribute» target name =>
      obtain ⟨target', htarget, h⟩ := bind_eq_ok h
      cases h
      rw [Expr.bare_mkAttribute, Expr.bare, target.bare_of_rebuild htarget]
  | subscript target items =>
      obtain ⟨target', htarget, h⟩ := bind_eq_ok h
      obtain ⟨items', hitems, h⟩ := bind_eq_ok h
      cases h
      rw [Expr.bare_mkSubscript, Expr.bare, target.bare_of_rebuild htarget,
        bareItems_of_rebuild items hitems]
  | display form elements =>
      obtain ⟨elements', helements, h⟩ := bind_eq_ok h
      cases h
      rw [Expr.bare, Expr.bare, bareAll_of_rebuild elements helements]
  | comprehension form element clauses =>
      obtain ⟨element', helement, h⟩ := bind_eq_ok h
      obtain ⟨clauses', hclauses, h⟩ := bind_eq_ok h
      obtain ⟨content, hcontent, h⟩ := bind_eq_ok h
      obtain ⟨helement', hclauses'⟩ := Comprehension.ofClauses_eq_ok hcontent
      rw [Comprehension.toExpr_eq_ok h, helement', hclauses', Expr.bare, Expr.bare, Slot.bare_place,
        element.bare_of_rebuild helement, bareClauses_of_rebuild clauses hclauses]
  | pair key value =>
      obtain ⟨key', hkey, h⟩ := bind_eq_ok h
      obtain ⟨value', hvalue, h⟩ := bind_eq_ok h
      cases h
      rw [Expr.bare_mkPair, Expr.bare, key.bare_of_rebuild hkey, value.bare_of_rebuild hvalue]
  | lambda params body =>
      obtain ⟨body', hbody, h⟩ := bind_eq_ok h
      cases h
      rw [Expr.bare_mkLambda, Expr.bare, body.bare_of_rebuild hbody]
  | conditional body test orElse =>
      obtain ⟨body', hbody, h⟩ := bind_eq_ok h
      obtain ⟨test', htest, h⟩ := bind_eq_ok h
      obtain ⟨orElse', horElse, h⟩ := bind_eq_ok h
      cases h
      rw [Expr.bare_mkConditional, Expr.bare, body.bare_of_rebuild hbody,
        test.bare_of_rebuild htest, orElse.bare_of_rebuild horElse]
  | named target value =>
      obtain ⟨value', hvalue, h⟩ := bind_eq_ok h
      cases h
      rw [Expr.bare_mkNamed, Expr.bare, value.bare_of_rebuild hvalue]
  | formatString parts =>
      obtain ⟨parts', hparts, h⟩ := bind_eq_ok h
      cases h
      rw [Expr.bare, Expr.bare, bareParts_of_rebuild parts hparts]
  | wrapped inner =>
      obtain ⟨inner', hinner, h⟩ := bind_eq_ok h
      cases h
      rw [Expr.bare, Expr.bare, inner.bare_of_rebuild hinner]
  | «alias» target name =>
      obtain ⟨target', htarget, h⟩ := bind_eq_ok h
      cases h
      rw [Expr.bare, Expr.bare, target.bare_of_rebuild htarget]
termination_by structural e

theorem bareAll_of_rebuild (es : List Expr) {es' : List Expr} (h : rebuildAll es = .ok es') :
    bareAll es' = bareAll es := by
  cases es with
  | nil =>
      cases h
      rfl
  | cons e es =>
      obtain ⟨e', he, h⟩ := bind_eq_ok h
      obtain ⟨es', hes, h⟩ := bind_eq_ok h
      cases h
      rw [bareAll, bareAll, e.bare_of_rebuild he, bareAll_of_rebuild es hes]
termination_by structural es

theorem KeywordArg.bare_of_rebuild (k : KeywordArg) {k' : KeywordArg} (h : k.rebuild = .ok k') :
    k'.bare = k.bare := by
  obtain ⟨name, value⟩ := k
  obtain ⟨value', hvalue, h⟩ := bind_eq_ok h
  cases h
  rw [mkKeyword, KeywordArg.bare, KeywordArg.bare, Slot.bare_place, value.bare_of_rebuild hvalue]
termination_by structural k

theorem bareKeywords_of_rebuild (ks : List KeywordArg) {ks' : List KeywordArg}
    (h : rebuildKeywords ks = .ok ks') : bareKeywords ks' = bareKeywords ks := by
  cases ks with
  | nil =>
      cases h
      rfl
  | cons k ks =>
      obtain ⟨k', hk, h⟩ := bind_eq_ok h
      obtain ⟨ks', hks, h⟩ := bind_eq_ok h
      cases h
      rw [bareKeywords, bareKeywords, k.bare_of_rebuild hk, bareKeywords_of_rebuild ks hks]
termination_by structural ks

theorem SubscriptItem.bare_of_rebuild (item : SubscriptItem) {item' : SubscriptItem}
    (h : item.rebuild = .ok item') : item'.bare = item.bare := by
  cases item with
  | index value =>
      obtain ⟨value', hvalue, h⟩ := bind_eq_ok h
      cases h
      rw [SubscriptItem.bare, SubscriptItem.bare, value.bare_of_rebuild hvalue]
  | slice lower upper =>
      obtain ⟨lower', hlower, h⟩ := bind_eq_ok h
      obtain ⟨upper', hupper, h⟩ := bind_eq_ok h
      cases h
      rw [mkSlice, SubscriptItem.bare, SubscriptItem.bare, Slot.bare_place, Slot.bare_place,
        lower.bare_of_rebuild hlower, upper.bare_of_rebuild hupper]
  | stride lower upper step =>
      obtain ⟨lower', hlower, h⟩ := bind_eq_ok h
      obtain ⟨upper', hupper, h⟩ := bind_eq_ok h
      obtain ⟨step', hstep, h⟩ := bind_eq_ok h
      cases h
      rw [mkSlice, SubscriptItem.bare, SubscriptItem.bare, Slot.bare_place, Slot.bare_place,
        Slot.bare_place, lower.bare_of_rebuild hlower, upper.bare_of_rebuild hupper,
        step.bare_of_rebuild hstep]
termination_by structural item

theorem bareItems_of_rebuild (items : List SubscriptItem) {items' : List SubscriptItem}
    (h : rebuildItems items = .ok items') : bareItems items' = bareItems items := by
  cases items with
  | nil =>
      cases h
      rfl
  | cons item items =>
      obtain ⟨item', hitem, h⟩ := bind_eq_ok h
      obtain ⟨items', hitems, h⟩ := bind_eq_ok h
      cases h
      rw [bareItems, bareItems, item.bare_of_rebuild hitem, bareItems_of_rebuild items hitems]
termination_by structural items

theorem Clause.bare_of_rebuild (c : Clause) {c' : Clause} (h : c.rebuild = .ok c') :
    c'.bare = c.bare := by
  obtain ⟨isAsync, targets, iterator, filters⟩ := c
  obtain ⟨iterator', hiterator, h⟩ := bind_eq_ok h
  obtain ⟨filters', hfilters, h⟩ := bind_eq_ok h
  cases h
  rw [mkClause, Clause.bare, Clause.bare, Slot.bare_place, bareAll_map_place,
    iterator.bare_of_rebuild hiterator, bareAll_of_rebuild filters hfilters]
termination_by structural c

theorem bareClauses_of_rebuild (cs : List Clause) {cs' : List Clause}
    (h : rebuildClauses cs = .ok cs') : bareClauses cs' = bareClauses cs := by
  cases cs with
  | nil =>
      cases h
      rfl
  | cons c cs =>
      obtain ⟨c', hc, h⟩ := bind_eq_ok h
      obtain ⟨cs', hcs, h⟩ := bind_eq_ok h
      cases h
      rw [bareClauses, bareClauses, c.bare_of_rebuild hc, bareClauses_of_rebuild cs hcs]
termination_by structural cs

theorem FormatPart.bare_of_rebuild (part : FormatPart) {part' : FormatPart}
    (h : part.rebuild = .ok part') : part'.bare = part.bare := by
  cases part with
  | plain content =>
      cases h
      rfl
  | field value conversion spec =>
      obtain ⟨value', hvalue, h⟩ := bind_eq_ok h
      cases h
      rw [FormatPart.ofValue, FormatPart.withConversion, FormatPart.withSpec, FormatPart.bare,
        FormatPart.bare, Slot.bare_place, value.bare_of_rebuild hvalue]
termination_by structural part

theorem bareParts_of_rebuild (parts : List FormatPart) {parts' : List FormatPart}
    (h : rebuildParts parts = .ok parts') : bareParts parts' = bareParts parts := by
  cases parts with
  | nil =>
      cases h
      rfl
  | cons part parts =>
      obtain ⟨part', hpart, h⟩ := bind_eq_ok h
      obtain ⟨parts', hparts, h⟩ := bind_eq_ok h
      cases h
      rw [bareParts, bareParts, part.bare_of_rebuild hpart, bareParts_of_rebuild parts hparts]
termination_by structural parts

end

/-! ### What the bare tree decides -/

theorem rebuildAll_bareAll {es : List Expr} (hes : ∀ e ∈ es, e.bare.rebuild = .ok e) :
    rebuildAll (bareAll es) = .ok es := by
  induction es with
  | nil => rfl
  | cons e es ih =>
      obtain ⟨he, hes⟩ := List.forall_mem_cons.1 hes
      rw [bareAll, rebuildAll, he, ih hes]
      rfl

theorem KeywordArg.rebuild_bare_placed {k : KeywordArg} (hk : k.value.bare.rebuild = .ok k.value) :
    k.placed.bare.rebuild = .ok k.placed := by
  obtain ⟨name, value⟩ := k
  rw [bare_placed, bare, rebuild, hk]
  rfl

theorem rebuildKeywords_bare_placed {ks : List KeywordArg}
    (hks : ∀ k ∈ ks, k.value.bare.rebuild = .ok k.value) :
    rebuildKeywords (bareKeywords (ks.map KeywordArg.placed)) = .ok (ks.map KeywordArg.placed) := by
  induction ks with
  | nil => rfl
  | cons k ks ih =>
      obtain ⟨hk, hks⟩ := List.forall_mem_cons.1 hks
      rw [List.map_cons, bareKeywords, rebuildKeywords, KeywordArg.rebuild_bare_placed hk, ih hks]
      rfl

theorem SubscriptItem.rebuild_bare_placed {item : SubscriptItem}
    (hitem : ∀ e ∈ item.exprs, e.bare.rebuild = .ok e) :
    item.placed.bare.rebuild = .ok item.placed := by
  rw [bare_placed]
  cases item with
  | index value =>
      obtain ⟨hvalue, -⟩ := List.forall_mem_cons.1 hitem
      rw [bare, rebuild, hvalue]
      rfl
  | slice lower upper =>
      obtain ⟨hlower, hitem⟩ := List.forall_mem_cons.1 hitem
      obtain ⟨hupper, -⟩ := List.forall_mem_cons.1 hitem
      rw [bare, rebuild, hlower, hupper]
      rfl
  | stride lower upper step =>
      obtain ⟨hlower, hitem⟩ := List.forall_mem_cons.1 hitem
      obtain ⟨hupper, hitem⟩ := List.forall_mem_cons.1 hitem
      obtain ⟨hstep, -⟩ := List.forall_mem_cons.1 hitem
      rw [bare, rebuild, hlower, hupper, hstep]
      rfl

theorem rebuildItems_bare_placed {items : List SubscriptItem}
    (hitems : ∀ item ∈ items, ∀ e ∈ item.exprs, e.bare.rebuild = .ok e) :
    rebuildItems (bareItems (items.map SubscriptItem.placed)) =
      .ok (items.map SubscriptItem.placed) := by
  induction items with
  | nil => rfl
  | cons item items ih =>
      obtain ⟨hitem, hitems⟩ := List.forall_mem_cons.1 hitems
      rw [List.map_cons, bareItems, rebuildItems, SubscriptItem.rebuild_bare_placed hitem, ih hitems]
      rfl

theorem Clause.rebuild_bare_placed {c : Clause} (hc : ∀ e ∈ c.exprs, e.bare.rebuild = .ok e) :
    c.placed.bare.rebuild = .ok c.placed := by
  obtain ⟨isAsync, targets, iterator, filters⟩ := c
  obtain ⟨hiterator, hfilters⟩ := List.forall_mem_cons.1 hc
  rw [bare_placed, bare, rebuild, hiterator, rebuildAll_bareAll hfilters]
  rfl

theorem rebuildClauses_bare_placed {cs : List Clause}
    (hcs : ∀ c ∈ cs, ∀ e ∈ c.exprs, e.bare.rebuild = .ok e) :
    rebuildClauses (bareClauses (cs.map Clause.placed)) = .ok (cs.map Clause.placed) := by
  induction cs with
  | nil => rfl
  | cons c cs ih =>
      obtain ⟨hc, hcs⟩ := List.forall_mem_cons.1 hcs
      rw [List.map_cons, bareClauses, rebuildClauses, Clause.rebuild_bare_placed hc, ih hcs]
      rfl

theorem FormatPart.rebuild_bare_placed {part : FormatPart}
    (hpart : ∀ e ∈ part.exprs, e.bare.rebuild = .ok e) :
    part.placed.bare.rebuild = .ok part.placed := by
  rw [bare_placed]
  cases part with
  | plain content => rfl
  | field value conversion spec =>
      obtain ⟨hvalue, -⟩ := List.forall_mem_cons.1 hpart
      rw [bare, rebuild, hvalue]
      rfl

theorem rebuildParts_bare_placed {parts : List FormatPart}
    (hparts : ∀ part ∈ parts, ∀ e ∈ part.exprs, e.bare.rebuild = .ok e) :
    rebuildParts (bareParts (parts.map FormatPart.placed)) = .ok (parts.map FormatPart.placed) := by
  induction parts with
  | nil => rfl
  | cons part parts ih =>
      obtain ⟨hpart, hparts⟩ := List.forall_mem_cons.1 hparts
      rw [List.map_cons, bareParts, rebuildParts, FormatPart.rebuild_bare_placed hpart, ih hparts]
      rfl

namespace Expr.Built

variable {e : Expr}

/-- Where nobody asked for parentheses, those that a tree has come back when its bare form is built
again. The induction is on how the tree was built: each step back removes one builder and its
parentheses, and the builder puts them where they were. -/
theorem rebuild_bare (h : e.Built False) : e.bare.rebuild = .ok e := by
  induction h with
  | identifier _ | literal _ | empty | pathAlias _ _ => rfl
  | unary op _ ih =>
      rw [bare_mkUnary, rebuild, ih]
      rfl
  | binary op _ _ ihleft ihright =>
      rw [bare_mkBinary, rebuild, ihleft, ihright]
      rfl
  | call _ _ _ ih ihargs ihkeywords =>
      rw [bare_mkCall, rebuild, ih, rebuildAll_bareAll ihargs,
        rebuildKeywords_bare_placed ihkeywords]
      rfl
  | access _ name ih =>
      rw [bare_mkAttribute, rebuild, ih]
      rfl
  | subscript _ _ ih ihitems =>
      rw [bare_mkSubscript, rebuild, ih, rebuildItems_bare_placed ihitems]
      rfl
  | display form _ ih =>
      rw [bare, rebuild, rebuildAll_bareAll ih]
      rfl
  | @comprehension element _ clauses _ c hc form e he ih ihclauses =>
      obtain ⟨helement, hclauses⟩ := Comprehension.ofClauses_eq_ok hc
      have hbare : e.bare =
          .comprehension form element.bare (bareClauses (clauses.map Clause.placed)) := by
        rw [Comprehension.toExpr_eq_ok he, bare, helement, hclauses, Slot.bare_place]
      -- The brackets check the element as it is stored, and it is stored the same way again.
      rw [hbare, rebuild, ih, rebuildClauses_bare_placed ihclauses]
      show (Comprehension.ofClauses element (clauses.map Clause.placed) >>= (·.toExpr form)) = .ok e
      rw [hc]
      exact he
  | pair _ _ ihkey ihvalue =>
      rw [bare_mkPair, rebuild, ihkey, ihvalue]
      rfl
  | lambda params _ ih =>
      rw [bare_mkLambda, rebuild, ih]
      rfl
  | conditional _ _ _ ihbody ihtest ihorElse =>
      rw [bare_mkConditional, rebuild, ihbody, ihtest, ihorElse]
      rfl
  | named target _ ih =>
      rw [bare_mkNamed, rebuild, ih]
      rfl
  | formatString _ ih =>
      rw [bare, rebuild, rebuildParts_bare_placed ih]
      rfl
  | «alias» _ name ih =>
      rw [bare, rebuild, ih]
      rfl
  | wrapped hwraps _ _ => exact hwraps.elim

/-- Without parentheses that were asked for, there is no built expression that is nothing but
parentheses around another. -/
theorem ne_wrapped (h : e.Built False) (inner : Expr) : e ≠ .wrapped inner := by
  intro heq
  cases h with
  | @access target _ name =>
      obtain ⟨stored, hattribute, -⟩ := exists_mkAttribute_eq target name
      rw [hattribute] at heq
      cases heq
  | comprehension _ _ _ he =>
      rw [Comprehension.toExpr_eq_ok he] at heq
      cases heq
  | wrapped hwraps _ => exact hwraps
  | _ => cases heq

/-- What a slot holds is left as it is when it is put into the slot once more. -/
theorem place_held (h : e.Built False) {slot : Slot} {stored : Expr}
    (hstored : (.part slot, stored) ∈ e.held) : slot.place stored = stored := by
  have hsits := h.sits_held (.part slot, stored) hstored
  exact Slot.place_eq_self_iff.2 (Position.fits_part.1 hsits.1)

/-- No parentheses stand directly around parentheses. -/
theorem not_doubled (h : e.Built False) (inner : Expr) :
    (.free .parentheses, .wrapped inner) ∉ e.held := by
  intro hheld
  have hsits := h.sits_held (.free .parentheses, .wrapped inner) hheld
  exact (hsits.2 rfl).ne_wrapped inner rfl

/-- Parentheses are a function of the bare tree: a built expression in which nobody asked for them
is what its bare tree is built into again, and no other such expression has the same bare tree.
Whatever is built into it has its bare tree, so no builder loses, moves or repeats a part; each slot
keeps its content as it is, and no parentheses are doubled. -/
theorem parentheses_determined (h : e.Built False) :
    e.bare.rebuild = .ok e ∧
      (∀ other : Expr, other.Built False → other.bare = e.bare → other = e) ∧
      (∀ tree : Expr, tree.rebuild = .ok e → tree.bare = e.bare) ∧
      (∀ slot stored, (.part slot, stored) ∈ e.held → slot.place stored = stored) ∧
      ∀ inner, (.free .parentheses, .wrapped inner) ∉ e.held := by
  refine ⟨h.rebuild_bare, ?_, ?_, fun slot stored => h.place_held, h.not_doubled⟩
  · intro other hother hbare
    have hbuilt := hother.rebuild_bare
    rw [hbare, h.rebuild_bare] at hbuilt
    cases hbuilt
    rfl
  · intro tree htree
    exact (tree.bare_of_rebuild htree).symm

end Expr.Built

/-- A dictionary comprehension with digits under an attribute, a standalone form as a value, a
lambda as the iterator and a named expression as the condition. -/
def loosePartsForm : Expr :=
  let key := Expr.mkAttribute (.literal (.int 1)) sampleName
  .comprehension .dict (.mkPair key (.mkUnary .yield sampleExpr))
    [mkClause false [sampleName] (.mkLambda [] sampleExpr) [.mkNamed sampleName sampleExpr]]

theorem built_loosePartsForm : loosePartsForm.Built False := by
  have hname : sampleExpr.Built False := .identifier _
  have helement : (Expr.mkPair (.mkAttribute (.literal (.int 1)) sampleName)
      (.mkUnary .yield sampleExpr)).Built False := .pair (.access (.literal _) _) (.unary _ hname)
  refine @Expr.Built.comprehension False _ helement
    [⟨false, [sampleName], .mkLambda [] sampleExpr, [.mkNamed sampleName sampleExpr]⟩] ?_
    _ rfl .dict _ rfl
  simpa [Clause.exprs] using ⟨Expr.Built.lambda [] hname, Expr.Built.named _ hname⟩

theorem loosePartsForm_parentheses_determined :
    loosePartsForm.text = "\x7b(1).x: (yield x) for x in (lambda: x) if (x := x)\x7d" ∧
    loosePartsForm.Built False ∧
    loosePartsForm.bare.rebuild = .ok loosePartsForm ∧
    (∀ other : Expr, other.Built False → other.bare = loosePartsForm.bare →
      other = loosePartsForm) ∧
    (∀ tree : Expr, tree.rebuild = .ok loosePartsForm → tree.bare = loosePartsForm.bare) ∧
    (∀ slot stored, (.part slot, stored) ∈ loosePartsForm.held → slot.place stored = stored) ∧
    ∀ inner, (.free .parentheses, .wrapped inner) ∉ loosePartsForm.held :=
  ⟨by decide, built_loosePartsForm, built_loosePartsForm.parentheses_determined⟩

end Unparse
