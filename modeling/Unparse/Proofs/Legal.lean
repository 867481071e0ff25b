import Unparse.Proofs.Derivation
import Unparse.Stmt.Header

/-!
Where the grammar takes standalone forms. A reader of operators lets them pass in all brackets; which
brackets take which of them can then be told node by node, as can two other things that are no matter
of levels: an `await` under an `await`, and a subscript without an index.
-/

namespace Unparse

namespace Expr

/-- An element of a display or a subscript: an expression, or one that a star unpacks. -/
def isElement : Expr → Bool
  | .unary op _ => !op.isStandalone || op == .starred
  | _ => true

/-- Named arguments that two stars unpack. -/
def isUnpacked : Expr → Bool
  | .unary op _ => op == .doubleStarred
  | _ => false

/-- What may be alone between parentheses: an expression or a `yield`. -/
def isEnclosable : Expr → Bool
  | .unary op _ => op != .starred && op != .doubleStarred
  | _ => true

/-- Whether the grammar takes the parts of a node that stand alone. What is unpacked as named arguments
comes after all other arguments. No element is a `yield`, which would take what follows its comma for
its own. -/
def placesStandalone : Expr → Bool
  | .wrapped inner => inner.isEnclosable
  | .display .list elements | .display .set elements | .display .tuple elements =>
    elements.all isElement
  | .call _ args _ => (args.dropWhile isElement).all isUnpacked
  | .subscript _ items => items.all fun
    | .index value => value.isElement
    | .slice _ _ | .stride _ _ _ => true
  | _ => true

/-- The grammar has a rule for every node of an expression. -/
def Legal (e : Expr) : Prop :=
  ∀ node ∈ e.nodes,
    node.nestsAwait = false ∧ node.lacksIndex = false ∧ node.placesStandalone = true

instance (e : Expr) : Decidable e.Legal :=
  inferInstanceAs (Decidable (∀ node ∈ e.nodes, _ ∧ _ ∧ _))

theorem legal_wrapped_iff {inner : Expr} :
    (wrapped inner).Legal ↔ (wrapped inner).placesStandalone = true ∧ inner.Legal := by
  rw [Legal, nodes_wrapped, List.forall_mem_cons]
  exact and_congr_left fun _ => ⟨fun h => h.2.2, fun h => ⟨rfl, rfl, h⟩⟩

theorem Legal.elements {form : DisplayForm} {elements : List Expr}
    (h : (display form elements).Legal) : ∀ e ∈ elements, e.Legal := by
  rw [Legal, nodes_display] at h
  exact List.forall_mem_flatMap.1 (List.forall_mem_cons.1 h).2

/-! ### Parentheses that change nothing -/

/-- An expression without the parentheses around it. A standalone form is another thing without
them. -/
def unwrapped : Expr → Expr
  | .wrapped inner => if inner.isStandalone then .wrapped inner else inner.unwrapped
  | e => e

theorem sizeOf_unwrapped_le (e : Expr) : sizeOf e.unwrapped ≤ sizeOf e := by
  fun_induction unwrapped e with
  | case1 inner _ => exact le_rfl
  | case2 inner _ ih =>
      have hinner : sizeOf (wrapped inner) = 1 + sizeOf inner := rfl
      omega
  | case3 e _ => exact le_rfl

/-- A tuple is none of its own elements. -/
theorem unwrapped_ne_tuple (e : Expr) : e.unwrapped ≠ .display .tuple [e] := by
  intro heq
  have hle := e.sizeOf_unwrapped_le
  rw [heq] at hle
  simp at hle
  omega

theorem isStandalone_unwrapped (e : Expr) : e.unwrapped.isStandalone = e.isStandalone := by
  fun_induction unwrapped e with
  | case1 inner _ => rfl
  | case2 inner hstands ih => rw [ih, Bool.not_eq_true] at *; exact hstands
  | case3 e _ => rfl

theorem isEnclosable_of_isStandalone {e : Expr} (h : e.isStandalone = false) :
    e.isEnclosable = true := by
  cases e with
  | unary op operand => cases op <;> first | rfl | cases h
  | _ => rfl

theorem isElement_of_isStandalone {e : Expr} (h : e.isStandalone = false) : e.isElement = true := by
  cases e with
  | unary op operand => simpa [isElement, isStandalone] using Or.inl h
  | _ => rfl

theorem legal_unwrapped_iff (e : Expr) : e.unwrapped.Legal ↔ e.Legal := by
  fun_induction unwrapped e with
  | case1 inner _ => rfl
  | case2 inner hstands ih =>
      have hplaces : (wrapped inner).placesStandalone = true :=
        isEnclosable_of_isStandalone (Bool.not_eq_true _ ▸ hstands)
      rw [ih, legal_wrapped_iff, and_iff_right hplaces]
  | case3 e _ => rfl

theorem isElement_unwrapped (e : Expr) : e.unwrapped.isElement = e.isElement := by
  fun_induction unwrapped e with
  | case1 inner _ => rfl
  | case2 inner hstands ih =>
      rw [ih]
      exact isElement_of_isStandalone (Bool.not_eq_true _ ▸ hstands)
  | case3 e _ => rfl

end Expr

/-! ### Items -/

namespace WithItem

/-- The grammar has a rule for an item: it takes any expression as the context, and as the target any
that a star may stand before. Whether the target can be assigned to is not asked. -/
def Legal (item : WithItem) : Prop :=
  item.context.isStandalone = false ∧ item.context.Legal ∧
    ∀ target ∈ item.target, target.isElement = true ∧ target.Legal

instance (item : WithItem) : Decidable item.Legal :=
  inferInstanceAs (Decidable (_ ∧ _ ∧ ∀ target ∈ item.target, _ ∧ _))

/-- An item without parentheses around its parts. -/
def unwrapped (item : WithItem) : WithItem :=
  ⟨item.context.unwrapped, item.target.map Expr.unwrapped⟩

theorem legal_unwrapped_iff (item : WithItem) : item.unwrapped.Legal ↔ item.Legal := by
  simp [Legal, unwrapped, Expr.isStandalone_unwrapped, Expr.legal_unwrapped_iff,
    Expr.isElement_unwrapped]

end WithItem

/-- Items that are the same up to parentheses around their parts are as legal. -/
theorem legal_of_map_unwrapped {items others : List WithItem}
    (h : items.map WithItem.unwrapped = others.map WithItem.unwrapped)
    (hitems : ∀ item ∈ items, item.Legal) : ∀ item ∈ others, item.Legal := by
  intro item hitem
  have hmem : item.unwrapped ∈ items.map WithItem.unwrapped := h ▸ List.mem_map_of_mem hitem
  obtain ⟨same, hsame, heq⟩ := List.mem_map.1 hmem
  rw [← item.legal_unwrapped_iff, ← heq, same.legal_unwrapped_iff]
  exact hitems same hsame

end Unparse
