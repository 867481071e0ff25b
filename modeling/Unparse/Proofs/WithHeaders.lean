import Unparse.Proofs.Construction
import Unparse.Proofs.WithReader

/-!
What the reader makes of a `with` header over any operators. The items come back in order and with
their targets, but for two cases: the parentheses of a tuple that is the only context, and has no
target, are read as those around a list of items, and a header in which a standalone form is bare where
the grammar takes none is not read.
-/

namespace Unparse

/-! ### Both ways to read a header -/

section Header

variable {p : ItemPhrase} {items : List ItemPhrase}

/-- Only a lone context without a target is taken for what its parentheses enclose. -/
theorem enclosedItems?_header :
    enclosedItems? ((p :: items).map ItemPhrase.item) =
      if p.target = none ∧ items = [] then asItems? p.context.expr.enclosed else none := by
  obtain ⟨context, target⟩ := p
  cases target with
  | some target => exact (if_neg (by simp)).symm
  | none =>
      cases items with
      | nil => exact (if_pos ⟨rfl, rfl⟩).symm
      | cons q items => exact (if_neg (by simp)).symm

theorem enclosedItems?_eq_none (h : p.context.expr.enclosed = []) :
    enclosedItems? ((p :: items).map ItemPhrase.item) = none := by
  have hnone : asItems? [] = none := if_neg fun hall => hall.1 rfl
  rw [enclosedItems?_header, h, hnone, ite_self]

/-- A header ends after its first context if there is nothing else in it. -/
theorem after_context_eq_colon_iff :
    p.targetTokens ++ (moreTokens items ++ [.plain (.mark .colon)]) = [.plain (.mark .colon)] ↔
      p.target = none ∧ items = [] := by
  obtain ⟨context, target⟩ := p
  cases target with
  | some target => simp [ItemPhrase.targetTokens]
  | none =>
      cases items with
      | nil => simp [ItemPhrase.targetTokens, moreTokens]
      | cons q items => simp [ItemPhrase.targetTokens, moreTokens_cons]

theorem Expr.Legal.enclosed {e : Expr} (h : e.Legal) : ∀ part ∈ e.enclosed, part.Legal := by
  cases e with
  | wrapped inner => exact List.forall_mem_singleton.2 (Expr.legal_wrapped_iff.1 h).2
  | display form elements =>
      cases form with
      | tuple => exact h.elements
      | _ => exact List.forall_mem_nil _
  | _ => exact List.forall_mem_nil _

/-- The first way is taken for a lone context that its parentheses enclose. -/
theorem readEnclosedItems_header (h : p.Derived) (hlegal : p.context.expr.Legal) :
    readEnclosedItems (p.tokens ++ (moreTokens items ++ [.plain (.mark .colon)])) =
      enclosedItems? ((p :: items).map ItemPhrase.item) := by
  obtain ⟨t, more, htokens, -, -⟩ := h.context.exists_cons
  by_cases ht : t = .mark .openRound
  · subst ht
    obtain ⟨content, parts, after, rfl, hcontent, hafter⟩ := h.context.opensWith htokens
    have hsplit : p.tokens ++ (moreTokens items ++ [.plain (.mark .colon)]) =
        .plain (.mark .openRound) :: (content.map .plain ++ .plain (.mark .closeRound) ::
          (after.map .plain ++
            (p.targetTokens ++ (moreTokens items ++ [.plain (.mark .colon)])))) := by
      simp [ItemPhrase.tokens, htokens]
    rw [hsplit]
    rcases hafter with ⟨rfl, henclosed⟩ | ⟨⟨u, after', rfl, hu⟩, henclosed⟩
    · have hparts : ∀ part ∈ parts, part.expr.Legal :=
        List.forall_mem_map.1 (henclosed ▸ hlegal.enclosed)
      rw [readEnclosedItems_eq hcontent _ fun _ => hparts, enclosedItems?_header, henclosed,
        List.map_nil, List.nil_append]
      exact if_congr after_context_eq_colon_iff rfl rfl
    · have hends : ¬ (u :: after').map WithToken.plain ++
          (p.targetTokens ++ (moreTokens items ++ [.plain (.mark .colon)])) =
            [.plain (.mark .colon)] := by
        intro hend
        rw [List.map_cons, List.cons_append, List.cons.injEq] at hend
        injection hend.1 with hcolon
        exact hu hcolon
      rw [readEnclosedItems_eq hcontent _ fun hend => absurd hend hends, if_neg hends,
        enclosedItems?_eq_none henclosed]
  · have hhead : p.context.tokens.head? ≠ some (.mark .openRound) := by
      rw [htokens]
      simpa using ht
    rw [enclosedItems?_eq_none (h.context.enclosed_eq_nil hhead), ItemPhrase.tokens, htokens,
      List.map_cons, List.cons_append, List.cons_append, readEnclosedItems]
    rintro rest ⟨⟩
    exact ht rfl

/-- The second way is open to all items that the grammar has a rule for. -/
theorem readHeaderItems_eq (h : ∀ q ∈ p :: items, q.Derived)
    (hlegal : ∀ q ∈ p :: items, q.item.Legal) :
    readHeaderItems (p.tokens ++ (moreTokens items ++ [.plain (.mark .colon)])) =
      some ((enclosedItems? ((p :: items).map ItemPhrase.item)).getD
        ((p :: items).map ItemPhrase.item)) := by
  have hopen : readOpenItems (p.tokens ++ (moreTokens items ++ [.plain (.mark .colon)])) =
      some ((p :: items).map ItemPhrase.item) := by
    rw [readOpenItems, readWithItems_eq (.mark (by decide) _) (readMoreItems_of_ne (by decide) _) h]
    exact if_pos ⟨rfl, List.forall_mem_map.2 hlegal⟩
  obtain ⟨-, hcontext, -⟩ := hlegal p List.mem_cons_self
  rw [readHeaderItems, hopen, readEnclosedItems_header (h p List.mem_cons_self) hcontext]
  cases enclosedItems? ((p :: items).map ItemPhrase.item) <;> rfl

end Header

/-! ### Spelling -/

/-- A context and perhaps a target, over any operators; a target is no named expression. -/
inductive WithItem.Form : WithItem → Prop where
  | ofContext {context : Expr} (hcontext : AnyOperatorForm context) {target : Option Expr}
    (htarget : ∀ e ∈ target, AnyOperatorForm e ∧ e.level ≠ .namedExpr) :
    Form (.ofContext context target)

theorem Level.rank_lt_namedExpr {l : Level} (h : l ≠ .namedExpr) :
    l.rank < Level.namedExpr.rank := by
  cases l <;> first | decide | exact absurd rfl h

/-- The slot of a context leaves standalone forms as they are, so that they are illegal items. -/
theorem exists_contextReading {context : Expr} (h : AnyOperatorForm context)
    (hstands : (Slot.statementValue.place context).isStandalone = false) :
    ∃ ts, Reading (Slot.statementValue.place context) ts ∧
      (Slot.statementValue.place context).readLevel.rank < Level.namedExpr.rank := by
  have hcontext : context.isStandalone = false := by
    cases hcontext : context.isStandalone with
    | false => rfl
    | true =>
        have hadmits : Slot.statementValue.admits context = true := by
          rw [Slot.admits, hcontext]
          rfl
        rw [Slot.place_eq_self_iff.2 hadmits, hcontext] at hstands
        cases hstands
  obtain ⟨ts, hts⟩ := h.exists_reading
  obtain ⟨ts, hts, hlevel⟩ := hts.place .statementValue (Or.inr hcontext)
  exact ⟨ts, hts, Slot.rank_lt_of_admitsLevel rfl (by decide) hlevel⟩

theorem rank_lt_or_starred {target : Expr} (hlevel : target.level ≠ .namedExpr)
    (helement : target.isElement = true) :
    target.readLevel.rank < Level.namedExpr.rank ∨ ∃ operand, target = .unary .starred operand := by
  cases hstands : target.isStandalone with
  | false => exact Or.inl (Expr.readLevel_eq hstands ▸ Level.rank_lt_namedExpr hlevel)
  | true =>
      cases target with
      | unary op operand =>
          have hop : op = .starred := by
            simpa [Expr.isElement, show op.isStandalone = true from hstands] using helement
          exact Or.inr ⟨operand, by rw [hop]⟩
      | _ => cases hstands

theorem WithItem.Form.exists_phrase {item : WithItem} (h : item.Form) (hlegal : item.Legal) :
    ∃ p : ItemPhrase, p.item = item ∧ p.Derived ∧
      WithToken.lexicon.Spells item.text.toList p.tokens := by
  cases h with
  | @ofContext context hcontext target htarget =>
      obtain ⟨hstands, -, hlegalTarget⟩ := hlegal
      obtain ⟨ts, hts, hlt⟩ := exists_contextReading hcontext hstands
      have hspells := WithToken.spells_plain hts.spelled.spells
      cases target with
      | none =>
          refine ⟨⟨⟨_, ts, Slot.statementValue.place context⟩, none⟩, rfl,
            ⟨hts.reads, hlt, by simp⟩, ?_⟩
          simpa [WithItem.ofContext, WithItem.text, optionalText, statementValue, ItemPhrase.tokens,
            ItemPhrase.targetTokens] using hspells
      | some target =>
          obtain ⟨htarget, hnamed⟩ := htarget target rfl
          obtain ⟨helement, -⟩ := hlegalTarget target rfl
          obtain ⟨us, hus⟩ := htarget.exists_reading
          have hword : WithToken.lexicon.Spells ['a', 's'] [.asWord] :=
            WithToken.spells_word (by decide)
          have hspells' := hspells.spaced
            (hword.spaced (WithToken.spells_plain hus.spelled.spells))
          refine ⟨⟨⟨_, ts, Slot.statementValue.place context⟩,
            some ⟨target.readLevel, us, target⟩⟩, rfl, ⟨hts.reads, hlt, ?_⟩, ?_⟩
          · rintro t ⟨⟩
            exact ⟨hus.reads, rank_lt_or_starred hnamed helement⟩
          · simpa [WithItem.ofContext, WithItem.text, optionalText, statementValue,
              ItemPhrase.tokens, ItemPhrase.targetTokens] using hspells'

theorem exists_itemPhrases {items : List WithItem} (h : ∀ item ∈ items, item.Form)
    (hlegal : ∀ item ∈ items, item.Legal) :
    ∃ phrases : List ItemPhrase, phrases.map ItemPhrase.item = items ∧
      ∀ p ∈ phrases, p.Derived ∧ WithToken.lexicon.Spells p.item.text.toList p.tokens := by
  induction items with
  | nil => exact ⟨[], rfl, List.forall_mem_nil _⟩
  | cons item items ih =>
      obtain ⟨hitem, hitems⟩ := List.forall_mem_cons.1 h
      obtain ⟨hlegalItem, hlegalItems⟩ := List.forall_mem_cons.1 hlegal
      obtain ⟨p, rfl, hderived, hspells⟩ := hitem.exists_phrase hlegalItem
      obtain ⟨phrases, rfl, hphrases⟩ := ih hitems hlegalItems
      exact ⟨p :: phrases, rfl, List.forall_mem_cons.2 ⟨⟨hderived, hspells⟩, hphrases⟩⟩

/-- The items of a header between their commas. -/
theorem spells_itemPhrases {p : ItemPhrase} {items : List ItemPhrase}
    (h : ∀ q ∈ p :: items, WithToken.lexicon.Spells q.item.text.toList q.tokens) :
    WithToken.lexicon.Spells (commaChars ((p :: items).map fun q => q.item.text.toList))
      (p.tokens ++ moreTokens items) := by
  induction items generalizing p with
  | nil => simpa [commaChars, moreTokens] using h
  | cons q items ih =>
      obtain ⟨hp, hitems⟩ := List.forall_mem_cons.1 h
      have hjoined : WithToken.lexicon.Spells _
          (p.tokens ++ .plain (.mark .comma) :: (q.tokens ++ moreTokens items)) :=
        hp.comma (ih hitems)
      rw [moreTokens_cons]
      simpa [commaChars] using hjoined

theorem scan_header (isAsync : Bool) {p : ItemPhrase} {items : List ItemPhrase}
    (h : ∀ q ∈ p :: items, WithToken.lexicon.Spells q.item.text.toList q.tokens) :
    WithToken.lexicon.scan
        ((WithHeader.mk isAsync ((p :: items).map ItemPhrase.item)).text ++ ":") =
      some ((if isAsync then [.asyncWord] else []) ++
        .withWord :: (p.tokens ++ (moreTokens items ++ [.plain (.mark .colon)]))) := by
  have hasync : WithToken.lexicon.Spells ['a', 's', 'y', 'n', 'c'] [.asyncWord] :=
    WithToken.spells_word (by decide)
  have hword : WithToken.lexicon.Spells ['w', 'i', 't', 'h'] [.withWord] :=
    WithToken.spells_word (by decide)
  have hcolon : WithToken.lexicon.Spells [':'] [.plain (.mark .colon)] := Lexicon.spells_mark .colon
  have hheader := (hword.spaced (spells_itemPhrases h)).append hcolon (by simp [Lexicon.stops])
  rw [Lexicon.scan]
  cases isAsync with
  | false =>
      have hscan := hheader.scanChars_eq
      simpa [WithHeader.text, asyncText, toList_commaSeparated, Function.comp_def] using hscan
  | true =>
      have hscan := (hasync.spaced hheader).scanChars_eq
      simpa [WithHeader.text, asyncText, toList_commaSeparated, Function.comp_def] using hscan

/-! ### What is read -/

/-- A header of legal items is read, as the items themselves or as those that the parentheses of a lone
context are taken to enclose. -/
theorem readWith_header {items : List WithItem} (hne : items ≠ []) (h : ∀ item ∈ items, item.Form)
    (hlegal : ∀ item ∈ items, item.Legal) (isAsync : Bool) :
    readWith ((WithHeader.mk isAsync items).text ++ ":") =
      some ⟨isAsync, (enclosedItems? items).getD items⟩ := by
  obtain ⟨phrases, rfl, hphrases⟩ := exists_itemPhrases h hlegal
  obtain ⟨p, phrases, rfl⟩ := List.exists_cons_of_ne_nil (by simpa using hne)
  have hread := readHeaderItems_eq (fun q hq => (hphrases q hq).1) (List.forall_mem_map.1 hlegal)
  rw [readWith, scan_header isAsync fun q hq => (hphrases q hq).2]
  cases isAsync with
  | false | true =>
      simp only [Option.bind_eq_bind, Option.bind_some, if_true, Bool.false_eq_true, if_false,
        List.nil_append, List.singleton_append, hread, Option.map_some]

/-- The reader takes nothing that the grammar has no rule for. -/
theorem legal_of_readWith {line : String} {header : WithHeader} (h : readWith line = some header) :
    ∀ item ∈ header.items, item.Legal := by
  obtain ⟨tokens, -, h⟩ := Option.bind_eq_some_iff.1 h
  split at h
  · obtain ⟨items, hitems, rfl⟩ := Option.map_eq_some_iff.1 h
    exact legal_of_readHeaderItems hitems
  · obtain ⟨items, hitems, rfl⟩ := Option.map_eq_some_iff.1 h
    exact legal_of_readHeaderItems hitems
  · cases h

/-- A header is read with the items that it was made of, up to parentheses around their parts. -/
def WithHeader.ItemsKept (header : WithHeader) : Prop :=
  ∃ read, readWith (header.text ++ ":") = some read ∧ read.isAsync = header.isAsync ∧
    read.items.map WithItem.unwrapped = header.items.map WithItem.unwrapped

theorem WithHeader.ItemsKept.legal {header : WithHeader} (h : header.ItemsKept) :
    ∀ item ∈ header.items, item.Legal := by
  obtain ⟨read, hread, -, hsame⟩ := h
  exact legal_of_map_unwrapped hsame (legal_of_readWith hread)

/-- The only context is a tuple that could as well be a list of items in parentheses: no element is a
bare named expression or unpacked. -/
structure LoneTuple (items : List WithItem) (elements : List Expr) : Prop where
  items_eq : items = [⟨.display .tuple elements, none⟩]
  ne_nil : elements ≠ []
  level_ne : ∀ e ∈ elements, e.readLevel ≠ .namedExpr

namespace LoneTuple

variable {items : List WithItem} {elements : List Expr}

theorem enclosedItems?_eq (h : LoneTuple items elements) :
    enclosedItems? items = some (elements.map (⟨·, none⟩)) := by
  rw [h.items_eq]
  exact if_pos ⟨h.ne_nil, fun e he => Level.rank_lt_namedExpr (h.level_ne e he)⟩

/-- The elements of the tuple are not what the header was made of. -/
theorem unwrapped_ne (h : LoneTuple items elements) :
    (elements.map (⟨·, none⟩)).map WithItem.unwrapped ≠ items.map WithItem.unwrapped := by
  rw [h.items_eq]
  intro heq
  obtain ⟨e, rfl⟩ : ∃ e, elements = [e] := by
    have hlength := congrArg List.length heq
    rw [List.length_map, List.length_map, List.length_map] at hlength
    exact List.length_eq_one_iff.1 hlength
  have hcontext : e.unwrapped = .display .tuple [e] := by
    simpa [WithItem.unwrapped, Expr.unwrapped] using heq
  exact e.unwrapped_ne_tuple hcontext

/-- The elements of the tuple are read as the items. -/
theorem readWith_eq (h : LoneTuple items elements) (hform : ∀ item ∈ items, item.Form)
    (hlegal : ∀ item ∈ items, item.Legal) (isAsync : Bool) :
    readWith ((WithHeader.mk isAsync items).text ++ ":") =
      some ⟨isAsync, elements.map (⟨·, none⟩)⟩ := by
  have hne : items ≠ [] := h.items_eq ▸ List.cons_ne_nil _ _
  rw [readWith_header hne hform hlegal, h.enclosedItems?_eq, Option.getD_some]

theorem not_itemsKept (h : LoneTuple items elements) (hform : ∀ item ∈ items, item.Form)
    (isAsync : Bool) : ¬ (WithHeader.mk isAsync items).ItemsKept := by
  intro hkept
  obtain ⟨read, hread, -, hsame⟩ := id hkept
  rw [h.readWith_eq hform hkept.legal isAsync] at hread
  cases hread
  exact h.unwrapped_ne hsame

end LoneTuple

/-- What the parentheses of a legal context enclose are the parts of a pair that changes nothing, or
the elements of a tuple. -/
theorem enclosedItems?_cases {items read : List WithItem} (h : enclosedItems? items = some read) :
    read.map WithItem.unwrapped = items.map WithItem.unwrapped ∨
      ∃ elements, LoneTuple items elements := by
  unfold enclosedItems? at h
  split at h
  · next context =>
      obtain ⟨⟨hne, hlevel⟩, heq⟩ := Option.ite_none_right_eq_some.1 h
      obtain rfl := Option.some.inj heq
      cases context with
      | wrapped inner =>
          have hstands : inner.isStandalone = false :=
            Expr.isStandalone_eq (hlevel inner List.mem_cons_self)
          exact Or.inl (by simp [Expr.enclosed, WithItem.unwrapped, Expr.unwrapped, hstands])
      | display form elements =>
          cases form with
          | tuple =>
              refine Or.inr ⟨elements, rfl, hne, fun e he hnamed => ?_⟩
              exact absurd (hlevel e he) (by rw [hnamed]; exact Nat.lt_irrefl _)
          | _ => exact absurd rfl hne
      | _ => exact absurd rfl hne
  · cases h

/-- A header over any operators keeps its items if and only if the grammar has a rule for each of them
and they are no lone tuple; if they are one, the elements of the tuple are read as the items. A tuple
with an element that is a bare named expression, or unpacked, is no list of items. -/
theorem WithHeader.readWith_text {items : List WithItem} (hne : items ≠ [])
    (h : ∀ item ∈ items, item.Form) (isAsync : Bool) :
    ∃ header, WithHeader.ofItems isAsync items = .ok header ∧
      (header.ItemsKept ↔
        (∀ item ∈ items, item.Legal) ∧ ¬ ∃ elements, LoneTuple items elements) ∧
      ∀ elements, LoneTuple items elements → (∀ item ∈ items, item.Legal) →
        readWith (header.text ++ ":") = some ⟨isAsync, elements.map (⟨·, none⟩)⟩ := by
  have hmade : WithHeader.ofItems isAsync items = .ok ⟨isAsync, items⟩ :=
    requireSome_eq_ok_iff.2 ⟨hne, rfl⟩
  refine ⟨_, hmade, ⟨fun hkept => ⟨hkept.legal, ?_⟩, ?_⟩, ?_⟩
  · rintro ⟨elements, hlone⟩
    exact hlone.not_itemsKept h isAsync hkept
  · rintro ⟨hlegal, hnone⟩
    refine ⟨_, readWith_header hne h hlegal isAsync, rfl, ?_⟩
    cases hitems : enclosedItems? items with
    | none => rfl
    | some read => exact (enclosedItems?_cases hitems).resolve_right hnone
  · exact fun elements hlone hlegal => hlone.readWith_eq h hlegal isAsync

/-- Two contexts that are both in parentheses, of which the first has a target, and two with standalone
forms in them. -/
def parenthesizedItems : List WithItem :=
  [.ofContext (.display .tuple [sampleExpr, sampleExpr]) (some sampleExpr),
    .ofContext (.mkNamed sampleName sampleExpr) none,
    .ofContext (.mkCall sampleExpr [.mkUnary .starred sampleExpr] []) (some sampleExpr),
    .ofContext (.mkBinary .add (.mkUnary .yield sampleExpr) sampleExpr) none]

theorem form_parenthesizedItems : ∀ item ∈ parenthesizedItems, item.Form := by
  have hx : AnyOperatorForm sampleExpr := .identifier _
  have htuple : AnyOperatorForm (.display .tuple [sampleExpr, sampleExpr]) :=
    .tuple (by simpa using hx)
  have hnamed : ∀ arg ∈ ([] : List (Identifier × Expr)), AnyOperatorForm arg.2 :=
    List.forall_mem_nil _
  have hcall : AnyOperatorForm (.mkCall sampleExpr [.mkUnary .starred sampleExpr] []) :=
    .call hx (List.forall_mem_singleton.2 (.unary (fun _ => trivial) hx)) hnamed
  have htarget : ∀ e ∈ some sampleExpr, AnyOperatorForm e ∧ e.level ≠ .namedExpr := by
    rintro e ⟨⟩
    exact ⟨hx, by decide⟩
  simp only [parenthesizedItems, List.forall_mem_cons]
  exact ⟨.ofContext htuple htarget, .ofContext (.named sampleName hx) (by simp),
    .ofContext hcall htarget, .ofContext (.binary _ (.unary (fun _ => trivial) hx) hx) (by simp),
    List.forall_mem_nil _⟩

theorem parenthesizedItems_readWith_text :
    parenthesizedItems ≠ [] ∧ (∀ item ∈ parenthesizedItems, item.Form) ∧
      ∃ header, WithHeader.ofItems true parenthesizedItems = .ok header ∧
        header.text = "async with (x, x) as x, (x := x), x(* x) as x, (yield x) + x" ∧
        header.ItemsKept := by
  have hne : parenthesizedItems ≠ [] := by simp [parenthesizedItems]
  obtain ⟨header, hmade, hkept, -⟩ :=
    WithHeader.readWith_text hne form_parenthesizedItems true
  have hlone : ¬ ∃ elements, LoneTuple parenthesizedItems elements := by
    rintro ⟨elements, heq, -, -⟩
    cases heq
  refine ⟨hne, form_parenthesizedItems, header, hmade, ?_, hkept.2 ⟨by decide, hlone⟩⟩
  obtain rfl : ⟨true, parenthesizedItems⟩ = header := (requireSome_eq_ok_iff.1 hmade).2
  decide

/-- A tuple as the only context. -/
def tupleItems : List WithItem :=
  [.ofContext (.display .tuple [sampleExpr, sampleExpr]) none]

/-- A `yield` as the only context, which stands bare. -/
def yieldItems : List WithItem :=
  [.ofContext (.mkUnary .yield sampleExpr) none]

/-- Neither header is read with the items that it was made of. -/
theorem not_forall_items_kept :
    (WithHeader.mk false tupleItems).text = "with (x, x)" ∧
    (∀ item ∈ tupleItems, item.Form) ∧
    WithHeader.ofItems false tupleItems = .ok ⟨false, tupleItems⟩ ∧
    ¬ (WithHeader.mk false tupleItems).ItemsKept ∧
    (WithHeader.mk false yieldItems).text = "with yield x" ∧
    (∀ item ∈ yieldItems, item.Form) ∧
    WithHeader.ofItems false yieldItems = .ok ⟨false, yieldItems⟩ ∧
    ¬ (WithHeader.mk false yieldItems).ItemsKept := by
  have hx : AnyOperatorForm sampleExpr := .identifier _
  have htuple : ∀ item ∈ tupleItems, item.Form :=
    List.forall_mem_singleton.2 (.ofContext (.tuple (by simpa using hx)) (by simp))
  have hyield : ∀ item ∈ yieldItems, item.Form :=
    List.forall_mem_singleton.2 (.ofContext (.unary (fun _ => trivial) hx) (by simp))
  have hlone : LoneTuple tupleItems [sampleExpr, sampleExpr] := ⟨rfl, by simp, by decide⟩
  have hillegal : ¬ ∀ item ∈ yieldItems, item.Legal := by decide
  exact ⟨by decide, htuple, rfl, hlone.not_itemsKept htuple false, by decide, hyield, rfl,
    fun hkept => hillegal hkept.legal⟩

end Unparse
