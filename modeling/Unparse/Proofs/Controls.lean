import Unparse.Proofs.Charset

/-!
Control characters. All that a format string writes out stands in the lines of its statement as it is
written, so the lines tell what is in it. Names, numbers and quoted strings bring no control character
into a line; the text of a format string brings those that it does not escape.
-/

namespace Unparse

section Texts

variable {P : Char → Prop}

/-! ### Texts taken apart -/

theorem forall_allChars_of_join {texts : List String} (h : AllChars P (String.join texts)) :
    ∀ text ∈ texts, AllChars P text := by
  intro text htext c hc
  exact h c (by rw [String.toList_join]; exact List.mem_flatMap.2 ⟨text, htext, hc⟩)

theorem forall_allChars_of_commaSeparated {texts : List String}
    (h : AllChars P (commaSeparated texts)) : ∀ text ∈ texts, AllChars P text := by
  cases texts with
  | nil => exact List.forall_mem_nil _
  | cons first rest =>
      rw [commaSeparated, intercalate_cons_eq_join, allChars_append] at h
      refine List.forall_mem_cons.2 ⟨h.1, fun text htext => ?_⟩
      exact (allChars_append.1 (forall_allChars_of_join h.2 _ (List.mem_map_of_mem htext))).2

theorem forall_allChars_of_tupleElements {texts : List String} (h : AllChars P (tupleElements texts)) :
    ∀ text ∈ texts, AllChars P text := by
  match texts with
  | [] => exact List.forall_mem_nil _
  | [only] => exact List.forall_mem_singleton.2 (allChars_append.1 h).1
  | _ :: _ :: _ => exact forall_allChars_of_commaSeparated h

theorem forall_allChars_of_display {form : DisplayForm} {texts : List String}
    (h : AllChars P (form.text texts)) : ∀ text ∈ texts, AllChars P text := by
  match form, texts with
  | .list, _ | .set, _ :: _ | .dict, _ =>
      simp only [DisplayForm.text, allChars_append] at h
      exact forall_allChars_of_commaSeparated h.1.2
  | .set, [] => exact List.forall_mem_nil _
  | .tuple, _ =>
      simp only [DisplayForm.text, allChars_append] at h
      exact forall_allChars_of_tupleElements h.1.2

theorem allChars_of_comprehension {form : ComprehensionForm} {element : String}
    {clauses : List String} (h : AllChars P (form.text (comprehensionText element clauses))) :
    AllChars P element ∧ ∀ text ∈ clauses, AllChars P text := by
  have hcontent : AllChars P (comprehensionText element clauses) := by
    cases form <;> exact (allChars_append.1 (allChars_append.1 h).1).2
  obtain ⟨helement, hclauses⟩ := allChars_append.1 hcontent
  refine ⟨helement, fun text htext => ?_⟩
  exact (allChars_append.1 (forall_allChars_of_join hclauses _ (List.mem_map_of_mem htext))).2

theorem allChars_of_field {value spec : String} {conversion : Conversion}
    (h : AllChars P (fieldText value conversion spec)) : AllChars P value ∧ AllChars P spec := by
  simp only [fieldText, allChars_append] at h
  obtain ⟨⟨⟨⟨-, hvalue⟩, -⟩, htail⟩, -⟩ := h
  refine ⟨hvalue, ?_⟩
  split at htail
  · next hnone => exact hnone ▸ allChars_empty
  · exact (allChars_append.1 htail).2

/-! ### Expressions -/

mutual

/-- What the format strings of an expression write out has all properties of its text. -/
theorem Expr.writes_of_text (e : Expr) (h : AllChars P e.text) :
    ∀ part ∈ e.formatParts, part.Writes P := by
  cases e with
  | identifier name => exact List.forall_mem_nil _
  | literal value => exact List.forall_mem_nil _
  | unary op operand => exact operand.writes_of_text (allChars_append.1 h).2
  | binary op left right =>
      simp only [Expr.text, allChars_append] at h
      obtain ⟨⟨⟨⟨hleft, -⟩, -⟩, -⟩, hright⟩ := h
      exact List.forall_mem_append.2 ⟨left.writes_of_text hleft, right.writes_of_text hright⟩
  | call target args keywords =>
      simp only [Expr.text, allChars_append] at h
      obtain ⟨⟨⟨htarget, -⟩, harguments⟩, -⟩ := h
      obtain ⟨hargs, hkeywords⟩ :=
        List.forall_mem_append.1 (forall_allChars_of_commaSeparated harguments)
      exact List.forall_mem_append.2 ⟨List.forall_mem_append.2
        ⟨target.writes_of_text htarget, exprs_writes_of_texts args hargs⟩,
        keywords_writes_of_texts keywords hkeywords⟩
  | «attribute» target name =>
      exact target.writes_of_text (allChars_append.1 (allChars_append.1 h).1).1
  | subscript target items =>
      simp only [Expr.text, allChars_append] at h
      obtain ⟨⟨⟨htarget, -⟩, hitems⟩, -⟩ := h
      exact List.forall_mem_append.2 ⟨target.writes_of_text htarget,
        items_writes_of_texts items (forall_allChars_of_commaSeparated hitems)⟩
  | display form elements =>
      exact exprs_writes_of_texts elements (forall_allChars_of_display h)
  | comprehension form element clauses =>
      obtain ⟨helement, hclauses⟩ := allChars_of_comprehension h
      exact List.forall_mem_append.2
        ⟨element.writes_of_text helement, clauses_writes_of_texts clauses hclauses⟩
  | pair key value =>
      simp only [Expr.text, allChars_append] at h
      exact List.forall_mem_append.2 ⟨key.writes_of_text h.1.1, value.writes_of_text h.2⟩
  | lambda params body => exact body.writes_of_text (allChars_append.1 h).2
  | conditional body test orElse =>
      simp only [Expr.text, allChars_append] at h
      obtain ⟨⟨⟨⟨hbody, -⟩, htest⟩, -⟩, horElse⟩ := h
      exact List.forall_mem_append.2 ⟨List.forall_mem_append.2
        ⟨body.writes_of_text hbody, test.writes_of_text htest⟩, orElse.writes_of_text horElse⟩
  | named target value => exact value.writes_of_text (allChars_append.1 h).2
  | formatString parts =>
      simp only [Expr.text, allChars_append] at h
      exact parts_writes_of_texts parts (forall_allChars_of_join h.1.2)
  | wrapped inner => exact inner.writes_of_text (allChars_append.1 (allChars_append.1 h).1).2
  | «alias» target name =>
      exact target.writes_of_text (allChars_append.1 (allChars_append.1 h).1).1
  | pathAlias path name => exact List.forall_mem_nil _
  | empty => exact List.forall_mem_nil _
termination_by structural e

theorem exprs_writes_of_texts (es : List Expr) (h : ∀ text ∈ exprTexts es, AllChars P text) :
    ∀ part ∈ exprFormatParts es, part.Writes P := by
  cases es with
  | nil => exact List.forall_mem_nil _
  | cons e es =>
      obtain ⟨he, hes⟩ := List.forall_mem_cons.1 h
      exact List.forall_mem_append.2 ⟨e.writes_of_text he, exprs_writes_of_texts es hes⟩
termination_by structural es

theorem KeywordArg.writes_of_text (k : KeywordArg) (h : AllChars P k.text) :
    ∀ part ∈ k.formatParts, part.Writes P := by
  obtain ⟨name, value⟩ := k
  exact value.writes_of_text (allChars_append.1 h).2
termination_by structural k

theorem keywords_writes_of_texts (ks : List KeywordArg)
    (h : ∀ text ∈ keywordTexts ks, AllChars P text) :
    ∀ part ∈ keywordFormatParts ks, part.Writes P := by
  cases ks with
  | nil => exact List.forall_mem_nil _
  | cons k ks =>
      obtain ⟨hk, hks⟩ := List.forall_mem_cons.1 h
      exact List.forall_mem_append.2 ⟨k.writes_of_text hk, keywords_writes_of_texts ks hks⟩
termination_by structural ks

theorem SubscriptItem.writes_of_text (item : SubscriptItem) (h : AllChars P item.text) :
    ∀ part ∈ item.formatParts, part.Writes P := by
  cases item with
  | index value => exact value.writes_of_text h
  | slice lower upper =>
      simp only [SubscriptItem.text, allChars_append] at h
      exact List.forall_mem_append.2 ⟨lower.writes_of_text h.1.1, upper.writes_of_text h.2⟩
  | stride lower upper step =>
      simp only [SubscriptItem.text, allChars_append] at h
      obtain ⟨⟨⟨⟨hlower, -⟩, hupper⟩, -⟩, hstep⟩ := h
      exact List.forall_mem_append.2 ⟨List.forall_mem_append.2
        ⟨lower.writes_of_text hlower, upper.writes_of_text hupper⟩, step.writes_of_text hstep⟩
termination_by structural item

theorem items_writes_of_texts (items : List SubscriptItem)
    (h : ∀ text ∈ itemTexts items, AllChars P text) :
    ∀ part ∈ itemFormatParts items, part.Writes P := by
  cases items with
  | nil => exact List.forall_mem_nil _
  | cons item items =>
      obtain ⟨hitem, hitems⟩ := List.forall_mem_cons.1 h
      exact List.forall_mem_append.2
        ⟨item.writes_of_text hitem, items_writes_of_texts items hitems⟩
termination_by structural items

theorem Clause.writes_of_text (c : Clause) (h : AllChars P c.text) :
    ∀ part ∈ c.formatParts, part.Writes P := by
  obtain ⟨isAsync, targets, iterator, filters⟩ := c
  simp only [Clause.text, allChars_append] at h
  obtain ⟨⟨-, hiterator⟩, hfilters⟩ := h
  refine List.forall_mem_append.2 ⟨iterator.writes_of_text hiterator,
    exprs_writes_of_texts filters fun text htext => ?_⟩
  exact (allChars_append.1 (forall_allChars_of_join hfilters _ (List.mem_map_of_mem htext))).2
termination_by structural c

theorem clauses_writes_of_texts (cs : List Clause) (h : ∀ text ∈ clauseTexts cs, AllChars P text) :
    ∀ part ∈ clauseFormatParts cs, part.Writes P := by
  cases cs with
  | nil => exact List.forall_mem_nil _
  | cons c cs =>
      obtain ⟨hc, hcs⟩ := List.forall_mem_cons.1 h
      exact List.forall_mem_append.2 ⟨c.writes_of_text hc, clauses_writes_of_texts cs hcs⟩
termination_by structural cs

theorem FormatPart.writes_of_text (part : FormatPart) (h : AllChars P part.text) :
    ∀ inner ∈ part.formatParts, inner.Writes P := by
  cases part with
  | plain content => exact List.forall_mem_singleton.2 h
  | field value conversion spec =>
      obtain ⟨hvalue, hspec⟩ := allChars_of_field h
      exact List.forall_mem_cons.2 ⟨hspec, value.writes_of_text hvalue⟩
termination_by structural part

theorem parts_writes_of_texts (parts : List FormatPart)
    (h : ∀ text ∈ partTexts parts, AllChars P text) :
    ∀ part ∈ nestedFormatParts parts, part.Writes P := by
  cases parts with
  | nil => exact List.forall_mem_nil _
  | cons part parts =>
      obtain ⟨hpart, hparts⟩ := List.forall_mem_cons.1 h
      exact List.forall_mem_append.2
        ⟨part.writes_of_text hpart, parts_writes_of_texts parts hparts⟩
termination_by structural parts

end

/-! ### Heads -/

theorem writes_of_targetText {e : Expr} (h : AllChars P e.targetText) : e.Writes P := by
  unfold Expr.targetText at h
  split at h
  case h_1 elements =>
    rw [← exprTexts_eq_map] at h
    refine exprs_writes_of_texts elements ?_
    cases elements with
    | nil => exact List.forall_mem_nil _
    | cons first rest => exact forall_allChars_of_tupleElements h
  case h_2 => exact e.writes_of_text h

theorem writes_of_optionalText {lead : String} {e : Option Expr} (h : AllChars P (optionalText lead e)) :
    ∀ value ∈ e.toList, value.Writes P := by
  cases e with
  | none => exact List.forall_mem_nil _
  | some value => exact List.forall_mem_singleton.2 (value.writes_of_text (allChars_append.1 h).2)

/-- Expressions that show in the texts of list elements. -/
theorem forall_writes_of_commaSeparated {α : Type} {items : List α} {text : α → String}
    {exprs : α → List Expr} (hitem : ∀ item, AllChars P (text item) → ∀ e ∈ exprs item, e.Writes P)
    (h : AllChars P (commaSeparated (items.map text))) : ∀ e ∈ items.flatMap exprs, e.Writes P := by
  intro e he
  obtain ⟨item, hmem, he⟩ := List.mem_flatMap.1 he
  exact hitem item (forall_allChars_of_commaSeparated h _ (List.mem_map_of_mem hmem)) e he

theorem SimpleStmt.writes_of_text (statement : SimpleStmt) (h : AllChars P statement.text) :
    ∀ e ∈ statement.exprs, e.Writes P := by
  have himports {names : List ImportName}
      (h : AllChars P (commaSeparated (names.map ImportName.text))) :
      ∀ e ∈ SimpleStmt.exprs (.imports names), e.Writes P := by
    refine forall_writes_of_commaSeparated (fun name hname => ?_) h
    cases name with
    | star | path _ | pathAlias _ _ => exact List.forall_mem_nil _
    | «alias» target name =>
        exact List.forall_mem_singleton.2
          (target.writes_of_text (allChars_append.1 (allChars_append.1 hname).1).1)
  cases statement with
  | expression value => exact List.forall_mem_singleton.2 (value.writes_of_text h)
  | assignment parts =>
      obtain ⟨target, declared, value⟩ := parts
      obtain ⟨h, hvalue⟩ := allChars_append.1 h
      obtain ⟨htarget, hdeclared⟩ := allChars_append.1 h
      exact List.forall_mem_cons.2 ⟨writes_of_targetText htarget,
        List.forall_mem_append.2 ⟨writes_of_optionalText hdeclared, writes_of_optionalText hvalue⟩⟩
  | returning value => exact writes_of_optionalText (allChars_append.1 h).2
  | raising raised =>
      cases raised with
      | again => exact List.forall_mem_nil _
      | exception value cause =>
          obtain ⟨hvalue, hcause⟩ := allChars_append.1 h
          exact List.forall_mem_cons.2
            ⟨value.writes_of_text (allChars_append.1 hvalue).2, writes_of_optionalText hcause⟩
  | asserting test message =>
      obtain ⟨htest, hmessage⟩ := allChars_append.1 h
      exact List.forall_mem_cons.2
        ⟨test.writes_of_text (allChars_append.1 htest).2, writes_of_optionalText hmessage⟩
  | deleting target =>
      exact List.forall_mem_singleton.2 (writes_of_targetText (allChars_append.1 h).2)
  | loneWord word => exact List.forall_mem_nil _
  | globals names => exact List.forall_mem_nil _
  | nonlocals names => exact List.forall_mem_nil _
  | imports names => exact himports (allChars_append.1 h).2
  | importsFrom source names => exact himports (allChars_append.1 h).2

theorem writes_of_typeParamsText {params : List TypeParam} (h : AllChars P (typeParamsText params)) :
    ∀ e ∈ params.flatMap TypeParam.exprs, e.Writes P := by
  have hlist : AllChars P (commaSeparated (params.map TypeParam.text)) := by
    cases params with
    | nil => exact allChars_empty
    | cons first rest => exact (allChars_append.1 (allChars_append.1 h).1).2
  refine forall_writes_of_commaSeparated (fun param hparam => ?_) hlist
  cases param with
  | type name bound => exact writes_of_optionalText (allChars_append.1 hparam).2
  | types name | params name => exact List.forall_mem_nil _

theorem FunctionHeader.writes_of_text (header : FunctionHeader) (h : AllChars P header.text) :
    ∀ e ∈ (Head.functionDef header).exprs, e.Writes P := by
  simp only [FunctionHeader.text, allChars_append] at h
  obtain ⟨⟨⟨⟨⟨-, htypes⟩, -⟩, hparams⟩, -⟩, hresult⟩ := h
  refine List.forall_mem_append.2 ⟨List.forall_mem_append.2 ⟨writes_of_typeParamsText htypes, ?_⟩,
    writes_of_optionalText hresult⟩
  refine forall_writes_of_commaSeparated (fun param hparam => ?_) hparams
  obtain ⟨hparam, hfallback⟩ := allChars_append.1 hparam
  exact List.forall_mem_append.2 ⟨writes_of_optionalText (allChars_append.1 hparam).2,
    writes_of_optionalText hfallback⟩

theorem ClassHeader.writes_of_text (header : ClassHeader) (h : AllChars P header.text) :
    ∀ e ∈ (Head.classDef header).exprs, e.Writes P := by
  simp only [ClassHeader.text, allChars_append] at h
  obtain ⟨⟨⟨-, -⟩, htypes⟩, harguments⟩ := h
  have hlist : AllChars P (commaSeparated (header.bases.map Expr.text ++
      header.keywords.map KeywordArg.text)) := by
    split at harguments
    · next hnone => rw [List.isEmpty_iff.1 hnone]; exact allChars_empty
    · exact (allChars_append.1 (allChars_append.1 harguments).1).2
  obtain ⟨hbases, hkeywords⟩ := List.forall_mem_append.1 (forall_allChars_of_commaSeparated hlist)
  refine List.forall_mem_append.2 ⟨List.forall_mem_append.2 ⟨writes_of_typeParamsText htypes, ?_⟩, ?_⟩
  · exact fun base hbase => base.writes_of_text (hbases _ (List.mem_map_of_mem hbase))
  · intro value hvalue
    obtain ⟨⟨name, value⟩, hkeyword, rfl⟩ := List.mem_map.1 hvalue
    exact KeywordArg.writes_of_text ⟨name, value⟩ (hkeywords _ (List.mem_map_of_mem hkeyword))

/-- What the format strings of a head's expressions write out has all properties of its text. -/
theorem Head.writes_of_text (head : Head) (h : AllChars P head.text) :
    ∀ e ∈ head.exprs, e.Writes P := by
  cases head with
  | simple statement => exact statement.writes_of_text h
  | ifTest e | elifTest e | whileTest e | matchSubject e | decorator e =>
      exact List.forall_mem_singleton.2 (e.writes_of_text (allChars_append.1 h).2)
  | elseWord | tryWord | finallyWord => exact List.forall_mem_nil _
  | forLoop header =>
      simp only [Head.text, ForHeader.text, allChars_append] at h
      obtain ⟨⟨⟨-, htarget⟩, -⟩, hiterable⟩ := h
      exact List.forall_mem_cons.2 ⟨writes_of_targetText htarget,
        List.forall_mem_singleton.2 (header.iterable.writes_of_text hiterable)⟩
  | handler header =>
      obtain ⟨caught, name⟩ := header
      have hcaught : AllChars P caught.text := by
        cases name with
        | none => exact h
        | some name => exact (allChars_append.1 (allChars_append.1 h).1).1
      cases caught with
      | anything => exact List.forall_mem_nil _
      | type value | group value =>
          exact List.forall_mem_singleton.2 (value.writes_of_text (allChars_append.1 hcaught).2)
  | withBlock header =>
      refine forall_writes_of_commaSeparated (fun item hitem => ?_) (allChars_append.1 h).2
      obtain ⟨hcontext, htarget⟩ := allChars_append.1 hitem
      exact List.forall_mem_cons.2
        ⟨item.context.writes_of_text hcontext, writes_of_optionalText htarget⟩
  | matchCase header =>
      obtain ⟨hpattern, hguard⟩ := allChars_append.1 h
      exact List.forall_mem_cons.2
        ⟨header.pattern.writes_of_text (allChars_append.1 hpattern).2, writes_of_optionalText hguard⟩
  | functionDef header => exact header.writes_of_text h
  | classDef header => exact header.writes_of_text h

/-! ### Lines -/

/-- All characters in the lines of outlines have a property. -/
def AllLines (P : Char → Prop) (depth : Nat) (os : List Outline) : Prop :=
  ∀ l ∈ Outline.linesAll depth os, AllChars P l.text

theorem allLines_append {depth : Nat} {os more : List Outline} :
    AllLines P depth (os ++ more) ↔ AllLines P depth os ∧ AllLines P depth more := by
  rw [AllLines, Outline.linesAll_append, List.forall_mem_append, AllLines, AllLines]

theorem AllLines.clause {depth : Nat} {header : String} {suite os : List Outline}
    (h : AllLines P depth (Outline.clause header suite :: os)) :
    AllChars P header ∧ AllLines P (depth + 1) suite ∧ AllLines P depth os := by
  obtain ⟨hclause, hos⟩ := List.forall_mem_append.1 h
  obtain ⟨hheader, hsuite⟩ := List.forall_mem_cons.1 hclause
  refine ⟨(allChars_append.1 hheader).1, ?_, hos⟩
  by_cases hempty : suite.isEmpty = true
  · rw [List.isEmpty_iff.1 hempty]
    exact List.forall_mem_nil _
  · rwa [if_neg hempty] at hsuite

theorem heads_of_decorators {depth : Nat} {decorators : List Expr}
    (h : AllLines P depth ((decoratorTexts decorators).map Outline.leaf)) :
    ∀ head ∈ decorators.map Head.decorator, AllChars P head.text := by
  induction decorators with
  | nil => exact List.forall_mem_nil _
  | cons value decorators ih =>
      obtain ⟨hvalue, hrest⟩ := List.forall_mem_cons.1 h
      exact List.forall_mem_cons.2 ⟨hvalue, ih hrest⟩

mutual

/-- All heads of a statement show in its lines. -/
theorem Stmt.heads_of_lines (s : Stmt) {depth : Nat} (h : AllLines P depth s.outline) :
    ∀ head ∈ s.heads, AllChars P head.text := by
  cases s with
  | simple statement => exact List.forall_mem_singleton.2 (h ⟨depth, _⟩ List.mem_cons_self)
  | branch test body arms orElse =>
      obtain ⟨h, horElse⟩ := allLines_append.1 h
      obtain ⟨htest, hbody, harms⟩ := h.clause
      exact List.forall_mem_append.2 ⟨List.forall_mem_cons.2 ⟨htest, List.forall_mem_append.2
        ⟨headsAll_of_lines body hbody, headsArms_of_lines arms harms⟩⟩,
        headsClause_of_lines .elseWord orElse horElse⟩
  | forLoop header body orElse =>
      obtain ⟨hheader, hbody, horElse⟩ := h.clause
      exact List.forall_mem_cons.2 ⟨hheader, List.forall_mem_append.2
        ⟨headsAll_of_lines body hbody, headsClause_of_lines .elseWord orElse horElse⟩⟩
  | whileLoop test body orElse =>
      obtain ⟨htest, hbody, horElse⟩ := h.clause
      exact List.forall_mem_cons.2 ⟨htest, List.forall_mem_append.2
        ⟨headsAll_of_lines body hbody, headsClause_of_lines .elseWord orElse horElse⟩⟩
  | tryBlock parts =>
      obtain ⟨body, handlers, orElse, cleanup⟩ := parts
      obtain ⟨h, hadded⟩ := allLines_append.1 h
      obtain ⟨h, hcleanup⟩ := allLines_append.1 h
      obtain ⟨h, horElse⟩ := allLines_append.1 h
      obtain ⟨htry, hbody, hhandlers⟩ := h.clause
      have hfilled : ∀ head ∈ if handlers.isEmpty && cleanup.isNone then [Head.finallyWord] else [],
          AllChars P head.text := by
        split at hadded
        · next hbare => rw [if_pos hbare]; exact List.forall_mem_singleton.2 hadded.clause.1
        · next hbare => rw [if_neg hbare]; exact List.forall_mem_nil _
      exact List.forall_mem_append.2 ⟨List.forall_mem_append.2 ⟨List.forall_mem_append.2
        ⟨List.forall_mem_cons.2 ⟨htry, List.forall_mem_append.2
          ⟨headsAll_of_lines body hbody, headsHandlers_of_lines handlers hhandlers⟩⟩,
        headsClause_of_lines .elseWord orElse horElse⟩,
        headsClause_of_lines .finallyWord cleanup hcleanup⟩, hfilled⟩
  | withBlock header body =>
      obtain ⟨hheader, hbody, -⟩ := h.clause
      exact List.forall_mem_cons.2 ⟨hheader, headsAll_of_lines body hbody⟩
  | matchBlock subject cases =>
      obtain ⟨hsubject, hcases, -⟩ := h.clause
      exact List.forall_mem_cons.2 ⟨hsubject, headsCases_of_lines cases hcases⟩
  | functionDef header body =>
      obtain ⟨hdecorators, h⟩ := allLines_append.1 h
      obtain ⟨hheader, hbody, -⟩ := h.clause
      exact List.forall_mem_append.2 ⟨heads_of_decorators hdecorators,
        List.forall_mem_cons.2 ⟨hheader, headsAll_of_lines body hbody⟩⟩
  | classDef header body =>
      obtain ⟨hdecorators, h⟩ := allLines_append.1 h
      obtain ⟨hheader, hbody, -⟩ := h.clause
      exact List.forall_mem_append.2 ⟨heads_of_decorators hdecorators,
        List.forall_mem_cons.2 ⟨hheader, headsAll_of_lines body hbody⟩⟩
  | block body => exact headsAll_of_lines body h
termination_by structural s

theorem headsAll_of_lines (body : List Stmt) {depth : Nat} (h : AllLines P depth (outlineAll body)) :
    ∀ head ∈ headsAll body, AllChars P head.text := by
  cases body with
  | nil => exact List.forall_mem_nil _
  | cons s ss =>
      obtain ⟨hs, hss⟩ := allLines_append.1 h
      exact List.forall_mem_append.2 ⟨s.heads_of_lines hs, headsAll_of_lines ss hss⟩
termination_by structural body

theorem headsClause_of_lines (head : Head) (body : Option (List Stmt)) {depth : Nat}
    (h : AllLines P depth (outlineClause head.text body)) :
    ∀ other ∈ headsClause head body, AllChars P other.text := by
  cases body with
  | none => exact List.forall_mem_nil _
  | some body =>
      obtain ⟨hhead, hbody, -⟩ := h.clause
      exact List.forall_mem_cons.2 ⟨hhead, headsAll_of_lines body hbody⟩
termination_by structural body

theorem headsArms_of_lines (arms : List ElifArm) {depth : Nat}
    (h : AllLines P depth (outlineArms arms)) : ∀ head ∈ headsArms arms, AllChars P head.text := by
  cases arms with
  | nil => exact List.forall_mem_nil _
  | cons a as =>
      obtain ⟨test, body⟩ := a
      obtain ⟨htest, hbody, has⟩ := h.clause
      exact List.forall_mem_append.2 ⟨List.forall_mem_cons.2 ⟨htest, headsAll_of_lines body hbody⟩,
        headsArms_of_lines as has⟩
termination_by structural arms

theorem headsHandlers_of_lines (handlers : List Handler) {depth : Nat}
    (h : AllLines P depth (outlineHandlers handlers)) :
    ∀ head ∈ headsHandlers handlers, AllChars P head.text := by
  cases handlers with
  | nil => exact List.forall_mem_nil _
  | cons first rest =>
      obtain ⟨header, body⟩ := first
      obtain ⟨hheader, hbody, hrest⟩ := h.clause
      exact List.forall_mem_append.2 ⟨List.forall_mem_cons.2 ⟨hheader, headsAll_of_lines body hbody⟩,
        headsHandlers_of_lines rest hrest⟩
termination_by structural handlers

theorem headsCases_of_lines (cases : List MatchCase) {depth : Nat}
    (h : AllLines P depth (outlineCases cases)) :
    ∀ head ∈ headsCases cases, AllChars P head.text := by
  cases cases with
  | nil => exact List.forall_mem_nil _
  | cons c cs =>
      obtain ⟨header, body⟩ := c
      obtain ⟨hheader, hbody, hcs⟩ := h.clause
      exact List.forall_mem_append.2 ⟨List.forall_mem_cons.2 ⟨hheader, headsAll_of_lines body hbody⟩,
        headsCases_of_lines cs hcs⟩
termination_by structural cases

end

/-- A property of all ink holds throughout the lines of a statement exactly when it holds throughout
what its format strings write out. -/
theorem Stmt.allChars_lines_iff (hP : HoldsOfInk P) (s : Stmt) :
    (∀ l ∈ s.lines, AllChars P l.text) ↔ ∀ part ∈ s.formatParts, part.Writes P := by
  constructor
  · intro h part hpart
    obtain ⟨head, hhead, hpart⟩ := List.mem_flatMap.1 hpart
    obtain ⟨e, he, hpart⟩ := List.mem_flatMap.1 hpart
    exact head.writes_of_text (s.heads_of_lines h head hhead) e he part hpart
  · exact s.allChars_lines hP

end Texts

/-! ### Control characters -/

theorem control_mem_formatTextChar_iff {c d : Char} (hc : isControl c = true) :
    c ∈ formatTextChar d ↔ (c ≠ '\t' ∧ c ≠ '\n' ∧ c ≠ '\r') ∧ c = d := by
  have hink {ds : List Char} (hds : (ds.all fun d => !isControl d) = true) : c ∉ ds := by
    intro hmem
    have := List.all_eq_true.1 hds c hmem
    simp [hc] at this
  -- What is escaped is written without control characters, and is one itself only if it is one of three.
  have habsent {ds : List Char} (hds : (ds.all fun d => !isControl d) = true)
      (hd : c = d → c = '\t' ∨ c = '\n' ∨ c = '\r') :
      c ∈ ds ↔ (c ≠ '\t' ∧ c ≠ '\n' ∧ c ≠ '\r') ∧ c = d := by
    refine ⟨fun hmem => absurd hmem (hink hds), fun ⟨⟨htab, hfeed, hreturn⟩, hcd⟩ => ?_⟩
    rcases hd hcd with h | h | h
    · exact absurd h htab
    · exact absurd h hfeed
    · exact absurd h hreturn
  have hshown (hd : isControl d = false) (hcd : c = d) : c = '\t' ∨ c = '\n' ∨ c = '\r' := by
    rw [← hcd, hc] at hd
    cases hd
  unfold formatTextChar
  split_ifs with hbrace hescaped hfeed hreturn htab
  · rcases hbrace with rfl | rfl
    · exact habsent rfl (hshown rfl)
    · exact habsent rfl (hshown rfl)
  · rcases hescaped with rfl | rfl
    · exact habsent rfl (hshown rfl)
    · exact habsent rfl (hshown rfl)
  · exact habsent rfl fun hcd => .inr (.inl (hcd.trans hfeed))
  · exact habsent rfl fun hcd => .inr (.inr (hcd.trans hreturn))
  · exact habsent rfl fun hcd => .inl (hcd.trans htab)
  · rw [List.mem_singleton]
    exact ⟨fun hcd => ⟨hcd ▸ ⟨htab, hfeed, hreturn⟩, hcd⟩, And.right⟩

/-- Of the control characters, the text of a format string is written with all but the three that it
escapes. -/
theorem control_mem_formatText_iff {c : Char} (hc : isControl c = true) {content : String} :
    c ∈ (formatText content).toList ↔
      (c ≠ '\t' ∧ c ≠ '\n' ∧ c ≠ '\r') ∧ c ∈ content.toList := by
  simp only [formatText, String.toList_ofList, List.mem_flatMap, control_mem_formatTextChar_iff hc]
  constructor
  · rintro ⟨d, hd, hwritten, rfl⟩
    exact ⟨hwritten, hd⟩
  · rintro ⟨hwritten, hmem⟩
    exact ⟨c, hmem, hwritten, rfl⟩

def ControlFree (text : String) : Prop :=
  AllChars (isControl · = false) text

instance (text : String) : Decidable (ControlFree text) :=
  decidable_of_iff ((text.toList.all fun c => !isControl c) = true) (by simp [ControlFree, AllChars])

/-- A control character that no specification has comes into the lines of a statement from the texts of
its format strings alone, and from each of them that has it, unless it is one of the three that are
escaped there. -/
theorem Stmt.control_mem_lines_iff (s : Stmt) (h : ∀ part ∈ s.formatParts, ControlFree part.spec)
    {c : Char} (hc : isControl c = true) :
    (∃ l ∈ s.lines, c ∈ l.text.toList) ↔ (c ≠ '\t' ∧ c ≠ '\n' ∧ c ≠ '\r') ∧
      ∃ content, .plain content ∈ s.formatParts ∧ c ∈ content.toList := by
  have hink : HoldsOfInk (· ≠ c) := by
    rintro d hd rfl
    rw [hc] at hd
    cases hd
  have hlines := s.allChars_lines_iff hink
  constructor
  · rintro ⟨l, hl, hmem⟩
    by_contra hnone
    refine hlines.2 (fun part hpart => ?_) l hl c hmem rfl
    cases part with
    | plain content =>
        rintro d hd rfl
        obtain ⟨hwritten, hcontent⟩ := (control_mem_formatText_iff hc).1 hd
        exact hnone ⟨hwritten, content, hpart, hcontent⟩
    | field value conversion spec => exact fun d hd => hink d (h _ hpart d hd)
  · rintro ⟨hwritten, content, hpart, hcontent⟩
    by_contra hnone
    refine hlines.1 (fun l hl d hd hdc => hnone ⟨l, hl, hdc ▸ hd⟩) _ hpart c ?_ rfl
    exact (control_mem_formatText_iff hc).2 ⟨hwritten, hcontent⟩

/-- A file is laid out from the lines of its statements. As long as the specifications of its format
strings have no control characters, those in its lines are the ones in the texts of its format strings,
other than tabs, line feeds and carriage returns. So its lines have none just when those texts have no
others. -/
theorem SourceFile.controls_from_formatTexts (body : List Stmt)
    (h : ∀ s ∈ body, ∀ part ∈ s.formatParts, ControlFree part.spec) :
    (∀ style, (SourceFile.mk body).render style = style.layout (body.flatMap Stmt.lines)) ∧
    (∀ c, isControl c = true → ((∃ l ∈ body.flatMap Stmt.lines, c ∈ l.text.toList) ↔
      (c ≠ '\t' ∧ c ≠ '\n' ∧ c ≠ '\r') ∧
        ∃ s ∈ body, ∃ content, .plain content ∈ s.formatParts ∧ c ∈ content.toList)) ∧
    ((∀ l ∈ body.flatMap Stmt.lines, ControlFree l.text) ↔
      ∀ s ∈ body, ∀ content, .plain content ∈ s.formatParts → ∀ c ∈ content.toList,
        isControl c = true → c = '\t' ∨ c = '\n' ∨ c = '\r') := by
  have hcontrol (c : Char) (hc : isControl c = true) :
      (∃ l ∈ body.flatMap Stmt.lines, c ∈ l.text.toList) ↔ (c ≠ '\t' ∧ c ≠ '\n' ∧ c ≠ '\r') ∧
        ∃ s ∈ body, ∃ content, .plain content ∈ s.formatParts ∧ c ∈ content.toList := by
    constructor
    · rintro ⟨l, hl, hmem⟩
      obtain ⟨s, hs, hl⟩ := List.mem_flatMap.1 hl
      obtain ⟨hwritten, hcontent⟩ := (s.control_mem_lines_iff (h s hs) hc).1 ⟨l, hl, hmem⟩
      exact ⟨hwritten, s, hs, hcontent⟩
    · rintro ⟨hwritten, s, hs, hcontent⟩
      obtain ⟨l, hl, hmem⟩ := (s.control_mem_lines_iff (h s hs) hc).2 ⟨hwritten, hcontent⟩
      exact ⟨l, List.mem_flatMap.2 ⟨s, hs, hl⟩, hmem⟩
  refine ⟨SourceFile.render_eq_layout body, hcontrol, ?_⟩
  constructor
  · intro hfree s hs content hpart c hmem hc
    by_contra hother
    obtain ⟨l, hl, hline⟩ := (hcontrol c hc).2
      ⟨by simpa only [not_or] using hother, s, hs, content, hpart, hmem⟩
    exact absurd (hfree l hl c hline) (by simp [hc])
  · intro hplain l hl c hmem
    by_contra hc
    rw [Bool.not_eq_false] at hc
    obtain ⟨⟨htab, hfeed, hreturn⟩, s, hs, content, hpart, hcontent⟩ := (hcontrol c hc).1 ⟨l, hl, hmem⟩
    rcases hplain s hs content hpart c hcontent hc with rfl | rfl | rfl
    · exact htab rfl
    · exact hfeed rfl
    · exact hreturn rfl

/-- A quoted string with control characters, and a format string whose text has some too. -/
def ringingBody : List Stmt :=
  [.simple (.expression (.literal (.str "\x00\x07\n"))),
    .simple (.expression (.formatString
      [.plain "\t\x07", .field (.identifier ⟨"bell", by decide⟩) .none ">10"]))]

theorem ringingBody_controls_from_formatTexts :
    (∀ s ∈ ringingBody, ∀ part ∈ s.formatParts, ControlFree part.spec) ∧
    (∃ l ∈ ringingBody.flatMap Stmt.lines, '\x07' ∈ l.text.toList) ∧
    ¬ ∃ l ∈ ringingBody.flatMap Stmt.lines, '\t' ∈ l.text.toList := by
  have hspecs : ∀ s ∈ ringingBody, ∀ part ∈ s.formatParts, ControlFree part.spec := by decide
  obtain ⟨-, hcontrol, -⟩ := SourceFile.controls_from_formatTexts ringingBody hspecs
  refine ⟨hspecs, (hcontrol '\x07' rfl).2 ⟨by decide, ?_⟩, ?_⟩
  · exact ⟨_, List.mem_cons_of_mem _ List.mem_cons_self, "\t\x07", List.mem_cons_self, by decide⟩
  · exact fun htab => absurd rfl ((hcontrol '\t' rfl).1 htab).1.1

/-- The character zero as the text of a format string. -/
def zeroText : Stmt :=
  .simple (.expression (.formatString [.plain "\x00"]))

/-- What no specification has may still come from the text of a format string. -/
theorem not_forall_controlFree_lines :
    (SourceFile.mk [zeroText]).render {} = "f\x22\x00\x22" ∧
    ¬ ∀ body : List Stmt, (∀ s ∈ body, ∀ part ∈ s.formatParts, ControlFree part.spec) →
      ∀ l ∈ body.flatMap Stmt.lines, ControlFree l.text := by
  refine ⟨by decide, fun hfree => ?_⟩
  exact absurd (hfree [zeroText] (by decide)) (by decide)

end Unparse
