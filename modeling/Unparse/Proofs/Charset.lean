import Unparse.Proofs.FormatParts
import Unparse.Proofs.Layout
import Unparse.Proofs.Spelling

/-!
The characters of a text. Every piece of source that is not data has no control characters, data is
written in escapes wherever it has any, and the two places where text may carry others over, the text
and the specifications of format strings, are looked at as they are written.
-/

namespace Unparse

/-- All characters of a text have a property. -/
def AllChars (P : Char → Prop) (text : String) : Prop :=
  ∀ c ∈ text.toList, P c

/-- Every character but the control characters has a property. -/
def HoldsOfInk (P : Char → Prop) : Prop :=
  ∀ c, isControl c = false → P c

/-! ### Texts put together -/

section Texts

variable {P : Char → Prop}

theorem allChars_append {a b : String} : AllChars P (a ++ b) ↔ AllChars P a ∧ AllChars P b := by
  simp only [AllChars, String.toList_append, List.forall_mem_append]

theorem allChars_empty : AllChars P "" := by
  simp [AllChars]

theorem allChars_ofList {cs : List Char} : AllChars P (String.ofList cs) ↔ ∀ c ∈ cs, P c := by
  rw [AllChars, String.toList_ofList]

theorem allChars_join {texts : List String} (h : ∀ text ∈ texts, AllChars P text) :
    AllChars P (String.join texts) := by
  intro c hc
  rw [String.toList_join, List.mem_flatMap] at hc
  obtain ⟨text, htext, hc⟩ := hc
  exact h text htext c hc

theorem allChars_intercalate {sep : String} {texts : List String} (hsep : AllChars P sep)
    (h : ∀ text ∈ texts, AllChars P text) : AllChars P (sep.intercalate texts) := by
  cases texts with
  | nil => simp [AllChars]
  | cons text texts =>
      rw [intercalate_cons_eq_join, allChars_append]
      refine ⟨h text List.mem_cons_self, allChars_join fun other hother => ?_⟩
      obtain ⟨t, ht, rfl⟩ := List.mem_map.1 hother
      exact allChars_append.2 ⟨hsep, h t (List.mem_cons_of_mem _ ht)⟩

/-- A text that is written out in the source has a property of all ink. -/
theorem HoldsOfInk.literal (hP : HoldsOfInk P) {text : String}
    (h : (text.toList.all fun c => !isControl c) = true) : AllChars P text := by
  intro c hc
  have := List.all_eq_true.1 h c hc
  exact hP c (by simpa using this)

theorem HoldsOfInk.after (hP : HoldsOfInk P) {lead text : String}
    (hlead : (lead.toList.all fun c => !isControl c) = true) (h : AllChars P text) :
    AllChars P (lead ++ text) :=
  allChars_append.2 ⟨hP.literal hlead, h⟩

theorem HoldsOfInk.before (hP : HoldsOfInk P) {text tail : String} (h : AllChars P text)
    (htail : (tail.toList.all fun c => !isControl c) = true) : AllChars P (text ++ tail) :=
  allChars_append.2 ⟨h, hP.literal htail⟩

theorem HoldsOfInk.separated (hP : HoldsOfInk P) {a sep b : String} (ha : AllChars P a)
    (hsep : (sep.toList.all fun c => !isControl c) = true) (hb : AllChars P b) :
    AllChars P (a ++ sep ++ b) :=
  allChars_append.2 ⟨hP.before ha hsep, hb⟩

theorem HoldsOfInk.enclosed (hP : HoldsOfInk P) {opening content closing : String}
    (hopening : (opening.toList.all fun c => !isControl c) = true) (h : AllChars P content)
    (hclosing : (closing.toList.all fun c => !isControl c) = true) :
    AllChars P (opening ++ content ++ closing) :=
  hP.before (hP.after hopening h) hclosing

theorem HoldsOfInk.commaSeparated (hP : HoldsOfInk P) {texts : List String}
    (h : ∀ text ∈ texts, AllChars P text) : AllChars P (commaSeparated texts) :=
  allChars_intercalate (hP.literal rfl) h

/-! ### Names and numbers -/

/-- A set of characters that meets no range of the tables of words has no character of words. -/
theorem CodeRanges.holds_of_isWordChar {ranges : CodeRanges}
    (hapart : (ranges.all fun range => (xidStart ++ xidContinue).all fun word =>
      decide (range.2 < word.1 ∨ word.2 < range.1)) = true)
    (hunderscore : ranges.holds '_' = false) {c : Char} (h : isWordChar c = true) :
    ranges.holds c = false := by
  by_contra hholds
  rw [Bool.not_eq_false] at hholds
  obtain ⟨range, hrange, hlow, hhigh⟩ := CodeRanges.holds_iff.1 hholds
  have hclear {word : Nat × Nat} (hword : word ∈ xidStart ++ xidContinue) :
      ¬ (word.1 ≤ c.toNat ∧ c.toNat ≤ word.2) := by
    have hbounds := of_decide_eq_true
      (List.all_eq_true.1 (List.all_eq_true.1 hapart range hrange) word hword)
    omega
  simp only [isWordChar, isWordStart, isWordContinue, Bool.or_eq_true, beq_iff_eq] at h
  rcases h with (rfl | h) | h
  · exact absurd hholds (by simp [hunderscore])
  · obtain ⟨word, hword, hin⟩ := CodeRanges.holds_iff.1 h
    exact hclear (List.mem_append_left _ hword) hin
  · obtain ⟨word, hword, hin⟩ := CodeRanges.holds_iff.1 h
    exact hclear (List.mem_append_right _ hword) hin

theorem isControl_of_isWordChar {c : Char} (h : isWordChar c = true) : isControl c = false :=
  CodeRanges.holds_of_isWordChar (by decide +kernel) (by decide) h

theorem HoldsOfInk.identifier (hP : HoldsOfInk P) (name : Identifier) : AllChars P name.text :=
  fun c hc => hP c (isControl_of_isWordChar (name.isWordChar_of_mem.2 c hc))

theorem HoldsOfInk.names (hP : HoldsOfInk P) (names : List Identifier) :
    AllChars P (Unparse.commaSeparated (names.map Identifier.text)) := by
  refine hP.commaSeparated fun text htext => ?_
  obtain ⟨name, -, rfl⟩ := List.mem_map.1 htext
  exact hP.identifier name

theorem HoldsOfInk.modulePath (hP : HoldsOfInk P) (path : ModulePath) : AllChars P path.text := by
  refine allChars_append.2 ⟨allChars_ofList.2 fun c hc => ?_,
    allChars_intercalate (hP.literal rfl) fun text htext => ?_⟩
  · rw [List.eq_of_mem_replicate hc]
    exact hP '.' (by decide)
  · obtain ⟨name, -, rfl⟩ := List.mem_map.1 htext
    exact hP.identifier name

theorem isControl_of_mem_decimalDigits {n : Nat} {c : Char} (h : c ∈ decimalDigits n) :
    isControl c = false :=
  isControl_of_isWordChar (isWordChar_of_isDigit (isDigit_of_mem_decimalDigits h))

theorem HoldsOfInk.integer (hP : HoldsOfInk P) (value : Int) : AllChars P (integerText value) := by
  intro c hc
  rcases integerText_cases value with ⟨-, htext⟩ | ⟨-, htext⟩
  · rw [htext] at hc
    exact hP c (isControl_of_mem_decimalDigits hc)
  · rw [htext] at hc
    rcases List.mem_cons.1 hc with rfl | hc
    · exact hP '-' (by decide)
    · exact hP c (isControl_of_mem_decimalDigits hc)

/-- A decimal consists of digits, a point, the letter of the exponent and its sign. -/
theorem HoldsOfInk.decimal (hP : HoldsOfInk P) (style : DecimalStyle) (d : Decimal) :
    ∀ c ∈ d.text style, P c := by
  have hdigit {c : Char} (hc : c ∈ decimalDigits d.digits) : P c :=
    hP c (isControl_of_mem_decimalDigits hc)
  have hzero : P '0' := hP '0' (by decide)
  have hpoint : P '.' := hP '.' (by decide)
  have hexponent := hP.integer d.scientificExponent
  unfold Decimal.text Decimal.positionalText Decimal.scientificText
  intro c hc
  split_ifs at hc
  · simp only [List.mem_append, List.mem_replicate, List.mem_cons, List.not_mem_nil, or_false] at hc
    rcases hc with (hc | ⟨-, rfl⟩) | rfl | rfl
    · exact hdigit hc
    · exact hzero
    · exact hpoint
    · exact hzero
  · simp only [List.mem_append, List.mem_cons] at hc
    rcases hc with hc | rfl | hc
    · exact hdigit (List.mem_of_mem_take hc)
    · exact hpoint
    · exact hdigit (List.mem_of_mem_drop hc)
  · simp only [List.mem_append, List.mem_replicate, List.mem_cons, List.not_mem_nil, or_false] at hc
    rcases hc with ((rfl | rfl) | ⟨-, rfl⟩) | hc
    · exact hzero
    · exact hpoint
    · exact hzero
    · exact hdigit hc
  · simp only [List.mem_append, List.mem_cons] at hc
    rcases hc with (hc | hc) | rfl | hc
    · exact hdigit (List.mem_of_mem_take hc)
    · split at hc
      · exact absurd hc List.not_mem_nil
      · rcases List.mem_cons.1 hc with rfl | hc
        · exact hpoint
        · exact hdigit (List.mem_of_mem_drop hc)
    · exact hP 'e' (by decide)
    · exact hexponent c hc

theorem HoldsOfInk.double (hP : HoldsOfInk P) (value : Binary64) : AllChars P (doubleText value) := by
  have hmagnitude (significand : Nat) (exponent : Int) :
      ∀ c ∈ magnitudeText significand exponent, P c := by
    intro c hc
    unfold magnitudeText at hc
    split at hc
    · exact (hP.literal rfl : AllChars P "0.0") c hc
    · exact hP.decimal doubleStyle _ c hc
  unfold doubleText
  split
  · exact hP.literal rfl
  · exact hP.literal rfl
  · exact hP.literal rfl
  · exact allChars_ofList.2 (hmagnitude _ _)
  · exact allChars_ofList.2 (List.forall_mem_cons.2 ⟨hP '-' (by decide), hmagnitude _ _⟩)

/-! ### Strings -/

theorem isControl_of_mem_fixedHex {width n : Nat} {c : Char} (h : c ∈ fixedHex width n) :
    isControl c = false := by
  have hdigits : ∀ d < 16, isControl (Nat.digitChar d) = false := by decide
  induction width generalizing n with
  | zero => simp [fixedHex] at h
  | succ width ih =>
      rw [fixedHex, List.mem_append, List.mem_singleton] at h
      rcases h with h | rfl
      · exact ih h
      · exact hdigits _ (Nat.mod_lt n (by decide))

theorem isControl_of_mem_codeEscape {c d : Char} (h : d ∈ codeEscape c) : isControl d = false := by
  have hlead {lead : Char} (hlead : isControl lead = false) {width : Nat}
      (h : d ∈ '\\' :: lead :: fixedHex width c.toNat) : isControl d = false := by
    rcases List.mem_cons.1 h with rfl | h
    · decide
    · rcases List.mem_cons.1 h with rfl | h
      · exact hlead
      · exact isControl_of_mem_fixedHex h
  unfold codeEscape at h
  split_ifs at h
  · exact hlead (by decide) h
  · exact hlead (by decide) h
  · exact hlead (by decide) h

theorem isControl_of_mem_quotedChar {mark c d : Char} (hmark : isControl mark = false)
    (h : d ∈ quotedChar mark c) : isControl d = false := by
  have hpair {a b : Char} (ha : isControl a = false) (hb : isControl b = false) (h : d ∈ [a, b]) :
      isControl d = false := by
    simp only [List.mem_cons, List.not_mem_nil, or_false] at h
    rcases h with rfl | rfl
    · exact ha
    · exact hb
  unfold quotedChar at h
  split_ifs at h with hescaped _ _ _ hcoded
  · rcases hescaped with rfl | rfl
    · exact hpair (by decide) (by decide) h
    · exact hpair (by decide) hmark h
  · exact hpair (by decide) (by decide) h
  · exact hpair (by decide) (by decide) h
  · exact hpair (by decide) (by decide) h
  · exact isControl_of_mem_codeEscape h
  · rw [List.mem_singleton.1 h]
    simp only [Bool.or_eq_true, not_or] at hcoded
    simpa using hcoded.1

theorem HoldsOfInk.quoted (hP : HoldsOfInk P) (text : String) : AllChars P (quotedString text) := by
  have hmark : isControl (quoteMark text.toList) = false := by
    unfold quoteMark
    split <;> decide
  refine allChars_ofList.2 (List.forall_mem_append.2 ⟨List.forall_mem_cons.2 ⟨hP _ hmark, ?_⟩, ?_⟩)
  · intro d hd
    obtain ⟨c, -, hd⟩ := List.mem_flatMap.1 hd
    exact hP d (isControl_of_mem_quotedChar hmark hd)
  · simpa using hP _ hmark

theorem HoldsOfInk.constant (hP : HoldsOfInk P) (value : Literal) : AllChars P value.text := by
  cases value with
  | int value => exact hP.integer value
  | double value => exact hP.double value
  | str value => exact hP.quoted value
  | bool value => cases value <;> exact hP.literal rfl
  | _ => exact hP.literal rfl

/-! ### Expressions -/

/-- What a part of a format string writes out as it was given has a property throughout: its text once
it is escaped, or its specification. -/
def FormatPart.Writes (P : Char → Prop) : FormatPart → Prop
  | .plain content => AllChars P (formatText content)
  | .field _ _ spec => AllChars P spec

theorem HoldsOfInk.field (hP : HoldsOfInk P) {value spec : String} (conversion : Conversion)
    (hvalue : AllChars P value) (hspec : AllChars P spec) :
    AllChars P (fieldText value conversion spec) := by
  have hgap : AllChars P (if value.toList.head? = some '\x7b' then " " else "") := by
    split
    · exact hP.literal rfl
    · exact allChars_empty
  have hconversion : AllChars P conversion.text := by
    cases conversion <;> exact hP.literal rfl
  have htail : AllChars P (if spec = "" then "" else ":" ++ spec) := by
    split
    · exact allChars_empty
    · exact hP.after rfl hspec
  have hopened : AllChars P
      ("\x7b" ++ (if value.toList.head? = some '\x7b' then " " else "") ++ value) :=
    allChars_append.2 ⟨hP.after rfl hgap, hvalue⟩
  exact hP.before (allChars_append.2 ⟨allChars_append.2 ⟨hopened, hconversion⟩, htail⟩) rfl

theorem HoldsOfInk.tupleElements (hP : HoldsOfInk P) {elements : List String}
    (h : ∀ text ∈ elements, AllChars P text) : AllChars P (tupleElements elements) := by
  match elements with
  | [] => exact allChars_empty
  | [only] => exact hP.before (h only List.mem_cons_self) rfl
  | _ :: _ :: _ => exact hP.commaSeparated h

theorem HoldsOfInk.bareTuple (hP : HoldsOfInk P) {elements : List String}
    (h : ∀ text ∈ elements, AllChars P text) : AllChars P (bareTuple elements) := by
  cases elements with
  | nil => exact hP.literal rfl
  | cons first rest => exact hP.tupleElements h

theorem HoldsOfInk.display (hP : HoldsOfInk P) (form : DisplayForm) {elements : List String}
    (h : ∀ text ∈ elements, AllChars P text) : AllChars P (form.text elements) := by
  match form, elements with
  | .list, _ => exact hP.enclosed rfl (hP.commaSeparated h) rfl
  | .set, [] => exact hP.literal rfl
  | .set, _ :: _ => exact hP.enclosed rfl (hP.commaSeparated h) rfl
  | .dict, _ => exact hP.enclosed rfl (hP.commaSeparated h) rfl
  | .tuple, _ => exact hP.enclosed rfl (hP.tupleElements h) rfl

theorem HoldsOfInk.comprehension (hP : HoldsOfInk P) (form : ComprehensionForm) {element : String}
    {clauses : List String} (helement : AllChars P element)
    (h : ∀ text ∈ clauses, AllChars P text) :
    AllChars P (form.text (comprehensionText element clauses)) := by
  have hcontent : AllChars P (comprehensionText element clauses) := by
    refine allChars_append.2 ⟨helement, allChars_join fun text htext => ?_⟩
    obtain ⟨clause, hclause, rfl⟩ := List.mem_map.1 htext
    exact hP.after rfl (h clause hclause)
  cases form <;> exact hP.enclosed rfl hcontent rfl

theorem HoldsOfInk.lambdaHead (hP : HoldsOfInk P) (params : List Identifier) :
    AllChars P (lambdaHead params) := by
  cases params with
  | nil => exact hP.literal rfl
  | cons first rest => exact hP.after rfl (hP.names (first :: rest))

mutual

/-- The characters of an expression have a property of all ink that what its format strings write out
has throughout. The induction is on the expression. -/
theorem Expr.allChars_text (hP : HoldsOfInk P) (e : Expr)
    (h : ∀ part ∈ e.formatParts, part.Writes P) : AllChars P e.text := by
  cases e with
  | identifier name => exact hP.identifier name
  | literal value => exact hP.constant value
  | unary op operand =>
      have hop : AllChars P op.text := by cases op <;> exact hP.literal rfl
      exact hP.separated hop rfl (operand.allChars_text hP h)
  | binary op left right =>
      have hop : AllChars P op.text := by cases op <;> exact hP.literal rfl
      obtain ⟨hleft, hright⟩ := List.forall_mem_append.1 h
      exact hP.separated (hP.separated (left.allChars_text hP hleft) rfl hop) rfl
        (right.allChars_text hP hright)
  | call target args keywords =>
      obtain ⟨h, hkeywords⟩ := List.forall_mem_append.1 h
      obtain ⟨htarget, hargs⟩ := List.forall_mem_append.1 h
      have harguments := hP.commaSeparated (List.forall_mem_append.2
        ⟨exprTexts_allChars hP args hargs, keywordTexts_allChars hP keywords hkeywords⟩)
      exact hP.before (hP.separated (target.allChars_text hP htarget) rfl harguments) rfl
  | «attribute» target name =>
      exact hP.separated (target.allChars_text hP h) rfl (hP.identifier name)
  | subscript target items =>
      obtain ⟨htarget, hitems⟩ := List.forall_mem_append.1 h
      have hlist := hP.commaSeparated (itemTexts_allChars hP items hitems)
      exact hP.before (hP.separated (target.allChars_text hP htarget) rfl hlist) rfl
  | display form elements => exact hP.display form (exprTexts_allChars hP elements h)
  | comprehension form element clauses =>
      obtain ⟨helement, hclauses⟩ := List.forall_mem_append.1 h
      exact hP.comprehension form (element.allChars_text hP helement)
        (clauseTexts_allChars hP clauses hclauses)
  | pair key value =>
      obtain ⟨hkey, hvalue⟩ := List.forall_mem_append.1 h
      exact hP.separated (key.allChars_text hP hkey) rfl (value.allChars_text hP hvalue)
  | lambda params body =>
      exact hP.separated (hP.lambdaHead params) rfl (body.allChars_text hP h)
  | conditional body test orElse =>
      obtain ⟨h, horElse⟩ := List.forall_mem_append.1 h
      obtain ⟨hbody, htest⟩ := List.forall_mem_append.1 h
      exact hP.separated (hP.separated (body.allChars_text hP hbody) rfl
        (test.allChars_text hP htest)) rfl (orElse.allChars_text hP horElse)
  | named target value =>
      exact hP.separated (hP.identifier target) rfl (value.allChars_text hP h)
  | formatString parts =>
      exact hP.enclosed rfl (allChars_join (partTexts_allChars hP parts h)) rfl
  | wrapped inner =>
      exact hP.enclosed rfl (inner.allChars_text hP h) rfl
  | «alias» target name =>
      exact hP.separated (target.allChars_text hP h) rfl (hP.identifier name)
  | pathAlias path name =>
      exact hP.separated (hP.modulePath path) rfl (hP.identifier name)
  | empty => exact allChars_empty
termination_by structural e

theorem exprTexts_allChars (hP : HoldsOfInk P) (es : List Expr)
    (h : ∀ part ∈ exprFormatParts es, part.Writes P) : ∀ text ∈ exprTexts es, AllChars P text := by
  cases es with
  | nil => exact List.forall_mem_nil _
  | cons e es =>
      obtain ⟨he, hes⟩ := List.forall_mem_append.1 h
      exact List.forall_mem_cons.2 ⟨e.allChars_text hP he, exprTexts_allChars hP es hes⟩
termination_by structural es

theorem KeywordArg.allChars_text (hP : HoldsOfInk P) (k : KeywordArg)
    (h : ∀ part ∈ k.formatParts, part.Writes P) : AllChars P k.text := by
  obtain ⟨name, value⟩ := k
  exact hP.separated (hP.identifier name) rfl (value.allChars_text hP h)
termination_by structural k

theorem keywordTexts_allChars (hP : HoldsOfInk P) (ks : List KeywordArg)
    (h : ∀ part ∈ keywordFormatParts ks, part.Writes P) :
    ∀ text ∈ keywordTexts ks, AllChars P text := by
  cases ks with
  | nil => exact List.forall_mem_nil _
  | cons k ks =>
      obtain ⟨hk, hks⟩ := List.forall_mem_append.1 h
      exact List.forall_mem_cons.2 ⟨k.allChars_text hP hk, keywordTexts_allChars hP ks hks⟩
termination_by structural ks

theorem SubscriptItem.allChars_text (hP : HoldsOfInk P) (item : SubscriptItem)
    (h : ∀ part ∈ item.formatParts, part.Writes P) : AllChars P item.text := by
  cases item with
  | index value => exact value.allChars_text hP h
  | slice lower upper =>
      obtain ⟨hlower, hupper⟩ := List.forall_mem_append.1 h
      exact hP.separated (lower.allChars_text hP hlower) rfl (upper.allChars_text hP hupper)
  | stride lower upper step =>
      obtain ⟨h, hstep⟩ := List.forall_mem_append.1 h
      obtain ⟨hlower, hupper⟩ := List.forall_mem_append.1 h
      exact hP.separated (hP.separated (lower.allChars_text hP hlower) rfl
        (upper.allChars_text hP hupper)) rfl (step.allChars_text hP hstep)
termination_by structural item

theorem itemTexts_allChars (hP : HoldsOfInk P) (items : List SubscriptItem)
    (h : ∀ part ∈ itemFormatParts items, part.Writes P) :
    ∀ text ∈ itemTexts items, AllChars P text := by
  cases items with
  | nil => exact List.forall_mem_nil _
  | cons item items =>
      obtain ⟨hitem, hitems⟩ := List.forall_mem_append.1 h
      exact List.forall_mem_cons.2 ⟨item.allChars_text hP hitem, itemTexts_allChars hP items hitems⟩
termination_by structural items

theorem Clause.allChars_text (hP : HoldsOfInk P) (c : Clause)
    (h : ∀ part ∈ c.formatParts, part.Writes P) : AllChars P c.text := by
  obtain ⟨isAsync, targets, iterator, filters⟩ := c
  obtain ⟨hiterator, hfilters⟩ := List.forall_mem_append.1 h
  have hword : AllChars P (if isAsync then "async for " else "for ") := by
    cases isAsync <;> exact hP.literal rfl
  have htests : AllChars P (String.join ((exprTexts filters).map (" if " ++ ·))) := by
    refine allChars_join fun text htext => ?_
    obtain ⟨test, htest, rfl⟩ := List.mem_map.1 htext
    exact hP.after rfl (exprTexts_allChars hP filters hfilters test htest)
  have htargets := allChars_append.2 ⟨hword, hP.names targets⟩
  exact allChars_append.2
    ⟨hP.separated htargets rfl (iterator.allChars_text hP hiterator), htests⟩
termination_by structural c

theorem clauseTexts_allChars (hP : HoldsOfInk P) (cs : List Clause)
    (h : ∀ part ∈ clauseFormatParts cs, part.Writes P) :
    ∀ text ∈ clauseTexts cs, AllChars P text := by
  cases cs with
  | nil => exact List.forall_mem_nil _
  | cons c cs =>
      obtain ⟨hc, hcs⟩ := List.forall_mem_append.1 h
      exact List.forall_mem_cons.2 ⟨c.allChars_text hP hc, clauseTexts_allChars hP cs hcs⟩
termination_by structural cs

theorem FormatPart.allChars_text (hP : HoldsOfInk P) (part : FormatPart)
    (h : ∀ inner ∈ part.formatParts, inner.Writes P) : AllChars P part.text := by
  cases part with
  | plain content => exact h (.plain content) List.mem_cons_self
  | field value conversion spec =>
      obtain ⟨hspec, hvalue⟩ := List.forall_mem_cons.1 h
      exact hP.field conversion (value.allChars_text hP hvalue) hspec
termination_by structural part

theorem partTexts_allChars (hP : HoldsOfInk P) (parts : List FormatPart)
    (h : ∀ part ∈ nestedFormatParts parts, part.Writes P) :
    ∀ text ∈ partTexts parts, AllChars P text := by
  cases parts with
  | nil => exact List.forall_mem_nil _
  | cons part parts =>
      obtain ⟨hpart, hparts⟩ := List.forall_mem_append.1 h
      exact List.forall_mem_cons.2
        ⟨part.allChars_text hP hpart, partTexts_allChars hP parts hparts⟩
termination_by structural parts

end

/-! ### Heads -/

/-- What the format strings of an expression write out has a property throughout. -/
def Expr.Writes (P : Char → Prop) (e : Expr) : Prop :=
  ∀ part ∈ e.formatParts, part.Writes P

theorem exprWrites_of_mem {es : List Expr} (h : ∀ part ∈ exprFormatParts es, part.Writes P) :
    ∀ e ∈ es, e.Writes P := by
  induction es with
  | nil => exact List.forall_mem_nil _
  | cons e es ih =>
      obtain ⟨he, hes⟩ := List.forall_mem_append.1 h
      exact List.forall_mem_cons.2 ⟨he, ih hes⟩

theorem Expr.Writes.targetText (hP : HoldsOfInk P) {e : Expr} (h : e.Writes P) :
    AllChars P e.targetText := by
  unfold Expr.targetText
  split
  case h_1 elements =>
    refine hP.bareTuple fun text htext => ?_
    obtain ⟨element, helement, rfl⟩ := List.mem_map.1 htext
    exact element.allChars_text hP (exprWrites_of_mem h element helement)
  case h_2 => exact e.allChars_text hP h

theorem HoldsOfInk.optionalText (hP : HoldsOfInk P) {lead : String}
    (hlead : (lead.toList.all fun c => !isControl c) = true) {e : Option Expr}
    (h : ∀ value ∈ e.toList, value.Writes P) : AllChars P (optionalText lead e) := by
  cases e with
  | none => exact allChars_empty
  | some value => exact hP.after hlead (value.allChars_text hP (h value (by simp)))

theorem HoldsOfInk.asyncText (hP : HoldsOfInk P) (isAsync : Bool) : AllChars P (asyncText isAsync) := by
  cases isAsync
  · exact allChars_empty
  · exact hP.literal rfl

theorem importNames_allChars (hP : HoldsOfInk P) {names : List ImportName}
    (h : ∀ e ∈ SimpleStmt.exprs (.imports names), e.Writes P) :
    AllChars P (commaSeparated (names.map ImportName.text)) := by
  refine hP.commaSeparated fun text htext => ?_
  obtain ⟨name, hname, rfl⟩ := List.mem_map.1 htext
  cases name with
  | star => exact hP.literal rfl
  | path source => exact hP.modulePath source
  | pathAlias source name => exact hP.separated (hP.modulePath source) rfl (hP.identifier name)
  | «alias» target name =>
      have htarget : target.Writes P :=
        h target (List.mem_flatMap.2 ⟨.alias target name, hname, List.mem_singleton_self target⟩)
      exact hP.separated (target.allChars_text hP htarget) rfl (hP.identifier name)

theorem SimpleStmt.allChars_text (hP : HoldsOfInk P) (statement : SimpleStmt)
    (h : ∀ e ∈ statement.exprs, e.Writes P) : AllChars P statement.text := by
  cases statement with
  | expression value => exact value.allChars_text hP (h value List.mem_cons_self)
  | assignment parts =>
      obtain ⟨target, declared, value⟩ := parts
      obtain ⟨htarget, h⟩ := List.forall_mem_cons.1 h
      obtain ⟨hdeclared, hvalue⟩ := List.forall_mem_append.1 h
      exact allChars_append.2 ⟨allChars_append.2 ⟨htarget.targetText hP,
        hP.optionalText rfl hdeclared⟩,
        hP.optionalText rfl hvalue⟩
  | returning value => exact hP.after rfl (hP.optionalText rfl h)
  | raising raised =>
      cases raised with
      | again => exact hP.literal rfl
      | exception value cause =>
          obtain ⟨hvalue, hcause⟩ := List.forall_mem_cons.1 h
          exact allChars_append.2
            ⟨hP.after rfl (value.allChars_text hP hvalue), hP.optionalText rfl hcause⟩
  | asserting test message =>
      obtain ⟨htest, hmessage⟩ := List.forall_mem_cons.1 h
      exact allChars_append.2
        ⟨hP.after rfl (test.allChars_text hP htest), hP.optionalText rfl hmessage⟩
  | deleting target => exact hP.after rfl ((h target List.mem_cons_self).targetText hP)
  | loneWord word => cases word <;> exact hP.literal rfl
  | globals names => exact hP.after rfl (hP.names names)
  | nonlocals names => exact hP.after rfl (hP.names names)
  | imports names => exact hP.after rfl (importNames_allChars hP h)
  | importsFrom source names =>
      exact hP.separated (hP.after rfl (hP.modulePath source)) rfl (importNames_allChars hP h)

theorem typeParamsText_allChars (hP : HoldsOfInk P) {params : List TypeParam}
    (h : ∀ e ∈ params.flatMap TypeParam.exprs, e.Writes P) : AllChars P (typeParamsText params) := by
  have hparam : ∀ text ∈ params.map TypeParam.text, AllChars P text := by
    intro text htext
    obtain ⟨param, hparam, rfl⟩ := List.mem_map.1 htext
    cases param with
    | type name bound =>
        exact allChars_append.2 ⟨hP.identifier name, hP.optionalText rfl fun e he => h e (List.mem_flatMap.2 ⟨_, hparam, he⟩)⟩
    | types name => exact hP.after rfl (hP.identifier name)
    | params name => exact hP.after rfl (hP.identifier name)
  unfold typeParamsText
  split
  · exact allChars_empty
  · exact hP.enclosed rfl (hP.commaSeparated hparam) rfl

theorem Param.allChars_text (hP : HoldsOfInk P) (param : Param)
    (h : ∀ e ∈ param.declared.toList ++ param.fallback.toList, e.Writes P) :
    AllChars P param.text := by
  obtain ⟨hdeclared, hfallback⟩ := List.forall_mem_append.1 h
  have hkind : AllChars P param.kind.text := by
    cases param.kind <;> exact hP.literal rfl
  exact allChars_append.2 ⟨allChars_append.2 ⟨allChars_append.2 ⟨hkind, hP.identifier param.name⟩,
    hP.optionalText rfl hdeclared⟩,
    hP.optionalText rfl hfallback⟩

theorem FunctionHeader.allChars_text (hP : HoldsOfInk P) (header : FunctionHeader)
    (h : ∀ e ∈ (Head.functionDef header).exprs, e.Writes P) : AllChars P header.text := by
  obtain ⟨h, hresult⟩ := List.forall_mem_append.1 h
  obtain ⟨htypes, hparams⟩ := List.forall_mem_append.1 h
  have hlist : AllChars P (commaSeparated (header.params.map Param.text)) := by
    refine hP.commaSeparated fun text htext => ?_
    obtain ⟨param, hparam, rfl⟩ := List.mem_map.1 htext
    exact param.allChars_text hP fun e he => hparams e (List.mem_flatMap.2 ⟨param, hparam, he⟩)
  have hname : AllChars P (asyncText header.isAsync ++ "def " ++ header.name.text) :=
    hP.separated (hP.asyncText header.isAsync) rfl (hP.identifier header.name)
  have hopened := allChars_append.2 ⟨hname, typeParamsText_allChars hP htypes⟩
  exact allChars_append.2
    ⟨hP.before (hP.separated hopened rfl hlist) rfl, hP.optionalText rfl hresult⟩

theorem ClassHeader.allChars_text (hP : HoldsOfInk P) (header : ClassHeader)
    (h : ∀ e ∈ (Head.classDef header).exprs, e.Writes P) : AllChars P header.text := by
  obtain ⟨h, hkeywords⟩ := List.forall_mem_append.1 h
  obtain ⟨htypes, hbases⟩ := List.forall_mem_append.1 h
  have harguments : ∀ text ∈ header.bases.map Expr.text ++ header.keywords.map KeywordArg.text,
      AllChars P text := by
    refine List.forall_mem_append.2 ⟨fun text htext => ?_, fun text htext => ?_⟩
    · obtain ⟨base, hbase, rfl⟩ := List.mem_map.1 htext
      exact base.allChars_text hP (hbases base hbase)
    · obtain ⟨⟨name, value⟩, hkeyword, rfl⟩ := List.mem_map.1 htext
      exact KeywordArg.allChars_text hP _ (hkeywords value (List.mem_map_of_mem hkeyword))
  have hlist : AllChars P (if (header.bases.map Expr.text ++
      header.keywords.map KeywordArg.text).isEmpty then "" else "(" ++
        commaSeparated (header.bases.map Expr.text ++ header.keywords.map KeywordArg.text) ++ ")") := by
    split
    · exact allChars_empty
    · exact hP.enclosed rfl (hP.commaSeparated harguments) rfl
  exact allChars_append.2 ⟨allChars_append.2
    ⟨hP.after rfl (hP.identifier header.name), typeParamsText_allChars hP htypes⟩, hlist⟩

/-- The characters of a head have a property of all ink that what the format strings of its expressions
write out has throughout. -/
theorem Head.allChars_text (hP : HoldsOfInk P) (head : Head)
    (h : ∀ e ∈ head.exprs, e.Writes P) : AllChars P head.text := by
  cases head with
  | simple statement => exact statement.allChars_text hP h
  | ifTest test => exact hP.after rfl (test.allChars_text hP (h test List.mem_cons_self))
  | elifTest test => exact hP.after rfl (test.allChars_text hP (h test List.mem_cons_self))
  | elseWord => exact hP.literal rfl
  | forLoop header =>
      obtain ⟨htarget, hiterable⟩ := List.forall_mem_cons.1 h
      have htarget := htarget.targetText hP
      have hiterable := header.iterable.allChars_text hP (List.forall_mem_singleton.1 hiterable)
      exact hP.separated (hP.separated (hP.asyncText header.isAsync) rfl htarget) rfl hiterable
  | whileTest test => exact hP.after rfl (test.allChars_text hP (h test List.mem_cons_self))
  | tryWord => exact hP.literal rfl
  | handler header =>
      obtain ⟨caught, name⟩ := header
      have hcaught : AllChars P caught.text := by
        cases caught with
        | anything => exact hP.literal rfl
        | type value => exact hP.after rfl (value.allChars_text hP (h value List.mem_cons_self))
        | group value => exact hP.after rfl (value.allChars_text hP (h value List.mem_cons_self))
      cases name with
      | none => exact hcaught
      | some name => exact hP.separated hcaught rfl (hP.identifier name)
  | finallyWord => exact hP.literal rfl
  | withBlock header =>
      refine hP.separated (hP.asyncText header.isAsync) rfl (hP.commaSeparated fun text htext => ?_)
      obtain ⟨item, hitem, rfl⟩ := List.mem_map.1 htext
      obtain ⟨hcontext, htarget⟩ := List.forall_mem_cons.1 fun e he =>
        h e (List.mem_flatMap.2 ⟨item, hitem, he⟩)
      exact allChars_append.2 ⟨item.context.allChars_text hP hcontext,
        hP.optionalText rfl htarget⟩
  | matchSubject subject =>
      exact hP.after rfl (subject.allChars_text hP (h subject List.mem_cons_self))
  | matchCase header =>
      obtain ⟨hpattern, hguard⟩ := List.forall_mem_cons.1 h
      exact allChars_append.2
        ⟨hP.after rfl (header.pattern.allChars_text hP hpattern), hP.optionalText rfl hguard⟩
  | decorator value => exact hP.after rfl (value.allChars_text hP (h value List.mem_cons_self))
  | functionDef header => exact header.allChars_text hP h
  | classDef header => exact header.allChars_text hP h

/-! ### Lines -/

theorem allChars_linesAll {depth : Nat} {os : List Outline}
    (h : ∀ o ∈ os, ∀ l ∈ o.lines depth, AllChars P l.text) :
    ∀ l ∈ Outline.linesAll depth os, AllChars P l.text := by
  induction os with
  | nil => exact List.forall_mem_nil _
  | cons o os ih =>
      obtain ⟨ho, hos⟩ := List.forall_mem_cons.1 h
      exact List.forall_mem_append.2 ⟨ho, ih hos⟩

theorem Outline.Built.allChars_lines (hP : HoldsOfInk P) {o : Outline}
    (h : o.Built fun _ text => AllChars P text) (depth : Nat) :
    ∀ l ∈ o.lines depth, AllChars P l.text := by
  induction h generalizing depth with
  | leaf htext => exact List.forall_mem_singleton.2 htext
  | @clause header hheader suite _ ih =>
      refine List.forall_mem_cons.2 ⟨hP.before hheader rfl, ?_⟩
      by_cases hempty : suite.isEmpty = true
      · have hpass : AllChars P "pass" := hP.literal rfl
        rw [if_pos hempty]
        exact List.forall_mem_singleton.2 hpass
      · rw [if_neg hempty]
        exact allChars_linesAll fun o ho => ih o ho (depth + 1)

/-- The characters of all lines of a statement have a property of all ink that what its format strings
write out has throughout. -/
theorem Stmt.allChars_lines (hP : HoldsOfInk P) (s : Stmt)
    (h : ∀ part ∈ s.formatParts, part.Writes P) : ∀ l ∈ s.lines, AllChars P l.text := by
  have hbuilt : ∀ o ∈ s.outline, o.Built fun _ text => AllChars P text :=
    s.built fun head hhead => head.allChars_text hP fun e he part hpart =>
      h part (List.mem_flatMap.2 ⟨head, hhead, List.mem_flatMap.2 ⟨e, he, hpart⟩⟩)
  exact allChars_linesAll fun o ho => (hbuilt o ho).allChars_lines hP 0

end Texts

end Unparse
