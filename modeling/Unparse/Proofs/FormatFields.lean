import Unparse.Proofs.Construction
import Unparse.Proofs.FormatReader
import Unparse.Proofs.OperatorForm

/-!
Expressions in the fields of format strings. Whatever has a colon of its own, a lambda or a named
expression, is looser than the slot of a field, and everything else keeps its colons in brackets: so
a reader that counts brackets finds the end of the value.
-/

namespace Unparse

/-! ### Characters of values -/

theorem isWordChar_fieldMark : ∀ c ∈ ' ' :: fieldMarks, isWordChar c = false := by
  have hall : (' ' :: fieldMarks).all (fun c => !isWordChar c) = true := by
    decide +kernel
  intro c hc
  simpa using List.all_eq_true.1 hall c hc

theorem isFieldPlain_of_isWordChar {c : Char} (h : isWordChar c = true) : isFieldPlain c = true := by
  by_contra hplain
  simp only [isFieldPlain, Bool.not_eq_true', Bool.not_eq_false, List.contains_eq_mem,
    decide_eq_true_eq] at hplain
  rw [isWordChar_fieldMark c (List.mem_cons_of_mem _ hplain)] at h
  cases h

theorem ne_space_of_isWordChar {c : Char} (h : isWordChar c = true) : c ≠ ' ' := by
  rintro rfl
  rw [isWordChar_fieldMark ' ' List.mem_cons_self] at h
  cases h

/-- A text that begins, and not with a space. -/
def Begins (text : String) : Prop :=
  ∃ c cs, text.toList = c :: cs ∧ c ≠ ' '

theorem Begins.append {text : String} (h : Begins text) (more : String) : Begins (text ++ more) := by
  obtain ⟨c, cs, hcs, hc⟩ := h
  exact ⟨c, cs ++ more.toList, by rw [String.toList_append, hcs, List.cons_append], hc⟩

namespace Passes

variable {depth : Nat}

theorem appendText {text more : String} (h : Passes depth text.toList)
    (h' : Passes depth more.toList) : Passes depth (text ++ more).toList := by
  rw [String.toList_append]
  exact h.append h'

theorem of_isWordChar {cs : List Char} (h : ∀ c ∈ cs, isWordChar c = true) : Passes depth cs :=
  of_plain (List.all_eq_true.2 fun c hc => isFieldPlain_of_isWordChar (h c hc))

theorem name (name : Identifier) : Passes depth name.text.toList :=
  of_isWordChar name.isWordChar_of_mem.2

theorem integer (value : Int) : Passes depth (integerText value).toList := by
  have hdigits (n : Nat) : Passes depth (decimalDigits n) :=
    of_isWordChar fun c hc => isWordChar_of_isDigit (isDigit_of_mem_decimalDigits hc)
  rcases integerText_cases value with ⟨-, htext⟩ | ⟨-, htext⟩
  · rw [htext]
    exact hdigits _
  · rw [htext]
    have hminus : Passes depth ['-'] := of_plain (by decide)
    exact hminus.append (hdigits _)

theorem unaryOp (op : UnaryOp) : Passes depth op.text.toList := by
  apply of_plain
  cases op <;> decide

/-- The only operator with an exclamation mark has an equals sign after it. -/
theorem binaryOp (op : BinaryOp) : Passes depth op.text.toList := by
  by_cases hop : op = .notEqual
  · subst hop
    exact notEqual
  · apply of_plain
    cases op <;> first | decide | exact absurd rfl hop

theorem commaSeparated {texts : List String} (h : ∀ text ∈ texts, Passes depth text.toList) :
    Passes depth (commaSeparated texts).toList := by
  have hcomma : Passes depth [',', ' '] := of_plain (by decide)
  rw [toList_commaSeparated, commaChars]
  induction texts with
  | nil => exact nil
  | cons text texts ih =>
      obtain ⟨htext, htexts⟩ := List.forall_mem_cons.1 h
      cases texts with
      | nil => simpa using htext
      | cons next texts =>
          rw [List.map_cons, List.map_cons, List.intercalate_cons_cons]
          exact (htext.append hcomma).append (ih htexts)

theorem tupleElements {texts : List String} (h : ∀ text ∈ texts, Passes depth text.toList) :
    Passes depth (tupleElements texts).toList := by
  by_cases hone : texts.length = 1
  · obtain ⟨only, rfl⟩ := List.length_eq_one_iff.1 hone
    exact (h only List.mem_cons_self).appendText (of_plain (by decide))
  · rw [tupleElements_eq hone]
    exact commaSeparated h

theorem lambdaHead (params : List Identifier) : Passes depth (lambdaHead params).toList := by
  cases params with
  | nil => exact of_plain (by decide)
  | cons first rest =>
      refine appendText (of_plain (by decide)) (commaSeparated ?_)
      exact List.forall_mem_map.2 fun param _ => name param

/-- A display is in brackets, but for the empty set, which is a call. -/
theorem display (form : DisplayForm) {texts : List String}
    (h : ∀ text ∈ texts, Passes (depth + 1) text.toList) :
    Passes depth (form.text texts).toList := by
  have hcommas := commaSeparated h
  cases form with
  | list =>
      simpa [DisplayForm.text] using
        hcommas.bracketed (o := '[') (c := ']') (by decide) (by decide)
  | dict =>
      simpa [DisplayForm.text] using
        hcommas.bracketed (o := '\x7b') (c := '\x7d') (by decide) (by decide)
  | tuple =>
      simpa [DisplayForm.text] using
        (tupleElements h).bracketed (o := '(') (c := ')') (by decide) (by decide)
  | set =>
      cases texts with
      | nil =>
          have hword : Passes depth ['s', 'e', 't'] := of_plain (by decide)
          have hempty : Passes (depth + 1) [] := nil
          exact hword.append (hempty.bracketed (o := '(') (c := ')') (by decide) (by decide))
      | cons first rest =>
          simpa [DisplayForm.text] using
            hcommas.bracketed (o := '\x7b') (c := '\x7d') (by decide) (by decide)

end Passes

theorem begins_of_plain (text : String) {c : Char} {cs : List Char} (h : text.toList = c :: cs)
    (hc : c ≠ ' ') (more : String) : Begins (text ++ more) :=
  Begins.append ⟨c, cs, h, hc⟩ more

theorem Begins.display (form : DisplayForm) (texts : List String) : Begins (form.text texts) := by
  cases form with
  | set =>
      cases texts with
      | nil => exact ⟨'s', _, rfl, by decide⟩
      | cons _ _ => exact (begins_of_plain "\x7b" rfl (by decide) _).append _
  | list => exact (begins_of_plain "[" rfl (by decide) _).append _
  | dict => exact (begins_of_plain "\x7b" rfl (by decide) _).append _
  | tuple => exact (begins_of_plain "(" rfl (by decide) _).append _

/-! ### Values -/

/-- Inside brackets anything may stand, outside of them nothing looser than a conditional. -/
def Level.StandsAt (depth : Nat) (level : Level) : Prop :=
  0 < depth ∨ level.rank ≤ Level.conditional.rank

theorem Level.StandsAt.mono {depth : Nat} {l l' : Level} (h : l.StandsAt depth)
    (hle : l'.rank ≤ l.rank) : l'.StandsAt depth :=
  h.imp_right hle.trans

/-- A value that a reader goes over wherever its level may stand. -/
structure Readable (e : Expr) : Prop where
  begins : Begins e.text
  passes : ∀ depth, e.level.StandsAt depth → Passes depth e.text.toList

theorem Expr.level_of_isStandalone {e : Expr} (h : e.isStandalone = true) : e.level = .atom := by
  cases e with
  | unary op operand => cases op <;> first | rfl | cases h
  | _ => cases h

/-- What a slot holds is no looser than what the slot is made for. -/
theorem Slot.rank_level_place_le (slot : Slot) (e : Expr) :
    (slot.place e).level.rank ≤ slot.level.rank := by
  have hadmits := slot.admits_place e
  unfold admits at hadmits
  split at hadmits
  · next hstandalone =>
      rw [Expr.level_of_isStandalone hstandalone]
      exact Nat.zero_le _
  · exact rank_le_of_admitsLevel hadmits

namespace Readable

variable {e e' e'' : Expr} {depth : Nat}

theorem inside (h : Readable e) : Passes (depth + 1) e.text.toList :=
  h.passes _ (Or.inl (Nat.succ_pos depth))

theorem wrapped (h : Readable e) : Readable (.wrapped e) := by
  refine ⟨(begins_of_plain "(" rfl (by decide) _).append _, fun depth _ => ?_⟩
  simpa [Expr.text] using h.inside.bracketed (o := '(') (c := ')') (by decide) (by decide)

theorem stored (h : Readable e) {stored : Expr} (hstored : stored = e ∨ stored = .wrapped e) :
    Readable stored := by
  rcases hstored with rfl | rfl
  · exact h
  · exact h.wrapped

theorem place (h : Readable e) (slot : Slot) : Readable (slot.place e) :=
  h.stored (slot.place_eq e)

/-- In a slot a value goes over wherever the slot may stand. -/
theorem passes_place (h : Readable e) {slot : Slot} (hslot : slot.level.StandsAt depth) :
    Passes depth (slot.place e).text.toList :=
  (h.place slot).passes depth (hslot.mono (slot.rank_level_place_le e))

theorem identifier (name : Identifier) : Readable (.identifier name) := by
  refine ⟨?_, fun _ _ => Passes.name name⟩
  obtain ⟨hne, hword⟩ := name.isWordChar_of_mem
  obtain ⟨c, cs, hcs⟩ := List.exists_cons_of_ne_nil hne
  have hc := hword c (by rw [hcs]; exact List.mem_cons_self)
  exact ⟨c, cs, hcs, ne_space_of_isWordChar hc⟩

theorem integer (value : Int) : Readable (.literal (.int value)) := by
  refine ⟨?_, fun _ _ => Passes.integer value⟩
  rcases integerText_cases value with ⟨-, htext⟩ | ⟨-, htext⟩
  · obtain ⟨c, cs, hcs⟩ := List.exists_cons_of_ne_nil (decimalDigits_ne_nil value.toNat)
    have hdigit : c.isDigit = true := isDigit_of_mem_decimalDigits (hcs ▸ List.mem_cons_self)
    exact ⟨c, cs, htext.trans hcs, ne_space_of_isWordChar (isWordChar_of_isDigit hdigit)⟩
  · exact ⟨_, _, htext, by decide⟩

theorem unary (op : UnaryOp) (h : Readable e) : Readable (.mkUnary op e) := by
  constructor
  · have hop : Begins op.text := by cases op <;> exact ⟨_, _, rfl, by decide⟩
    exact (hop.append _).append _
  · intro depth hdepth
    have hspace : Passes depth " ".toList := .of_plain (by decide)
    exact ((Passes.unaryOp op).appendText hspace).appendText (h.passes_place hdepth)

theorem binary (op : BinaryOp) (h : Readable e) (h' : Readable e') :
    Readable (.mkBinary op e e') := by
  constructor
  · exact ((((h.place _).begins.append _).append _).append _).append _
  · intro depth hdepth
    have hspace : Passes depth " ".toList := .of_plain (by decide)
    exact ((((h.passes_place hdepth).appendText hspace).appendText (.binaryOp op)).appendText
      hspace).appendText (h'.passes_place hdepth)

theorem access (h : Readable e) (name : Identifier) : Readable (.mkAttribute e name) := by
  obtain ⟨stored, heq, hstored, hadmits⟩ := Expr.exists_mkAttribute_eq e name
  rw [heq]
  have hread := h.stored hstored
  refine ⟨(hread.begins.append _).append _, fun depth hdepth => ?_⟩
  have hplaced := Slot.rank_level_place_le .attributeTarget stored
  rw [Slot.place_eq_self_iff.2 hadmits] at hplaced
  exact ((hread.passes depth (hdepth.mono hplaced)).appendText (.of_plain (by decide))).appendText
    (.name name)

theorem call (h : Readable e) {args : List Expr} (hargs : ∀ arg ∈ args, Readable arg)
    {keywords : List KeywordArg} (hkeywords : ∀ k ∈ keywords, Readable k.value) :
    Readable (.mkCall e args (keywords.map KeywordArg.placed)) := by
  refine ⟨(((h.place _).begins.append _).append _).append _, fun depth hdepth => ?_⟩
  have htexts : ∀ text ∈ exprTexts args ++ keywordTexts (keywords.map KeywordArg.placed),
      Passes (depth + 1) text.toList := by
    rw [exprTexts_eq_map, keywordTexts_eq_map, List.map_map]
    refine List.forall_mem_append.2 ⟨List.forall_mem_map.2 fun arg harg => (hargs arg harg).inside,
      List.forall_mem_map.2 fun k hk => ?_⟩
    exact ((Passes.name k.name).appendText (.of_plain (by decide))).appendText
      ((hkeywords k hk).place .keywordValue).inside
  have hround := (Passes.commaSeparated htexts).bracketed (o := '(') (c := ')') (by decide)
    (by decide)
  have htarget : Passes depth (Slot.callTarget.place e).text.toList := h.passes_place hdepth
  have hcall := htarget.append hround
  simpa [Expr.mkCall, Expr.text] using hcall

theorem conditional (h : Readable e) (h' : Readable e') (h'' : Readable e'') :
    Readable (.mkConditional e e' e'') := by
  constructor
  · exact ((((h.place _).begins.append _).append _).append _).append _
  · intro depth hdepth
    have hif : Passes depth " if ".toList := .of_plain (by decide)
    have helse : Passes depth " else ".toList := .of_plain (by decide)
    have hpart {x : Expr} (hx : Readable x) :
        Passes depth (Slot.conditionPart.place x).text.toList := hx.passes_place hdepth
    exact ((((hpart h).appendText hif).appendText (hpart h')).appendText helse).appendText (hpart h'')

/-- A lambda stands inside brackets only, where its colon means nothing. -/
theorem lambda (params : List Identifier) (h : Readable e) : Readable (.mkLambda params e) := by
  constructor
  · refine (Begins.append ?_ _).append _
    cases params with
    | nil => exact ⟨_, _, rfl, by decide⟩
    | cons _ _ => exact begins_of_plain "lambda " rfl (by decide) _
  · intro depth hdepth
    obtain _ | depth := depth
    · exact absurd hdepth (by simp [Level.StandsAt, Expr.mkLambda, Expr.level, Level.rank])
    · have hcolon : Passes (depth + 1) ": ".toList := Passes.colon.append (.of_plain (by decide))
      exact ((Passes.lambdaHead params).appendText hcolon).appendText (h.place _).inside

/-- A named expression stands inside brackets only, too. -/
theorem named (target : Identifier) (h : Readable e) : Readable (.mkNamed target e) := by
  constructor
  · exact ((identifier target).begins.append _).append _
  · intro depth hdepth
    obtain _ | depth := depth
    · exact absurd hdepth (by simp [Level.StandsAt, Expr.mkNamed, Expr.level, Level.rank])
    · have hspace : Passes (depth + 1) [' '] := .of_plain (by decide)
      have hequals : Passes (depth + 1) ['=', ' '] := .of_plain (by decide)
      have hbecomes : Passes (depth + 1) " := ".toList := (hspace.append Passes.colon).append hequals
      exact ((Passes.name target).appendText hbecomes).appendText (h.place _).inside

/-- The items of a subscript may leave out bounds, and a bound that is left out is no text at all.
-/
theorem subscript (h : Readable e) {items : List SubscriptItem}
    (hitems : ∀ item ∈ items, ∀ part ∈ item.exprs, part = .empty ∨ Readable part) :
    Readable (.mkSubscript e (items.map SubscriptItem.placed)) := by
  refine ⟨(((h.place _).begins.append _).append _).append _, fun depth hdepth => ?_⟩
  have hpart {part : Expr} (hpart : part = .empty ∨ Readable part) :
      Passes (depth + 1) part.text.toList ∧
        Passes (depth + 1) (Slot.slicePart.place part).text.toList := by
    rcases hpart with rfl | hpart
    · exact ⟨.nil, .nil⟩
    · exact ⟨hpart.inside, (hpart.place _).inside⟩
  have hcolon : Passes (depth + 1) ":".toList := .colon
  have htexts : ∀ text ∈ itemTexts (items.map SubscriptItem.placed),
      Passes (depth + 1) text.toList := by
    rw [itemTexts_eq_map, List.map_map]
    refine List.forall_mem_map.2 fun item hitem => ?_
    have hparts := hitems item hitem
    cases item with
    | index value => exact (hpart (hparts value List.mem_cons_self)).1
    | slice lower upper =>
        simp only [SubscriptItem.exprs, List.forall_mem_cons] at hparts
        obtain ⟨hlower, hupper, -⟩ := hparts
        exact ((hpart hlower).2.appendText hcolon).appendText (hpart hupper).2
    | stride lower upper step =>
        simp only [SubscriptItem.exprs, List.forall_mem_cons] at hparts
        obtain ⟨hlower, hupper, hstep, -⟩ := hparts
        exact ((((hpart hlower).2.appendText hcolon).appendText (hpart hupper).2).appendText
          hcolon).appendText (hpart hstep).2
  have hsquare := (Passes.commaSeparated htexts).bracketed (o := '[') (c := ']') (by decide)
    (by decide)
  have htarget : Passes depth (Slot.subscriptTarget.place e).text.toList := h.passes_place hdepth
  have hsubscript := htarget.append hsquare
  simpa [Expr.mkSubscript, Expr.text] using hsubscript

/-- A display needs of its elements only that they go over inside brackets. -/
theorem display (form : DisplayForm) {elements : List Expr}
    (helements : ∀ e ∈ elements, ∀ depth, Passes (depth + 1) e.text.toList) :
    Readable (.display form elements) := by
  refine ⟨.display form _, fun depth _ => ?_⟩
  apply Passes.display
  rw [exprTexts_eq_map]
  exact List.forall_mem_map.2 fun e he => helements e he depth

end Readable

/-! ### Expressions of fields -/

/-- What an expression is to the one around it: a value, an entry of a dictionary, which may be a
pair too, or a part of a subscript item, which may be left out. -/
inductive FieldRole where
  | value
  | entry
  | bound

/-- What is built from names and integers with operators, calls, attributes, subscripts and slices,
conditionals, lambdas, named expressions and displays, with pairs in dictionaries only. -/
inductive FieldForm : FieldRole → Expr → Prop where
  | identifier (name : Identifier) : FieldForm .value (.identifier name)
  | integer (value : Int) : FieldForm .value (.literal (.int value))
  | unary (op : UnaryOp) {operand : Expr} (hoperand : FieldForm .value operand) :
    FieldForm .value (.mkUnary op operand)
  | binary (op : BinaryOp) {left right : Expr} (hleft : FieldForm .value left)
    (hright : FieldForm .value right) : FieldForm .value (.mkBinary op left right)
  | wrapped {inner : Expr} (hinner : FieldForm .value inner) : FieldForm .value (.wrapped inner)
  | access {target : Expr} (htarget : FieldForm .value target) (name : Identifier) :
    FieldForm .value (.mkAttribute target name)
  | call {target : Expr} (htarget : FieldForm .value target) {args : List Expr}
    (hargs : ∀ arg ∈ args, FieldForm .value arg) {keywords : List KeywordArg}
    (hkeywords : ∀ k ∈ keywords, FieldForm .value k.value) :
    FieldForm .value (.mkCall target args (keywords.map KeywordArg.placed))
  | subscript {target : Expr} (htarget : FieldForm .value target) {items : List SubscriptItem}
    (hitems : ∀ item ∈ items, ∀ part ∈ item.exprs, FieldForm .bound part) :
    FieldForm .value (.mkSubscript target (items.map SubscriptItem.placed))
  | conditional {body test orElse : Expr} (hbody : FieldForm .value body)
    (htest : FieldForm .value test) (horElse : FieldForm .value orElse) :
    FieldForm .value (.mkConditional body test orElse)
  | lambda (params : List Identifier) {body : Expr} (hbody : FieldForm .value body) :
    FieldForm .value (.mkLambda params body)
  | named (target : Identifier) {value : Expr} (hvalue : FieldForm .value value) :
    FieldForm .value (.mkNamed target value)
  | display (form : DisplayForm) {elements : List Expr}
    (helements : ∀ e ∈ elements, FieldForm (if form = .dict then .entry else .value) e) :
    FieldForm .value (.display form elements)
  | pair {key value : Expr} (hkey : FieldForm .value key) (hvalue : FieldForm .value value) :
    FieldForm .entry (.mkPair key value)
  | entry {e : Expr} (he : FieldForm .value e) : FieldForm .entry e
  | bound {e : Expr} (he : FieldForm .value e) : FieldForm .bound e
  | missing : FieldForm .bound .empty

/-- What a reader of fields can do with an expression in a role. -/
def FieldRole.Reads : FieldRole → Expr → Prop
  | .value, e => Readable e
  | .entry, e => ∀ depth, Passes (depth + 1) e.text.toList
  | .bound, e => e = .empty ∨ Readable e

/-- The induction is on how the expression was built; only a value is ever put into a slot. -/
theorem FieldForm.reads {role : FieldRole} {e : Expr} (h : FieldForm role e) : role.Reads e := by
  induction h with
  | identifier name => exact Readable.identifier name
  | integer value => exact Readable.integer value
  | unary op _ ih => exact Readable.unary op ih
  | binary op _ _ ihleft ihright => exact Readable.binary op ihleft ihright
  | wrapped _ ih => exact Readable.wrapped ih
  | access _ name ih => exact Readable.access ih name
  | call _ _ _ ih ihargs ihkeywords => exact Readable.call ih ihargs ihkeywords
  | subscript _ _ ih ihitems => exact Readable.subscript ih ihitems
  | conditional _ _ _ ihbody ihtest ihorElse => exact Readable.conditional ihbody ihtest ihorElse
  | lambda params _ ih => exact Readable.lambda params ih
  | named target _ ih => exact Readable.named target ih
  | display form _ ih =>
      apply Readable.display
      intro e he depth
      have hread := ih e he
      split at hread
      · exact hread depth
      · exact Readable.inside hread
  | pair _ _ ihkey ihvalue =>
      intro depth
      have hcolon : Passes (depth + 1) ": ".toList := Passes.colon.append (.of_plain (by decide))
      exact ((Readable.place ihkey _).inside.appendText hcolon).appendText
        (Readable.place ihvalue _).inside
  | entry _ ih => exact fun depth => Readable.inside ih
  | bound _ ih => exact Or.inr ih
  | missing => exact Or.inl rfl

/-! ### Format strings -/

/-- A part of a format string that a reader finds again: any text, or a field with such a value and
a specification without braces, quotes, backslashes and line breaks. -/
def FormatPart.Findable : FormatPart → Prop
  | .plain _ => True
  | .field value _ spec => FieldForm .value value ∧ ∀ c ∈ spec.toList, c ∉ specStops

def FormatPart.piece : FormatPart → Piece
  | .plain content => .text content.toList
  | .field value conversion spec => .field value.text.toList conversion spec.toList

theorem readText_part {part : FormatPart} (h : part.Findable) (pieces : List Piece)
    (rest after : List Char) (hrest : readText rest = some (normalForm pieces, after)) :
    readText (part.placed.text.toList ++ rest) =
      some (normalForm (part.placed.piece :: pieces), after) := by
  cases part with
  | plain content =>
      show readText ((formatText content).toList ++ rest) = _
      rw [readText_formatText, hrest]
      rfl
  | field value conversion spec =>
      obtain ⟨hvalue, hspec⟩ := h
      have hread : Readable (Slot.formatValue.place value) := Readable.place hvalue.reads _
      obtain ⟨c, cs, hcs, hc⟩ := hread.begins
      have hpasses : Passes 0 (Slot.formatValue.place value).text.toList :=
        Readable.passes_place hvalue.reads (Or.inr (by decide))
      show readText ((fieldText _ conversion spec).toList ++ rest) = _
      rw [readText_fieldText hcs hc hpasses conversion hspec, hrest]
      rfl

theorem readText_parts {parts : List FormatPart} (h : ∀ part ∈ parts, part.Findable)
    (rest : List Char) :
    readText ((String.join (partTexts (parts.map FormatPart.placed))).toList ++ '\x22' :: rest) =
      some (normalForm ((parts.map FormatPart.placed).map FormatPart.piece), rest) := by
  induction parts with
  | nil => exact readText_quote rest
  | cons part parts ih =>
      obtain ⟨hpart, hparts⟩ := List.forall_mem_cons.1 h
      have hread := readText_part hpart _ _ rest (ih hparts)
      rw [List.map_cons, partTexts, String.join_cons, String.toList_append, List.append_assoc, hread]
      rfl

/-- A format string is read back part by part, up to neighbouring texts and empty ones, and the
reader stops at its last quote: each field has the text of its value as it is stored, its conversion
and its specification. What follows must not make the quote the first of three. -/
theorem readFormat_text {parts : List FormatPart} (h : ∀ part ∈ parts, part.Findable)
    {rest : List Char} (hrest : rest.head? ≠ some '\x22') :
    readFormat ((Expr.formatString (parts.map FormatPart.placed)).text.toList ++ rest) =
      some (normalForm ((parts.map FormatPart.placed).map FormatPart.piece), rest) := by
  have hread := readText_parts h rest
  have htext : (Expr.formatString (parts.map FormatPart.placed)).text.toList ++ rest =
      'f' :: '\x22' ::
        ((String.join (partTexts (parts.map FormatPart.placed))).toList ++ '\x22' :: rest) := by
    simp [Expr.text]
  rw [htext, readFormat.eq_def]
  split
  · next heq =>
      -- Two more quotes: the first one would end the string, and the second one would follow it.
      simp only [List.cons.injEq, true_and] at heq
      rw [heq] at hread
      rw [readText_quote, Option.some.injEq, Prod.mk.injEq] at hread
      rw [← hread.2] at hrest
      exact absurd rfl hrest
  · next heq =>
      simp only [List.cons.injEq, true_and] at heq
      rw [← heq]
      exact hread
  · next hother => exact absurd rfl (hother _)

/-- A name between two braces, a set, a comparison that ends in front of a conversion, and a lambda
with a slice in it. -/
def crowdedParts : List FormatPart :=
  let one : Expr := .literal (.int 1)
  let slice := Expr.mkSubscript sampleExpr ([.slice one .empty].map SubscriptItem.placed)
  [.plain "\x7b", .field sampleExpr .none "", .plain "", .plain "\x7d\x22",
    .field (.display .set [one]) .none "", .field (.mkBinary .notEqual sampleExpr one) .repr ">9",
    .field (.mkLambda [] slice) .none ""]

theorem findable_crowdedParts : ∀ part ∈ crowdedParts, part.Findable := by
  have hx : FieldForm .value sampleExpr := .identifier _
  have hone : FieldForm .value (.literal (.int 1)) := .integer 1
  have hnone : ∀ c ∈ "".toList, c ∉ specStops := by simp
  have hwidth : ∀ c ∈ ">9".toList, c ∉ specStops := by simp [specStops]
  simp only [crowdedParts, List.forall_mem_cons]
  refine ⟨trivial, ⟨hx, hnone⟩, trivial, trivial, ⟨.display .set ?_, hnone⟩,
    ⟨.binary _ hx hone, hwidth⟩, ⟨.lambda [] (.subscript hx ?_), hnone⟩, by simp⟩
  · simpa using hone
  · simpa [SubscriptItem.exprs] using ⟨FieldForm.bound hone, FieldForm.missing⟩

theorem crowdedParts_readFormat_text :
    (Expr.formatString (crowdedParts.map FormatPart.placed)).text =
      "f\x22\x7b\x7b\x7bx\x7d\x7d\x7d\\\x22" ++
        "\x7b \x7b1\x7d\x7d\x7bx != 1!r:>9\x7d\x7b(lambda: x[1:])\x7d\x22" ∧
    (∀ part ∈ crowdedParts, part.Findable) ∧ [].head? ≠ some '\x22' ∧
    readFormat ((Expr.formatString (crowdedParts.map FormatPart.placed)).text.toList ++ []) =
      some ([.text ['\x7b'], .field ['x'] .none [], .text ['\x7d', '\x22'],
        .field ['\x7b', '1', '\x7d'] .none [], .field "x != 1".toList .repr ">9".toList,
        .field "(lambda: x[1:])".toList .none []], []) :=
  ⟨by decide, findable_crowdedParts, by decide, readFormat_text findable_crowdedParts (by decide)⟩

end Unparse
