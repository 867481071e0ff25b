import Unparse.Expr.Build
import Unparse.Proofs.Reader
import Unparse.Proofs.Spelling

/-!
Operator expressions: what the builders make from names and integers. The slots of a builder refuse
just what the grammar does not derive in their place, so the text of an operator expression has the
expression as its one derivation.
-/

namespace Unparse

/-! ### Slots and limits -/

namespace Slot

/-- Content that stands bare in a slot is no looser than what the slot is made for. -/
theorem rank_le_of_admitsLevel {slot : Slot} {l : Level} (h : slot.admitsLevel l = true) :
    l.rank ≤ slot.level.rank := by
  rw [admitsLevel, Bool.or_eq_true, beq_iff_eq] at h
  rcases h with rfl | h
  · exact Nat.zero_le _
  · cases hmode : slot.mode <;> simp [hmode, WrapMode.needsWrap] at h <;> omega

/-- A non-strict slot refuses its own level, unless that is the tightest one. -/
theorem rank_lt_of_admitsLevel {slot : Slot} (hmode : slot.mode = .nonStrict)
    (hloose : 0 < slot.level.rank) {l : Level} (h : slot.admitsLevel l = true) :
    l.rank < slot.level.rank := by
  rw [admitsLevel, Bool.or_eq_true, beq_iff_eq] at h
  rcases h with rfl | h
  · exact hloose
  · simpa [hmode, WrapMode.needsWrap] using h

theorem rank_lt_leftLimit {op : BinaryOp} {l : Level} (h : (leftOperand op).admitsLevel l = true) :
    l.rank < op.leftLimit := by
  have hloose : 0 < op.level.rank := lt_of_lt_of_le (by decide) op.exponential_le_level
  rw [BinaryOp.leftLimit]
  cases hassoc : op.associativity with
  | left => exact Nat.lt_succ_of_le (rank_le_of_admitsLevel h)
  | right | chained =>
      have hmode : (leftOperand op).mode = .nonStrict := by simp only [mode, hassoc]
      exact rank_lt_of_admitsLevel hmode hloose h

theorem rank_lt_rightLimit {op : BinaryOp} {l : Level} (h : (rightOperand op).admitsLevel l = true) :
    l.rank < op.rightLimit := by
  have hloose : 0 < op.level.rank := lt_of_lt_of_le (by decide) op.exponential_le_level
  rw [BinaryOp.rightLimit]
  cases hassoc : op.associativity with
  | right => exact Nat.lt_succ_of_le (rank_le_of_admitsLevel h)
  | left | chained =>
      have hmode : (rightOperand op).mode = .nonStrict := by simp only [mode, hassoc]
      exact rank_lt_of_admitsLevel hmode hloose h

end Slot

/-! ### Readings -/

/-- The text of an expression spells tokens that the expression is derived from. -/
structure Reading (e : Expr) (tokens : List Token) : Prop where
  reads : Reads e.readLevel tokens e
  spelled : Spelled e.text.toList tokens
  head_ne : e.text.toList.head? ≠ some '='

theorem Reads.eq_int {l : Level} {ts : List Token} {value : Literal}
    (h : Reads l ts (.literal value)) : ∃ number, value = .int number := by
  cases h with
  | natural _ | negative _ => exact ⟨_, rfl⟩

/-- An expression at the level of a call ends in a number only if it is a literal. -/
theorem Reads.whole {l : Level} {ts : List Token} {e : Expr} (h : Reads l ts e)
    (hlevel : l.rank ≤ Level.call.rank) (hliteral : ∀ value, e ≠ .literal value) (cs : List Char) :
    Whole ts cs := by
  intro t ht hnumber
  cases h with
  | natural _ | negative _ => exact absurd rfl (hliteral _)
  | identifier _ | group _ | list _ _ | tuple _ _ | call _ _ _ _ _ _ | access _ _ _
  | subscript _ _ _ _ =>
      simp [List.getLast?_cons] at ht
      subst ht
      cases hnumber
  | @prefixed _ op _ _ _ hop _ _ =>
      have hawait := UnaryOp.await_le_level (Mark.isStandalone_of_prefixOp? hop)
      exact absurd (hawait.trans hlevel) (by decide)
  | @infixed op _ _ _ _ _ _ _ _ _ _ =>
      exact absurd (op.exponential_le_level.trans hlevel) (by decide)
  | standalone _ _ _ | lambda _ _ _ | named _ _ _ | conditional _ _ _ _ _ _ =>
      exact absurd hlevel (by decide)

theorem Reading.wrapped {e : Expr} {ts : List Token} (h : Reading e ts) :
    Reading (.wrapped e) (.mark .openRound :: (ts ++ [.mark .closeRound])) := by
  have hspelled := spelled_brackets [(e.text.toList, ts)] (by simpa using h.spelled)
    .openRound .closeRound rfl rfl (by decide) (by decide) (by decide)
  refine ⟨h.reads.group, ?_, by simp [Expr.text]⟩
  simpa [Expr.text, commaChars] using hspelled

/-- In a slot, a reading stays one, at a level that the slot admits. The slot that takes standalone forms
does not put them in parentheses, which would make them atoms. -/
theorem Reading.place {e : Expr} {ts : List Token} (h : Reading e ts) (slot : Slot)
    (halone : slot.admitsStandalone = false ∨ e.isStandalone = false) :
    ∃ ts', Reading (slot.place e) ts' ∧ slot.admitsLevel (slot.place e).readLevel = true := by
  by_cases hadmits : slot.admits e = true
  · have hlevel := hadmits
    have hstands : e.isStandalone = false := by
      rcases halone with halone | hstands
      · cases hstands : e.isStandalone with
        | false => rfl
        | true =>
            rw [Slot.admits, hstands, halone] at hadmits
            cases hadmits
      · exact hstands
    rw [Slot.admits, hstands] at hlevel
    rw [Slot.place_eq_self_iff.2 hadmits, Expr.readLevel_eq hstands]
    exact ⟨ts, h, hlevel⟩
  · have hwrapped : slot.place e = .wrapped e := if_neg hadmits
    rw [hwrapped]
    exact ⟨_, h.wrapped, rfl⟩

/-! ### Readings of lists -/

/-- Expressions with readings are phrases with the same expressions. -/
theorem exists_phrases (es : List Expr) (h : ∀ e ∈ es, ∃ ts, Reading e ts) :
    ∃ parts : List Phrase, parts.map Phrase.expr = es ∧
      ∀ p ∈ parts, p.level = p.expr.readLevel ∧ Reading p.expr p.tokens := by
  induction es with
  | nil => exact ⟨[], rfl, by simp⟩
  | cons e es ih =>
      obtain ⟨ts, hts⟩ := h e List.mem_cons_self
      obtain ⟨parts, hexprs, hparts⟩ := ih fun e he => h e (List.mem_cons_of_mem _ he)
      refine ⟨⟨e.readLevel, ts, e⟩ :: parts, by rw [List.map_cons, hexprs], fun p hp => ?_⟩
      rcases List.mem_cons.1 hp with rfl | hp
      · exact ⟨rfl, hts⟩
      · exact hparts p hp

/-- Named values with readings are phrases that make the same arguments. -/
theorem exists_namedPhrases (named : List (Identifier × Expr))
    (h : ∀ arg ∈ named, ∃ ts, Reading arg.2 ts) :
    ∃ parts : List (Identifier × Phrase),
      parts.map namedArg = named.map (fun arg => mkKeyword arg.1 arg.2) ∧
      ∀ p ∈ parts, p.2.level = p.2.expr.readLevel ∧ Reading p.2.expr p.2.tokens := by
  induction named with
  | nil => exact ⟨[], rfl, by simp⟩
  | cons arg named ih =>
      obtain ⟨ts, hts⟩ := h arg List.mem_cons_self
      obtain ⟨ts', hplaced, -⟩ := hts.place .keywordValue (Or.inl rfl)
      obtain ⟨parts, hargs, hparts⟩ := ih fun e he => h e (List.mem_cons_of_mem _ he)
      let value := Slot.keywordValue.place arg.2
      refine ⟨(arg.1, ⟨value.readLevel, ts', value⟩) :: parts, ?_, fun p hp => ?_⟩
      · rw [List.map_cons, List.map_cons, hargs]
        rfl
      · rcases List.mem_cons.1 hp with rfl | hp
        · exact ⟨rfl, hplaced⟩
        · exact hparts p hp

def phraseItems (parts : List Phrase) : List (List Char × List Token) :=
  parts.map fun p => (p.expr.text.toList, p.tokens)

theorem spelled_phraseItems {parts : List Phrase} (h : ∀ p ∈ parts, Reading p.expr p.tokens) :
    ∀ item ∈ phraseItems parts, Spelled item.1 item.2 := by
  intro item hitem
  obtain ⟨p, hp, rfl⟩ := List.mem_map.1 hitem
  exact (h p hp).spelled

def namedItems (named : List (Identifier × Phrase)) : List (List Char × List Token) :=
  named.map fun p => ((namedArg p).text.toList, namedTokens p)

theorem spelled_namedItems {named : List (Identifier × Phrase)}
    (h : ∀ p ∈ named, Reading p.2.expr p.2.tokens) :
    ∀ item ∈ namedItems named, Spelled item.1 item.2 := by
  intro item hitem
  obtain ⟨p, hp, rfl⟩ := List.mem_map.1 hitem
  have hvalue := h p hp
  have hspelled := hvalue.spelled.named hvalue.head_ne p.1
  simpa [namedArg, KeywordArg.text, namedTokens] using hspelled

theorem toList_phraseTexts (parts : List Phrase) :
    (exprTexts (parts.map Phrase.expr)).map String.toList = (phraseItems parts).map Prod.fst := by
  simp [phraseItems, exprTexts_eq_map]

theorem toList_namedTexts (named : List (Identifier × Phrase)) :
    (keywordTexts (named.map namedArg)).map String.toList = (namedItems named).map Prod.fst := by
  simp [namedItems, keywordTexts_eq_map]

theorem phraseItems_tokens (parts : List Phrase) :
    (phraseItems parts).map Prod.snd = parts.map Phrase.tokens := by
  simp [phraseItems]

theorem namedItems_tokens (named : List (Identifier × Phrase)) :
    (namedItems named).map Prod.snd = named.map namedTokens := by
  simp [namedItems]

theorem tupleElements_eq {texts : List String} (h : texts.length ≠ 1) :
    tupleElements texts = commaSeparated texts := by
  match texts with
  | [] | _ :: _ :: _ => rfl
  | [_] => exact absurd rfl h

/-- Positional and named arguments as phrases, and what stands in the parentheses around them. -/
structure ArgumentPhrases (args : List Expr) (keywords : List KeywordArg) (parts : List Phrase)
    (namedParts : List (Identifier × Phrase)) : Prop where
  exprs_eq : parts.map Phrase.expr = args
  keywords_eq : namedParts.map namedArg = keywords
  positional : ∀ p ∈ parts, Reads p.level p.tokens p.expr
  named : ∀ p ∈ namedParts, Reads p.2.level p.2.tokens p.2.expr
  spelled : Spelled
    ('(' :: ((commaSeparated (exprTexts args ++ keywordTexts keywords)).toList ++ [')']))
    (.mark .openRound :: (commaTokens (parts.map Phrase.tokens ++ namedParts.map namedTokens) ++
      [.mark .closeRound]))

theorem exists_arguments {args : List Expr} (hargs : ∀ e ∈ args, ∃ ts, Reading e ts)
    {named : List (Identifier × Expr)} (hnamed : ∀ arg ∈ named, ∃ ts, Reading arg.2 ts) :
    ∃ parts namedParts,
      ArgumentPhrases args (named.map fun arg => mkKeyword arg.1 arg.2) parts namedParts := by
  obtain ⟨parts, rfl, hparts⟩ := exists_phrases args hargs
  obtain ⟨namedParts, hnamedArgs, hnamedParts⟩ := exists_namedPhrases named hnamed
  have hitems : ∀ item ∈ phraseItems parts ++ namedItems namedParts, Spelled item.1 item.2 := by
    intro item hitem
    rcases List.mem_append.1 hitem with hitem | hitem
    · exact spelled_phraseItems (fun p hp => (hparts p hp).2) item hitem
    · exact spelled_namedItems (fun p hp => (hnamedParts p hp).2) item hitem
  have hround := spelled_brackets _ hitems .openRound .closeRound rfl rfl (by decide) (by decide)
    (by decide)
  rw [← hnamedArgs]
  refine ⟨parts, namedParts, rfl, rfl, fun p hp => (hparts p hp).1 ▸ (hparts p hp).2.reads,
    fun p hp => (hnamedParts p hp).1 ▸ (hnamedParts p hp).2.reads, ?_⟩
  simpa [toList_commaSeparated, toList_phraseTexts, toList_namedTexts, phraseItems_tokens,
    namedItems_tokens] using hround

/-! ### Operator expressions -/

/-- What is built from names and integers with operators, parentheses, attributes, calls, indices,
conditionals, lambdas, named expressions, lists and tuples. Operators that stand alone are among them
if `alone` holds. -/
inductive OperatorFormWith (alone : Prop) : Expr → Prop where
  | identifier (name : Identifier) : OperatorFormWith alone (.identifier name)
  | integer (value : Int) : OperatorFormWith alone (.literal (.int value))
  | binary (op : BinaryOp) {left right : Expr} (hleft : OperatorFormWith alone left)
    (hright : OperatorFormWith alone right) : OperatorFormWith alone (.mkBinary op left right)
  | unary {op : UnaryOp} (hop : op.isStandalone = true → alone) {operand : Expr}
    (hoperand : OperatorFormWith alone operand) : OperatorFormWith alone (.mkUnary op operand)
  | wrapped {inner : Expr} (hinner : OperatorFormWith alone inner) :
    OperatorFormWith alone (.wrapped inner)
  | access {target : Expr} (htarget : OperatorFormWith alone target) (name : Identifier) :
    OperatorFormWith alone (.mkAttribute target name)
  | call {target : Expr} (htarget : OperatorFormWith alone target) {args : List Expr}
    (hargs : ∀ e ∈ args, OperatorFormWith alone e) {named : List (Identifier × Expr)}
    (hnamed : ∀ arg ∈ named, OperatorFormWith alone arg.2) :
    OperatorFormWith alone (.mkCall target args (named.map fun arg => mkKeyword arg.1 arg.2))
  | subscript {target : Expr} (htarget : OperatorFormWith alone target) {items : List Expr}
    (hitems : ∀ e ∈ items, OperatorFormWith alone e) :
    OperatorFormWith alone (.mkSubscript target (items.map .index))
  | conditional {body test orElse : Expr} (hbody : OperatorFormWith alone body)
    (htest : OperatorFormWith alone test) (horElse : OperatorFormWith alone orElse) :
    OperatorFormWith alone (.mkConditional body test orElse)
  | lambda (params : List Identifier) {body : Expr} (hbody : OperatorFormWith alone body) :
    OperatorFormWith alone (.mkLambda params body)
  | named (target : Identifier) {value : Expr} (hvalue : OperatorFormWith alone value) :
    OperatorFormWith alone (.mkNamed target value)
  | list {elements : List Expr} (helements : ∀ e ∈ elements, OperatorFormWith alone e) :
    OperatorFormWith alone (.display .list elements)
  | tuple {elements : List Expr} (helements : ∀ e ∈ elements, OperatorFormWith alone e) :
    OperatorFormWith alone (.display .tuple elements)

/-- What is built so without operators that stand alone. -/
abbrev OperatorForm : Expr → Prop :=
  OperatorFormWith False

/-- What is built so with all operators. -/
abbrev AnyOperatorForm : Expr → Prop :=
  OperatorFormWith True

theorem Expr.exists_mkAttribute (target : Expr) (name : Identifier) :
    ∃ stored, mkAttribute target name = .attribute stored name := by
  unfold mkAttribute
  split
  · split <;> exact ⟨_, rfl⟩
  · exact ⟨_, rfl⟩

theorem OperatorForm.isStandalone_eq {e : Expr} (h : OperatorForm e) : e.isStandalone = false := by
  cases h with
  | unary hop _ => exact Bool.eq_false_iff.2 hop
  | @access target _ name =>
      obtain ⟨stored, heq⟩ := target.exists_mkAttribute name
      rw [heq]
      rfl
  | _ => rfl

namespace Reading

variable {e e' e'' : Expr} {ts ts' ts'' : List Token}

theorem identifier (name : Identifier) : Reading (.identifier name) [.name name] := by
  refine ⟨.identifier name, spelled_name name, fun hhead => ?_⟩
  have hword := name.isWordChar_of_mem.2 '=' (List.mem_of_mem_head? hhead)
  rw [isWordChar_sign '=' (by decide)] at hword
  cases hword

theorem integer (value : Int) : Reading (.literal (.int value)) [.number value] := by
  refine ⟨?_, spelled_number value, ?_⟩
  · rw [Expr.readLevel_eq rfl]
    by_cases hsign : value < 0
    · simpa [Expr.level, Literal.level, hsign] using Reads.negative hsign
    · simpa [Expr.level, Literal.level, hsign] using Reads.natural (Int.not_lt.1 hsign)
  · show (integerText value).toList.head? ≠ some '='
    rcases integerText_cases value with ⟨_, htext⟩ | ⟨_, htext⟩
    · rw [htext]
      intro hhead
      have hdigit := isDigit_of_mem_decimalDigits (List.mem_of_mem_head? hhead)
      exact absurd hdigit (by decide)
    · simp [htext]

theorem head?_append (h : Reading e ts) (cs : List Char) :
    (e.text.toList ++ cs).head? ≠ some '=' := by
  rw [List.head?_append_of_ne_nil _ h.spelled.ne_nil]
  exact h.head_ne

theorem binary (op : BinaryOp) (h : Reading e ts) (h' : Reading e' ts') :
    ∃ tokens, Reading (.mkBinary op e e') tokens := by
  obtain ⟨us, hleft, hlevel⟩ := h.place (.leftOperand op) (Or.inl rfl)
  obtain ⟨us', hright, hlevel'⟩ := h'.place (.rightOperand op) (Or.inl rfl)
  have hspelled := hleft.spelled.spaced ((spelled_binaryOp op).spaced hright.spelled)
  refine ⟨us ++ (op.marks.map Token.mark ++ us'),
    hleft.reads.infixed hright.reads (Slot.rank_lt_leftLimit hlevel) (Slot.rank_lt_rightLimit hlevel'),
    ?_, ?_⟩
  · simpa [Expr.mkBinary, Expr.text] using hspelled
  · simp only [Expr.mkBinary, Expr.text, String.toList_append, List.append_assoc]
    exact hleft.head?_append _

/-- The tokens of an operator, in front of those of an operand in its slot. -/
theorem exists_operatorTokens (op : UnaryOp) {operand : Expr} {us : List Token}
    (h : Reading operand us) (hlevel : operand.readLevel.rank ≤ op.level.rank) :
    ∃ tokens, Spelled op.text.toList tokens ∧
      Reads (Expr.unary op operand).readLevel (tokens ++ us) (.unary op operand) := by
  cases hop : op.isStandalone with
  | false =>
      obtain ⟨m, hprefix, htext⟩ := op.exists_mark hop
      have hread : (Expr.unary op operand).readLevel = op.level := Expr.readLevel_eq hop
      rw [hread, htext]
      exact ⟨[.mark m], spelled_mark m, h.reads.prefixed hprefix hlevel⟩
  | true =>
      have hread : (Expr.unary op operand).readLevel = .namedExpr := if_pos hop
      rw [hread]
      exact ⟨_, spelled_standaloneOp hop,
        h.reads.standalone hop (hlevel.trans_lt op.rank_level_lt_operandLimit)⟩

theorem unary (op : UnaryOp) (h : Reading e ts) : ∃ tokens, Reading (.mkUnary op e) tokens := by
  obtain ⟨us, hoperand, hlevel⟩ := h.place (.operand op) (Or.inl rfl)
  obtain ⟨tokens, hword, hreads⟩ :=
    exists_operatorTokens op hoperand (Slot.rank_le_of_admitsLevel hlevel)
  have hhead : op.text.toList.head? ≠ some '=' := by cases op <;> decide
  refine ⟨tokens ++ us, hreads, ?_, ?_⟩
  · simpa [Expr.mkUnary, Expr.text] using hword.spaced hoperand.spelled
  · simp only [Expr.mkUnary, Expr.text, String.toList_append, List.append_assoc]
    rw [List.head?_append_of_ne_nil _ hword.ne_nil]
    exact hhead

/-- The parts of an attribute as it is built: the target is a call at most, and bare digits are not
its last token. -/
theorem accessTarget (h : Reading e ts) (name : Identifier) :
    ∃ target us, Expr.mkAttribute e name = .attribute target name ∧ Reading target us ∧
      target.readLevel.rank ≤ Level.call.rank ∧ ∀ cs, Whole us cs := by
  by_cases hliteral : ∃ value, e = .literal value
  · obtain ⟨value, rfl⟩ := hliteral
    obtain ⟨number, rfl⟩ := h.reads.eq_int
    refine ⟨_, _, ?_, h.wrapped, Nat.zero_le _, h.wrapped.reads.whole (Nat.zero_le _) (by simp)⟩
    by_cases hsign : 0 ≤ number
    · simp [Expr.mkAttribute, Literal.isDigits, hsign]
    · have hrefused : Slot.attributeTarget.admits (.literal (.int number)) = false := by
        simp [Slot.admits, Expr.isStandalone, Expr.level, Literal.level, Int.not_le.1 hsign]
        decide
      simp [Expr.mkAttribute, Literal.isDigits, hsign, Slot.place, hrefused]
  · have hbuilt : Expr.mkAttribute e name = .attribute (Slot.attributeTarget.place e) name := by
      unfold Expr.mkAttribute
      split
      · exact absurd ⟨_, rfl⟩ hliteral
      · rfl
    obtain ⟨us, hread, hlevel⟩ := h.place .attributeTarget (Or.inl rfl)
    have hrank : _ ≤ Level.call.rank := Slot.rank_le_of_admitsLevel hlevel
    refine ⟨_, us, hbuilt, hread, hrank, hread.reads.whole hrank fun value hvalue => ?_⟩
    unfold Slot.place at hvalue
    split at hvalue
    · exact hliteral ⟨value, hvalue⟩
    · cases hvalue

theorem access (h : Reading e ts) (name : Identifier) :
    ∃ tokens, Reading (.mkAttribute e name) tokens := by
  obtain ⟨target, us, htarget, hread, hlevel, hwhole⟩ := h.accessTarget name
  have hpoint : Spelled ('.' :: name.text.toList) [.mark .point, .name name] :=
    (spelled_name name).after_lone (m := .point) rfl (by decide)
  have hspelled := hread.spelled.before_lone hpoint (by decide) (hwhole _)
  rw [htarget]
  refine ⟨_, hread.reads.access name hlevel, ?_, ?_⟩
  · simpa [Expr.text] using hspelled
  · simp only [Expr.text, String.toList_append, List.append_assoc]
    exact hread.head?_append _

theorem call (h : Reading e ts) {args : List Expr} (hargs : ∀ e ∈ args, ∃ ts, Reading e ts)
    {named : List (Identifier × Expr)} (hnamed : ∀ arg ∈ named, ∃ ts, Reading arg.2 ts) :
    ∃ tokens, Reading (.mkCall e args (named.map fun arg => mkKeyword arg.1 arg.2)) tokens := by
  obtain ⟨us, htarget, hlevel⟩ := h.place .callTarget (Or.inl rfl)
  obtain ⟨parts, namedParts, hround⟩ := exists_arguments hargs hnamed
  have hspelled := htarget.spelled.before_lone hround.spelled (by decide) (whole_of_head (by simp))
  have hreads := htarget.reads.call parts namedParts (Slot.rank_le_of_admitsLevel hlevel)
    hround.positional hround.named
  rw [hround.exprs_eq, hround.keywords_eq] at hreads
  refine ⟨_, hreads, ?_, ?_⟩
  · simpa [Expr.mkCall, Expr.text] using hspelled
  · simp only [Expr.mkCall, Expr.text, String.toList_append, List.append_assoc]
    exact htarget.head?_append _

theorem subscript (h : Reading e ts) {items : List Expr} (hitems : ∀ e ∈ items, ∃ ts, Reading e ts) :
    ∃ tokens, Reading (.mkSubscript e (items.map .index)) tokens := by
  obtain ⟨us, htarget, hlevel⟩ := h.place .subscriptTarget (Or.inl rfl)
  obtain ⟨parts, rfl, hparts⟩ := exists_phrases items hitems
  have hsquare := spelled_brackets _ (spelled_phraseItems fun p hp => (hparts p hp).2) .openSquare
    .closeSquare rfl rfl (by decide) (by decide) (by decide)
  have hspelled := htarget.spelled.before_lone hsquare (by decide) (whole_of_head (by simp))
  have htexts : (itemTexts ((parts.map Phrase.expr).map .index)).map String.toList =
      (phraseItems parts).map Prod.fst := by
    simp [phraseItems, itemTexts_eq_map, SubscriptItem.text]
  rw [List.map_map] at *
  refine ⟨_, htarget.reads.subscript parts (Slot.rank_le_of_admitsLevel hlevel)
    (fun p hp => (hparts p hp).1 ▸ (hparts p hp).2.reads), ?_, ?_⟩
  · simpa [Expr.mkSubscript, Expr.text, toList_commaSeparated, htexts, phraseItems_tokens]
      using hspelled
  · simp only [Expr.mkSubscript, Expr.text, String.toList_append, List.append_assoc]
    exact htarget.head?_append _

theorem conditional (h : Reading e ts) (h' : Reading e' ts') (h'' : Reading e'' ts'') :
    ∃ tokens, Reading (.mkConditional e e' e'') tokens := by
  obtain ⟨us, hbody, hlevel⟩ := h.place .conditionPart (Or.inl rfl)
  obtain ⟨us', htest, hlevel'⟩ := h'.place .conditionPart (Or.inl rfl)
  obtain ⟨us'', horElse, hlevel''⟩ := h''.place .conditionPart (Or.inl rfl)
  have hspelled := hbody.spelled.spaced ((spelled_mark .ifWord).spaced
    (htest.spelled.spaced ((spelled_mark .elseWord).spaced horElse.spelled)))
  have hloose {l : Level} (h : Slot.conditionPart.admitsLevel l = true) :
      l.rank < Level.conditional.rank :=
    Slot.rank_lt_of_admitsLevel rfl (by decide) h
  refine ⟨_, hbody.reads.conditional htest.reads horElse.reads (hloose hlevel) (hloose hlevel')
    (hloose hlevel''), ?_, ?_⟩
  · simpa [Expr.mkConditional, Expr.text, Mark.chars] using hspelled
  · simp only [Expr.mkConditional, Expr.text, String.toList_append, List.append_assoc]
    exact hbody.head?_append _

theorem lambda (params : List Identifier) (h : Reading e ts) :
    ∃ tokens, Reading (.mkLambda params e) tokens := by
  obtain ⟨us, hbody, hlevel⟩ := h.place .lambdaBody (Or.inl rfl)
  refine ⟨_, hbody.reads.lambda params (Slot.rank_le_of_admitsLevel hlevel), ?_, ?_⟩
  · cases params with
    | nil => simpa [Expr.mkLambda, Expr.text, lambdaHead, Mark.chars] using
        (spelled_mark .lambdaWord).colon hbody.spelled
    | cons first rest =>
        have hnames := spelled_names (List.cons_ne_nil first rest)
        have hspelled := ((spelled_mark .lambdaWord).spaced hnames).colon hbody.spelled
        simpa [Expr.mkLambda, Expr.text, lambdaHead, Mark.chars] using hspelled
  · cases params <;> simp [Expr.mkLambda, Expr.text, lambdaHead]

theorem named (target : Identifier) (h : Reading e ts) :
    ∃ tokens, Reading (.mkNamed target e) tokens := by
  obtain ⟨us, hvalue, hlevel⟩ := h.place .namedValue (Or.inl rfl)
  have hspelled := (spelled_name target).spaced ((spelled_mark .becomes).spaced hvalue.spelled)
  refine ⟨_, hvalue.reads.named target (Slot.rank_lt_of_admitsLevel rfl (by decide) hlevel), ?_, ?_⟩
  · simpa [Expr.mkNamed, Expr.text, Mark.chars] using hspelled
  · simp only [Expr.mkNamed, Expr.text, String.toList_append, List.append_assoc]
    exact (identifier target).head?_append _

theorem list {elements : List Expr} (helements : ∀ e ∈ elements, ∃ ts, Reading e ts) :
    ∃ tokens, Reading (.display .list elements) tokens := by
  obtain ⟨parts, rfl, hparts⟩ := exists_phrases elements helements
  have hsquare := spelled_brackets _ (spelled_phraseItems fun p hp => (hparts p hp).2) .openSquare
    .closeSquare rfl rfl (by decide) (by decide) (by decide)
  refine ⟨_, Reads.list parts (fun p hp => (hparts p hp).1 ▸ (hparts p hp).2.reads), ?_, ?_⟩
  · simpa [Expr.text, DisplayForm.text, toList_commaSeparated, toList_phraseTexts,
      phraseItems_tokens] using hsquare
  · simp [Expr.text, DisplayForm.text]

theorem tuple {elements : List Expr} (helements : ∀ e ∈ elements, ∃ ts, Reading e ts) :
    ∃ tokens, Reading (.display .tuple elements) tokens := by
  obtain ⟨parts, rfl, hparts⟩ := exists_phrases elements helements
  have hitems := spelled_phraseItems fun p hp => (hparts p hp).2
  refine ⟨_, Reads.tuple parts (fun p hp => (hparts p hp).1 ▸ (hparts p hp).2.reads), ?_, ?_⟩
  · by_cases hone : parts.length = 1
    · obtain ⟨only, rfl⟩ := List.length_eq_one_iff.1 hone
      have hclose := (spelled_mark .closeRound).after_lone (m := .comma) rfl (by decide)
      have hinner := (hparts only List.mem_cons_self).2.spelled.before_lone hclose (by decide)
        (whole_of_head (by simp))
      have hspelled := hinner.after_lone (m := .openRound) rfl (by decide)
      simpa [Expr.text, exprTexts, DisplayForm.text, tupleElements, tupleTokens, Mark.chars]
        using hspelled
    · have hround := spelled_brackets _ hitems .openRound .closeRound rfl rfl (by decide) (by decide)
        (by decide)
      have htexts : (exprTexts (parts.map Phrase.expr)).length ≠ 1 := by
        simpa [exprTexts_eq_map] using hone
      rw [tupleTokens_eq (by simpa using hone), Expr.text, DisplayForm.text, tupleElements_eq htexts]
      simpa [toList_commaSeparated, toList_phraseTexts, phraseItems_tokens] using hround
  · simp [Expr.text, DisplayForm.text]

end Reading

/-- Whatever the operators of an expression are, it has a reading. -/
theorem OperatorFormWith.exists_reading {alone : Prop} {e : Expr} (h : OperatorFormWith alone e) :
    ∃ ts, Reading e ts := by
  induction h with
  | identifier name => exact ⟨_, .identifier name⟩
  | integer value => exact ⟨_, .integer value⟩
  | binary op _ _ ihleft ihright =>
      obtain ⟨_, hleft⟩ := ihleft
      obtain ⟨_, hright⟩ := ihright
      exact hleft.binary op hright
  | unary _ _ ih =>
      obtain ⟨_, hoperand⟩ := ih
      exact hoperand.unary _
  | wrapped _ ih =>
      obtain ⟨_, hinner⟩ := ih
      exact ⟨_, hinner.wrapped⟩
  | access _ name ih =>
      obtain ⟨_, htarget⟩ := ih
      exact htarget.access name
  | call _ _ _ ih ihargs ihnamed =>
      obtain ⟨_, htarget⟩ := ih
      exact htarget.call ihargs ihnamed
  | subscript _ _ ih ihitems =>
      obtain ⟨_, htarget⟩ := ih
      exact htarget.subscript ihitems
  | conditional _ _ _ ihbody ihtest ihorElse =>
      obtain ⟨_, hbody⟩ := ihbody
      obtain ⟨_, htest⟩ := ihtest
      obtain ⟨_, horElse⟩ := ihorElse
      exact hbody.conditional htest horElse
  | lambda params _ ih =>
      obtain ⟨_, hbody⟩ := ih
      exact hbody.lambda params
  | named target _ ih =>
      obtain ⟨_, hvalue⟩ := ih
      exact hvalue.named target
  | list _ ih => exact Reading.list ih
  | tuple _ ih => exact Reading.tuple ih

/-- In a slot, an operator expression has a reading at a level that is no looser than the slot's. -/
theorem OperatorForm.exists_placed {e : Expr} (h : OperatorForm e) (slot : Slot) :
    ∃ ts, Reading (slot.place e) ts ∧ (slot.place e).readLevel.rank < slot.level.rank + 1 := by
  obtain ⟨ts, hread⟩ := h.exists_reading
  obtain ⟨ts', hplaced, hlevel⟩ := hread.place slot (Or.inr h.isStandalone_eq)
  exact ⟨ts', hplaced, Nat.lt_succ_of_le (Slot.rank_le_of_admitsLevel hlevel)⟩

/-- The text of an operator expression is a run of tokens that has exactly one derivation, and this is
the expression itself at its own level; hence no other operator expression has the same text. -/
theorem OperatorForm.reads_text_iff {e : Expr} (h : OperatorForm e) :
    (∃ tokens, scan e.text = some tokens ∧
      ∀ (l : Level) (f : Expr), Reads l tokens f ↔ l = e.level ∧ f = e) ∧
    ∀ f, OperatorForm f → f.text = e.text → f = e := by
  obtain ⟨tokens, hread⟩ := h.exists_reading
  have hreads : Reads e.level tokens e := Expr.readLevel_eq h.isStandalone_eq ▸ hread.reads
  have hscan : scan e.text = some tokens := hread.spelled.spells.scanChars_eq
  refine ⟨⟨tokens, hscan, fun l f => ⟨fun hother => hother.unique hreads, ?_⟩⟩, ?_⟩
  · rintro ⟨rfl, rfl⟩
    exact hreads
  · intro f hf htext
    obtain ⟨others, hother⟩ := hf.exists_reading
    have hscan' : scan f.text = some others := hother.spelled.spells.scanChars_eq
    rw [htext, hscan, Option.some.injEq] at hscan'
    subst hscan'
    exact (hother.reads.unique hread.reads).2

/-- An expression with a negation as an operand, digits as the target of an attribute, a lone element,
a negative number and a lambda that is called. -/
def mixedForm : Expr :=
  let a : Expr := .identifier ⟨"a", by decide⟩
  let member := Expr.mkBinary .notMember (.mkUnary .boolNot a)
    (.display .tuple [.mkAttribute (.literal (.int 1)) ⟨"real", by decide⟩])
  let applied := Expr.mkCall (.mkLambda [⟨"x", by decide⟩] a) [.mkUnary .negative (.literal (.int 1))]
    ([(⟨"k", by decide⟩, Expr.mkNamed ⟨"x", by decide⟩ a)].map fun arg => mkKeyword arg.1 arg.2)
  .mkConditional member (.mkBinary .sub a (.literal (.int (-1)))) applied

theorem operatorForm_mixedForm : OperatorForm mixedForm := by
  refine .conditional (.binary _ (.unary (by decide) (.identifier _)) (.tuple ?_))
    (.binary _ (.identifier _) (.integer _)) (.call (.lambda _ (.identifier _)) ?_ ?_)
  · simpa using OperatorFormWith.access (.integer 1) _
  · simpa using OperatorFormWith.unary (by decide) (.integer 1)
  · simpa using OperatorFormWith.named _ (.identifier _)

theorem mixedForm_reads_text_iff :
    mixedForm.text = "(not a) not in ((1).real,) if a - -1 else (lambda x: a)(- 1, k=(x := a))" ∧
    OperatorForm mixedForm ∧
    (∃ tokens, scan mixedForm.text = some tokens ∧
      ∀ (l : Level) (f : Expr), Reads l tokens f ↔ l = mixedForm.level ∧ f = mixedForm) ∧
    ∀ f, OperatorForm f → f.text = mixedForm.text → f = mixedForm :=
  ⟨by decide, operatorForm_mixedForm, OperatorForm.reads_text_iff operatorForm_mixedForm⟩

end Unparse
