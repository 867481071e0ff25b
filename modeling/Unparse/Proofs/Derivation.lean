import Unparse.Proofs.OperatorForm
import Unparse.Proofs.Position

/-!
Derivations by the grammar that Python is read with. Its nonterminals are ordered by the rules in
which one of them stands alone for another; all other rules name the nonterminal of each of their
parts, and say nothing of levels or slots.
-/

namespace Unparse

/-! ### Nonterminals -/

/-- The nonterminals of expressions, the tightest first. -/
inductive Nonterminal where
  | atom
  | primary
  | awaitPrimary
  | power
  | factor
  | term
  | sum
  | shift
  | bitwiseAnd
  | bitwiseXor
  | bitwiseOr
  | comparison
  | inversion
  | conjunction
  | disjunction
  | expression
  | namedExpression
  deriving DecidableEq

namespace Nonterminal

/-- The nonterminal that may stand alone for another one; an atom is made of tokens only. -/
def alone? : Nonterminal → Option Nonterminal
  | .atom => none
  | .primary => some .atom
  | .awaitPrimary => some .primary
  | .power => some .awaitPrimary
  | .factor => some .power
  | .term => some .factor
  | .sum => some .term
  | .shift => some .sum
  | .bitwiseAnd => some .shift
  | .bitwiseXor => some .bitwiseAnd
  | .bitwiseOr => some .bitwiseXor
  | .comparison => some .bitwiseOr
  | .inversion => some .comparison
  | .conjunction => some .inversion
  | .disjunction => some .conjunction
  | .expression => some .disjunction
  | .namedExpression => some .expression

def rank : Nonterminal → Nat
  | .atom => 0
  | .primary => 1
  | .awaitPrimary => 2
  | .power => 3
  | .factor => 4
  | .term => 5
  | .sum => 6
  | .shift => 7
  | .bitwiseAnd => 8
  | .bitwiseXor => 9
  | .bitwiseOr => 10
  | .comparison => 11
  | .inversion => 12
  | .conjunction => 13
  | .disjunction => 14
  | .expression => 15
  | .namedExpression => 16

theorem rank_injective {n m : Nonterminal} (h : n.rank = m.rank) : n = m := by
  cases n <;> cases m <;> first | rfl | exact absurd h (by decide)

theorem exists_alone (n : Nonterminal) (h : 0 < n.rank) :
    ∃ inner, n.alone? = some inner ∧ inner.rank + 1 = n.rank := by
  cases n <;> first | exact ⟨_, rfl, rfl⟩ | exact absurd h (lt_irrefl _)

theorem rank_le_namedExpression (n : Nonterminal) : n.rank ≤ Nonterminal.namedExpression.rank := by
  cases n <;> decide

end Nonterminal

/-- The nonterminal that an operator before an operand makes, and the one of the operand. Signs and
`not` may be repeated; `await` may not. -/
def UnaryOp.rule? : UnaryOp → Option (Nonterminal × Nonterminal)
  | .await => some (.awaitPrimary, .primary)
  | .positive | .negative | .bitNot => some (.factor, .factor)
  | .boolNot => some (.inversion, .inversion)
  | .starred | .doubleStarred | .yield | .yieldFrom => none

/-- The nonterminal that an operator between two operands makes. -/
def BinaryOp.nonterminal : BinaryOp → Nonterminal
  | .pow => .power
  | .mul | .div | .floorDiv | .mod | .matMul => .term
  | .add | .sub => .sum
  | .shiftLeft | .shiftRight => .shift
  | .bitAnd => .bitwiseAnd
  | .bitXor => .bitwiseXor
  | .bitOr => .bitwiseOr
  | .member | .notMember | .same | .notSame | .less | .lessEqual | .greater | .greaterEqual
  | .equal | .notEqual => .comparison
  | .boolAnd => .conjunction
  | .boolOr => .disjunction

/-- The nonterminals of the operands. A rule that repeats an operator is read from the left, so its
left operand is what the rule itself makes. -/
def BinaryOp.parts : BinaryOp → Nonterminal × Nonterminal
  | .pow => (.awaitPrimary, .factor)
  | .mul | .div | .floorDiv | .mod | .matMul => (.term, .factor)
  | .add | .sub => (.sum, .term)
  | .shiftLeft | .shiftRight => (.shift, .sum)
  | .bitAnd => (.bitwiseAnd, .shift)
  | .bitXor => (.bitwiseXor, .bitwiseAnd)
  | .bitOr => (.bitwiseOr, .bitwiseXor)
  | .member | .notMember | .same | .notSame | .less | .lessEqual | .greater | .greaterEqual
  | .equal | .notEqual => (.bitwiseOr, .bitwiseOr)
  | .boolAnd => (.conjunction, .inversion)
  | .boolOr => (.disjunction, .conjunction)

/-! ### Derivations -/

/-- The tokens of an argument that is passed by name. -/
def argumentTokens (arg : Identifier × List Token × Expr) : List Token :=
  .name arg.1 :: .mark .equals :: arg.2.1

/-- Tokens are derived from a nonterminal, as an expression. -/
inductive Derives : Nonterminal → List Token → Expr → Prop where
  | alone {n inner : Nonterminal} {ts : List Token} {e : Expr} (halone : n.alone? = some inner)
    (hinner : Derives inner ts e) : Derives n ts e
  | name (name : Identifier) : Derives .atom [.name name] (.identifier name)
  | number {value : Int} (hsign : 0 ≤ value) : Derives .atom [.number value] (.literal (.int value))
  | negative {value : Int} (hsign : value < 0) :
    Derives .factor [.mark .minus, .number (-value)] (.literal (.int value))
  | group {ts : List Token} {e : Expr} (hinner : Derives .namedExpression ts e) :
    Derives .atom (.mark .openRound :: (ts ++ [.mark .closeRound])) (.wrapped e)
  | list (parts : List (List Token × Expr)) (hparts : ∀ p ∈ parts, Derives .namedExpression p.1 p.2) :
    Derives .atom (.mark .openSquare :: (commaTokens (parts.map Prod.fst) ++ [.mark .closeSquare]))
      (.display .list (parts.map Prod.snd))
  | tuple (parts : List (List Token × Expr))
    (hparts : ∀ p ∈ parts, Derives .namedExpression p.1 p.2) :
    Derives .atom (.mark .openRound :: (tupleTokens (parts.map Prod.fst) ++ [.mark .closeRound]))
      (.display .tuple (parts.map Prod.snd))
  | call {ts : List Token} {target : Expr} (htarget : Derives .primary ts target)
    (args : List (List Token × Expr)) (hargs : ∀ p ∈ args, Derives .namedExpression p.1 p.2)
    (named : List (Identifier × List Token × Expr))
    (hnamed : ∀ p ∈ named, Derives .expression p.2.1 p.2.2) :
    Derives .primary
      (ts ++ .mark .openRound ::
        (commaTokens (args.map Prod.fst ++ named.map argumentTokens) ++ [.mark .closeRound]))
      (.call target (args.map Prod.snd) (named.map fun p => ⟨p.1, p.2.2⟩))
  | access {ts : List Token} {target : Expr} (htarget : Derives .primary ts target)
    (name : Identifier) : Derives .primary (ts ++ [.mark .point, .name name]) (.attribute target name)
  | subscript {ts : List Token} {target : Expr} (htarget : Derives .primary ts target)
    (items : List (List Token × Expr)) (hne : items ≠ [])
    (hitems : ∀ p ∈ items, Derives .namedExpression p.1 p.2) :
    Derives .primary
      (ts ++ .mark .openSquare :: (commaTokens (items.map Prod.fst) ++ [.mark .closeSquare]))
      (.subscript target (items.map fun p => .index p.2))
  | prefixed {m : Mark} {op : UnaryOp} {n part : Nonterminal} {ts : List Token} {operand : Expr}
    (hop : m.prefixOp? = some op) (hrule : op.rule? = some (n, part))
    (hoperand : Derives part ts operand) : Derives n (.mark m :: ts) (.unary op operand)
  | infixed (op : BinaryOp) {ts ts' : List Token} {left right : Expr}
    (hleft : Derives op.parts.1 ts left) (hright : Derives op.parts.2 ts' right) :
    Derives op.nonterminal (ts ++ (op.marks.map .mark ++ ts')) (.binary op left right)
  | conditional {ts ts' ts'' : List Token} {body test orElse : Expr}
    (hbody : Derives .disjunction ts body) (htest : Derives .disjunction ts' test)
    (horElse : Derives .expression ts'' orElse) :
    Derives .expression (ts ++ .mark .ifWord :: (ts' ++ .mark .elseWord :: ts''))
      (.conditional body test orElse)
  | lambda (params : List Identifier) {ts : List Token} {body : Expr}
    (hbody : Derives .expression ts body) :
    Derives .expression
      (.mark .lambdaWord :: (commaTokens (params.map fun name => [.name name]) ++ .mark .colon :: ts))
      (.lambda params body)
  | named (target : Identifier) {ts : List Token} {value : Expr}
    (hvalue : Derives .expression ts value) :
    Derives .namedExpression (.name target :: .mark .becomes :: ts) (.named target value)

/-- What is derived from a nonterminal is derived from every looser one: nonterminals stand alone
for one another up to it. -/
theorem Derives.widen {n m : Nonterminal} {ts : List Token} {e : Expr} (h : Derives n ts e)
    (hrank : n.rank ≤ m.rank) : Derives m ts e := by
  induction hm : m.rank generalizing m with
  | zero =>
      have heq : n = m := Nonterminal.rank_injective (by omega)
      exact heq ▸ h
  | succ k ih =>
      by_cases heq : n.rank = m.rank
      · exact Nonterminal.rank_injective heq ▸ h
      · obtain ⟨inner, halone, hinner⟩ := m.exists_alone (by omega)
        exact .alone halone (ih (by omega) (by omega))

/-! ### Tokens of the grammar -/

/-- The grammar knows no signs of numbers: a minus sign that is glued to a number is a token of its
own. -/
def Token.unglue : Token → List Token
  | .number value => if value < 0 then [.mark .minus, .number (-value)] else [.number value]
  | token => [token]

/-- Tokens with the signs of numbers on their own. -/
def unglued (ts : List Token) : List Token :=
  ts.flatMap Token.unglue

@[simp] theorem unglued_nil : unglued [] = [] := rfl

@[simp] theorem unglued_append (ts us : List Token) : unglued (ts ++ us) = unglued ts ++ unglued us :=
  List.flatMap_append

@[simp] theorem unglued_mark_cons (m : Mark) (ts : List Token) :
    unglued (.mark m :: ts) = .mark m :: unglued ts := rfl

@[simp] theorem unglued_name_cons (name : Identifier) (ts : List Token) :
    unglued (.name name :: ts) = .name name :: unglued ts := rfl

@[simp] theorem unglued_marks (ms : List Mark) : unglued (ms.map .mark) = ms.map .mark := by
  induction ms with
  | nil => rfl
  | cons m ms ih => simp [ih]

theorem unglued_commaTokens (runs : List (List Token)) :
    unglued (commaTokens runs) = commaTokens (runs.map unglued) := by
  induction runs with
  | nil => rfl
  | cons run runs ih =>
      cases runs with
      | nil => simp
      | cons next runs =>
          simp only [commaTokens_cons_cons, List.map_cons, unglued_append, unglued_mark_cons] at ih ⊢
          rw [ih]

theorem unglued_tupleTokens (runs : List (List Token)) :
    unglued (tupleTokens runs) = tupleTokens (runs.map unglued) := by
  by_cases hone : runs.length = 1
  · obtain ⟨only, rfl⟩ := List.length_eq_one_iff.1 hone
    simp [tupleTokens]
  · rw [tupleTokens_eq hone, tupleTokens_eq (by simpa using hone), unglued_commaTokens]

/-- The tokens of a text as the grammar knows them. -/
def grammarTokens (text : String) : Option (List Token) :=
  (scan text).map unglued

/-! ### From levels to nonterminals -/

/-- The nonterminal that expressions of a level are derived from. -/
def Level.nonterminal : Level → Nonterminal
  | .atom => .atom
  | .call => .primary
  | .await => .awaitPrimary
  | .exponential => .power
  | .unary => .factor
  | .multiplicative => .term
  | .additive => .sum
  | .shift => .shift
  | .bitAnd => .bitwiseAnd
  | .bitXor => .bitwiseXor
  | .bitOr => .bitwiseOr
  | .comparative => .comparison
  | .boolNot => .inversion
  | .boolAnd => .conjunction
  | .boolOr => .disjunction
  | .conditional | .lambda => .expression
  | .namedExpr => .namedExpression

theorem Level.rank_nonterminal_le (l : Level) : l.nonterminal.rank ≤ l.rank := by
  cases l <;> decide

theorem Level.rank_nonterminal_le_expression {l : Level} (h : l.rank ≤ Level.lambda.rank) :
    l.nonterminal.rank ≤ Nonterminal.expression.rank := by
  cases l <;> first | decide | exact absurd h (by decide)

theorem BinaryOp.nonterminal_level (op : BinaryOp) : op.level.nonterminal = op.nonterminal := by
  cases op <;> rfl

theorem BinaryOp.leftLimit_eq (op : BinaryOp) : op.leftLimit = op.parts.1.rank + 1 := by
  cases op <;> rfl

theorem BinaryOp.rightLimit_le_parts (op : BinaryOp) : op.rightLimit ≤ op.parts.2.rank + 1 := by
  cases op <;> decide

theorem Literal.level_ne_await (value : Literal) : value.level ≠ .await := by
  unfold level
  split <;> first | (split <;> decide) | decide

/-- Nothing but `await` has its level. -/
theorem Expr.eq_await_of_level {e : Expr} (h : e.level = .await) :
    ∃ inner, e = .unary .await inner := by
  cases e with
  | unary op operand =>
      cases op with
      | await => exact ⟨operand, rfl⟩
      | _ => cases h
  | binary op left right => exact absurd h (UnaryOp.level_ne .await rfl op).symm
  | literal value => exact absurd h value.level_ne_await
  | _ => cases h

section Widen

variable {l : Level} {ts : List Token} {e : Expr}

theorem Derives.toPrimary (h : Derives l.nonterminal ts e) (hlevel : l.rank ≤ Level.call.rank) :
    Derives .primary ts e :=
  h.widen (l.rank_nonterminal_le.trans hlevel)

theorem Derives.toDisjunction (h : Derives l.nonterminal ts e)
    (hlevel : l.rank < Level.conditional.rank) : Derives .disjunction ts e :=
  h.widen (l.rank_nonterminal_le.trans (Nat.le_of_lt_succ hlevel))

theorem Derives.toExpression (h : Derives l.nonterminal ts e)
    (hlevel : l.rank ≤ Level.lambda.rank) : Derives .expression ts e :=
  h.widen (Level.rank_nonterminal_le_expression hlevel)

theorem Derives.toNamedExpression {n : Nonterminal} (h : Derives n ts e) :
    Derives .namedExpression ts e :=
  h.widen n.rank_le_namedExpression

end Widen

/-! ### Readings as derivations -/

/-- An `await` right under another one. -/
def Expr.nestsAwait : Expr → Bool
  | .unary .await (.unary .await _) => true
  | _ => false

/-- A subscript with nothing in its brackets. -/
def Expr.lacksIndex : Expr → Bool
  | .subscript _ [] => true
  | _ => false

/-- A node that the grammar has a rule for as it stands. -/
structure Expr.Regular (e : Expr) : Prop where
  nestsAwait_eq : e.nestsAwait = false
  lacksIndex_eq : e.lacksIndex = false
  isStandalone_eq : e.isStandalone = false

/-- A prefix has a rule of the grammar for its operand, unless it is an `await` under an `await`. -/
theorem UnaryOp.exists_rule {op : UnaryOp} (hop : op.isStandalone = false) {operand : Expr}
    (hlevel : operand.level.rank ≤ op.level.rank) (hregular : (Expr.unary op operand).Regular) :
    ∃ part, op.rule? = some (op.level.nonterminal, part) ∧
      operand.level.nonterminal.rank ≤ part.rank := by
  have hrank := operand.level.rank_nonterminal_le
  cases op with
  | await =>
      refine ⟨_, rfl, hrank.trans ?_⟩
      -- The slot is strict at the level of the word itself, so only regularity rules it out here.
      have hne : operand.level ≠ .await := by
        intro hawait
        obtain ⟨inner, rfl⟩ := Expr.eq_await_of_level hawait
        cases hregular.nestsAwait_eq
      have hne' : operand.level.rank ≠ Level.await.rank := fun h => hne (Level.rank_injective h)
      simp only [UnaryOp.level, Level.rank, Nonterminal.rank] at hlevel hne' ⊢
      omega
  | positive | negative | bitNot | boolNot => exact ⟨_, rfl, hrank.trans hlevel⟩
  | starred | doubleStarred | yield | yieldFrom => cases hop

/-- A phrase as the grammar knows it. -/
def Phrase.unglued (p : Phrase) : List Token × Expr :=
  (Unparse.unglued p.tokens, p.expr)

theorem derives_phrases {parts : List Phrase}
    (h : ∀ p ∈ parts, Derives p.level.nonterminal (unglued p.tokens) p.expr) :
    ∀ q ∈ parts.map Phrase.unglued, Derives .namedExpression q.1 q.2 := by
  intro q hq
  obtain ⟨p, hp, rfl⟩ := List.mem_map.1 hq
  exact (h p hp).toNamedExpression

/-- A named argument as the grammar knows it. -/
def unglueNamed (arg : Identifier × Phrase) : Identifier × List Token × Expr :=
  (arg.1, arg.2.unglued)

theorem map_fst_unglued (parts : List Phrase) :
    (parts.map Phrase.unglued).map Prod.fst = (parts.map Phrase.tokens).map unglued := by
  rw [List.map_map, List.map_map]
  rfl

theorem map_snd_unglued (parts : List Phrase) :
    (parts.map Phrase.unglued).map Prod.snd = parts.map Phrase.expr := by
  rw [List.map_map]
  rfl

theorem map_argumentTokens (named : List (Identifier × Phrase)) :
    (named.map unglueNamed).map argumentTokens = (named.map namedTokens).map unglued := by
  rw [List.map_map, List.map_map]
  rfl

theorem map_unglueNamed (named : List (Identifier × Phrase)) :
    (named.map unglueNamed).map (fun p => KeywordArg.mk p.1 p.2.2) = named.map namedArg := by
  rw [List.map_map]
  rfl

section Phrases

variable {parts : List Phrase}

theorem Derives.list_phrases
    (h : ∀ p ∈ parts, Derives p.level.nonterminal (unglued p.tokens) p.expr) :
    Derives .atom
      (unglued (.mark .openSquare :: (commaTokens (parts.map Phrase.tokens) ++ [.mark .closeSquare])))
      (.display .list (parts.map Phrase.expr)) := by
  have hlist := Derives.list _ (derives_phrases h)
  rw [map_fst_unglued, map_snd_unglued] at hlist
  simpa [unglued_commaTokens] using hlist

theorem Derives.tuple_phrases
    (h : ∀ p ∈ parts, Derives p.level.nonterminal (unglued p.tokens) p.expr) :
    Derives .atom
      (unglued (.mark .openRound :: (tupleTokens (parts.map Phrase.tokens) ++ [.mark .closeRound])))
      (.display .tuple (parts.map Phrase.expr)) := by
  have htuple := Derives.tuple _ (derives_phrases h)
  rw [map_fst_unglued, map_snd_unglued] at htuple
  simpa [unglued_tupleTokens] using htuple

/-- A call of phrases. A value that is passed by name is no named expression. -/
theorem Derives.call_phrases {ts : List Token} {target : Expr}
    (htarget : Derives .primary (unglued ts) target)
    (h : ∀ p ∈ parts, Derives p.level.nonterminal (unglued p.tokens) p.expr)
    {named : List (Identifier × Phrase)}
    (hnamed : ∀ p ∈ named, Derives .expression (unglued p.2.tokens) p.2.expr) :
    Derives .primary
      (unglued (ts ++ .mark .openRound ::
        (commaTokens (parts.map Phrase.tokens ++ named.map namedTokens) ++ [.mark .closeRound])))
      (.call target (parts.map Phrase.expr) (named.map namedArg)) := by
  have hcall := htarget.call _ (derives_phrases h) (named.map unglueNamed) (List.forall_mem_map.2 hnamed)
  rw [map_fst_unglued, map_snd_unglued, map_argumentTokens, map_unglueNamed] at hcall
  simpa [unglued_commaTokens] using hcall

/-- Phrases as the items of a subscript, which the grammar asks for at least one of. -/
theorem Derives.subscript_phrases {ts : List Token} {target : Expr}
    (htarget : Derives .primary (unglued ts) target) (hne : parts ≠ [])
    (h : ∀ p ∈ parts, Derives p.level.nonterminal (unglued p.tokens) p.expr) :
    Derives .primary
      (unglued (ts ++ .mark .openSquare ::
        (commaTokens (parts.map Phrase.tokens) ++ [.mark .closeSquare])))
      (.subscript target (parts.map fun p => .index p.expr)) := by
  have hsubscript := htarget.subscript (parts.map Phrase.unglued) (by simpa using hne)
    (derives_phrases h)
  rw [map_fst_unglued, List.map_map] at hsubscript
  simpa [unglued_commaTokens, Phrase.unglued, Function.comp_def] using hsubscript

end Phrases

/-- A reading is a derivation from the nonterminal of its level, if every node has a rule and fits
its slot. The induction is on the reading: in each rule the levels of the parts are within the
nonterminals that the grammar has there. -/
theorem Reads.derives {l : Level} {ts : List Token} {e : Expr} (h : Reads l ts e)
    (hregular : e.Regular) (hheld : ∀ q ∈ e.held, q.1.Fits q.2 ∧ q.2.Regular) :
    Derives l.nonterminal (unglued ts) e := by
  induction h with
  | identifier name => exact .name name
  | natural hsign =>
      have hnumber := Derives.number hsign
      simpa [unglued, Token.unglue, Level.nonterminal, Int.not_lt.2 hsign] using hnumber
  | negative hsign =>
      have hnumber := Derives.negative hsign
      simpa [unglued, Token.unglue, Level.nonterminal, hsign] using hnumber
  | group _ ih =>
      simp only [Expr.held, List.forall_mem_cons] at hheld
      obtain ⟨⟨-, hregular'⟩, hinner⟩ := hheld
      simpa [Level.nonterminal] using (ih hregular' hinner).toNamedExpression.group
  | list parts _ ih =>
      simp only [Expr.held, heldEach_eq_flatMap, List.forall_mem_flatMap, List.forall_mem_map,
        List.forall_mem_cons] at hheld
      exact .list_phrases fun p hp => ih p hp (hheld p hp).1.2 (hheld p hp).2
  | tuple parts _ ih =>
      simp only [Expr.held, heldEach_eq_flatMap, List.forall_mem_flatMap, List.forall_mem_map,
        List.forall_mem_cons] at hheld
      exact .tuple_phrases fun p hp => ih p hp (hheld p hp).1.2 (hheld p hp).2
  | call args named _ hlevel _ hreads ih ihargs ihnamed =>
      simp only [Expr.held, heldEach_eq_flatMap, heldKeywords_eq_flatMap, KeywordArg.held, namedArg,
        List.forall_mem_append, List.forall_mem_flatMap, List.forall_mem_map,
        List.forall_mem_cons] at hheld
      obtain ⟨⟨⟨⟨-, hregular'⟩, htarget⟩, hargs⟩, hnamed⟩ := hheld
      -- A reading takes any phrase after the name; that it is no named expression itself is known
      -- from the slot only.
      refine .call_phrases ((ih hregular' htarget).toPrimary hlevel)
        (fun p hp => ihargs p hp (hargs p hp).1.2 (hargs p hp).2) fun p hp => ?_
      obtain ⟨⟨hfits, hregular''⟩, hvalue⟩ := hnamed p hp
      have hadmits := Position.fits_part.1 hfits
      have hlevel'' := (hreads p hp).level_eq
      rw [Expr.readLevel_eq hregular''.isStandalone_eq] at hlevel''
      rw [Slot.admits, hregular''.isStandalone_eq, ← hlevel''] at hadmits
      exact (ihnamed p hp hregular'' hvalue).toExpression (Slot.rank_le_of_admitsLevel hadmits)
  | access name _ hlevel ih =>
      simp only [Expr.held, List.forall_mem_cons] at hheld
      obtain ⟨⟨-, hregular'⟩, htarget⟩ := hheld
      have htarget' := (ih hregular' htarget).toPrimary hlevel
      simpa [Level.nonterminal] using htarget'.access name
  | subscript items _ hlevel _ ih ihitems =>
      simp only [Expr.held, heldItems_eq_flatMap, SubscriptItem.held, List.forall_mem_append,
        List.forall_mem_flatMap, List.forall_mem_map, List.forall_mem_cons] at hheld
      obtain ⟨⟨⟨-, hregular'⟩, htarget⟩, hitems⟩ := hheld
      -- The text is read back without an index too, but the grammar asks for one.
      have hne : items ≠ [] := by
        rintro rfl
        cases hregular.lacksIndex_eq
      exact .subscript_phrases ((ih hregular' htarget).toPrimary hlevel) hne
        fun p hp => ihitems p hp (hitems p hp).1.2 (hitems p hp).2
  | prefixed hop hoperand hlevel ih =>
      simp only [Expr.held, List.forall_mem_cons] at hheld
      obtain ⟨⟨-, hregular'⟩, hoperand'⟩ := hheld
      rw [hoperand.level_eq, Expr.readLevel_eq hregular'.isStandalone_eq] at hlevel ih
      obtain ⟨part, hrule, hrank⟩ :=
        UnaryOp.exists_rule (Mark.isStandalone_of_prefixOp? hop) hlevel hregular
      exact .prefixed hop hrule ((ih hregular' hoperand').widen hrank)
  | standalone hop _ _ _ =>
      have hstands := hregular.isStandalone_eq
      rw [Expr.isStandalone, hop] at hstands
      cases hstands
  | @infixed op _ _ _ _ _ _ _ _ hlevel hlevel' ih ih' =>
      simp only [Expr.held, List.forall_mem_append, List.forall_mem_cons] at hheld
      obtain ⟨⟨⟨-, hregular'⟩, hleft⟩, ⟨-, hregular''⟩, hright⟩ := hheld
      have hrank := Level.rank_nonterminal_le
      have hlimit := op.rightLimit_le_parts
      rw [op.leftLimit_eq] at hlevel
      rw [op.nonterminal_level]
      have hleft' := (ih hregular' hleft).widen ((hrank _).trans (Nat.le_of_lt_succ hlevel))
      have hright' := (ih' hregular'' hright).widen
        ((hrank _).trans (Nat.le_of_lt_succ (hlevel'.trans_le hlimit)))
      simpa using hleft'.infixed op hright'
  | conditional _ _ _ hlevel hlevel' hlevel'' ih ih' ih'' =>
      simp only [Expr.held, List.forall_mem_append, List.forall_mem_cons] at hheld
      obtain ⟨⟨⟨⟨-, hregular⟩, hbody⟩, ⟨-, hregular'⟩, htest⟩, ⟨-, hregular''⟩, horElse⟩ := hheld
      have hbody' := (ih hregular hbody).toDisjunction hlevel
      have htest' := (ih' hregular' htest).toDisjunction hlevel'
      have horElse' := (ih'' hregular'' horElse).toExpression (hlevel''.le.trans (by decide))
      simpa [Level.nonterminal] using hbody'.conditional htest' horElse'
  | lambda params _ hlevel ih =>
      simp only [Expr.held, List.forall_mem_cons] at hheld
      obtain ⟨⟨-, hregular'⟩, hbody⟩ := hheld
      have hbody' := (ih hregular' hbody).toExpression hlevel
      simpa [unglued_commaTokens, Level.nonterminal, Function.comp_def] using hbody'.lambda params
  | named target _ hlevel ih =>
      simp only [Expr.held, List.forall_mem_cons] at hheld
      obtain ⟨⟨-, hregular'⟩, hvalue⟩ := hheld
      exact .named target ((ih hregular' hvalue).toExpression (Nat.le_of_lt_succ hlevel))

end Unparse
