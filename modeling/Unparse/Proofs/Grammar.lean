import Unparse.Expr.Basic
import Unparse.Proofs.Token

/-!
The grammar of operator expressions over tokens, one rule for each way to put an expression together.
Every rule says how loose each part may be by a bound on the rank of its level. The bounds come from
the tables of the operators alone, so the rules know nothing of the slots that place parentheses. A
standalone form is derived at the loosest level, so that it is bare only where anything may be.
-/

namespace Unparse

/-- The operator that a mark is in front of an operand. -/
def Mark.prefixOp? : Mark → Option UnaryOp
  | .awaitWord => some .await
  | .plus => some .positive
  | .minus => some .negative
  | .tilde => some .bitNot
  | .notWord => some .boolNot
  | _ => none

theorem Mark.isStandalone_of_prefixOp? {m : Mark} {op : UnaryOp} (h : m.prefixOp? = some op) :
    op.isStandalone = false := by
  cases m <;> cases op <;> first | rfl | exact absurd h (by decide)

theorem UnaryOp.await_le_level {op : UnaryOp} (h : op.isStandalone = false) :
    Level.await.rank ≤ op.level.rank := by
  cases op <;> first | decide | exact absurd h (by decide)

namespace UnaryOp

/-- The words or the sign of an operator that stands alone. -/
def standaloneMarks : UnaryOp → List Mark
  | .starred => [.star]
  | .doubleStarred => [.doubleStar]
  | .yield => [.yieldWord]
  | .yieldFrom => [.yieldWord, .fromWord]
  | .await | .positive | .negative | .bitNot | .boolNot => []

/-- The rank that operands stay below. -/
def operandLimit : UnaryOp → Nat
  | .starred => Level.bitOr.rank + 1
  | .doubleStarred | .yield | .yieldFrom => Level.namedExpr.rank
  | op => op.level.rank + 1

theorem operandLimit_eq {op : UnaryOp} (h : op.isStandalone = false) :
    op.operandLimit = op.level.rank + 1 := by
  cases op <;> first | rfl | exact absurd h (by decide)

theorem rank_level_lt_operandLimit (op : UnaryOp) : op.level.rank < op.operandLimit := by
  cases op <;> decide

theorem operandLimit_le (op : UnaryOp) : op.operandLimit ≤ Level.namedExpr.rank := by
  cases op <;> decide

end UnaryOp

namespace BinaryOp

/-- The rank that left operands stay below. -/
def leftLimit (op : BinaryOp) : Nat :=
  match op.associativity with
  | .left => op.level.rank + 1
  | .right | .chained => op.level.rank

/-- The rank that right operands stay below. -/
def rightLimit (op : BinaryOp) : Nat :=
  match op.associativity with
  | .right => op.level.rank + 1
  | .left | .chained => op.level.rank

theorem leftLimit_le (op : BinaryOp) : op.leftLimit ≤ op.level.rank + 1 := by
  cases op <;> decide

theorem rightLimit_le (op : BinaryOp) : op.rightLimit ≤ op.level.rank + 1 := by
  cases op <;> decide

theorem leftLimit_le_conditional (op : BinaryOp) : op.leftLimit ≤ Level.conditional.rank := by
  cases op <;> decide

theorem exponential_le_level (op : BinaryOp) : Level.exponential.rank ≤ op.level.rank := by
  cases op <;> decide

/-- Operators of one level group in the same way, so a left operand that may be of the level of its
operator has a right operand that may not. -/
theorem rightLimit_le_of_lt_leftLimit (op : BinaryOp) {op' : BinaryOp}
    (h : op'.level.rank < op.leftLimit) : op'.rightLimit ≤ op.level.rank := by
  by_cases hlevel : op'.level = op.level
  · have hassoc : op'.associativity = op.associativity := by simp only [associativity, hlevel]
    rw [leftLimit, hlevel] at h
    rw [rightLimit, hassoc, hlevel]
    revert h
    cases op.associativity with
    | left | chained => exact fun _ => le_rfl
    | right => exact fun h => absurd h (lt_irrefl _)
  · have hrank : op'.level.rank ≠ op.level.rank := fun hrank => hlevel (Level.rank_injective hrank)
    have hle := op.leftLimit_le
    have hle' := op'.rightLimit_le
    omega

end BinaryOp

/-- No level has both operators before an operand and operators between two. -/
theorem UnaryOp.level_ne (op : UnaryOp) (h : op.isStandalone = false) (op' : BinaryOp) :
    op.level ≠ op'.level := by
  have hprefixed : op.level ∈ [Level.await, .unary, .boolNot] := by
    cases op <;> first | decide | exact absurd h (by decide)
  have hbetween : op'.level ∉ [Level.await, .unary, .boolNot] := by
    cases op' <;> decide
  exact fun heq => hbetween (heq ▸ hprefixed)

def commaTokens (runs : List (List Token)) : List Token :=
  List.intercalate [.mark .comma] runs

@[simp] theorem commaTokens_nil : commaTokens [] = [] := rfl

@[simp] theorem commaTokens_singleton (run : List Token) : commaTokens [run] = run :=
  List.intercalate_singleton

theorem commaTokens_cons_cons (run next : List Token) (runs : List (List Token)) :
    commaTokens (run :: next :: runs) = run ++ .mark .comma :: commaTokens (next :: runs) := by
  rw [commaTokens, List.intercalate_cons_cons, List.append_assoc]
  rfl

/-- After the first run, each run has a comma before it. -/
theorem commaTokens_cons (run : List Token) (runs : List (List Token)) :
    commaTokens (run :: runs) = run ++ runs.flatMap (.mark .comma :: ·) := by
  induction runs generalizing run with
  | nil => simp
  | cons next runs ih =>
      rw [commaTokens_cons_cons, ih, List.flatMap_cons]
      rfl

/-- The tokens of the elements of a tuple; a lone element keeps a comma after it. -/
def tupleTokens : List (List Token) → List Token
  | [only] => only ++ [.mark .comma]
  | runs => commaTokens runs

theorem tupleTokens_eq {runs : List (List Token)} (h : runs.length ≠ 1) :
    tupleTokens runs = commaTokens runs := by
  match runs with
  | [] | _ :: _ :: _ => rfl
  | [_] => exact absurd rfl h

/-- Tokens together with what they are read as. -/
structure Phrase where
  level : Level
  tokens : List Token
  expr : Expr

/-- The tokens of an argument that is passed by name. -/
def namedTokens (arg : Identifier × Phrase) : List Token :=
  .name arg.1 :: .mark .equals :: arg.2.tokens

def namedArg (arg : Identifier × Phrase) : KeywordArg :=
  ⟨arg.1, arg.2.expr⟩

/-- Tokens are derived as an expression of exactly this level. -/
inductive Reads : Level → List Token → Expr → Prop where
  | identifier (name : Identifier) : Reads .atom [.name name] (.identifier name)
  | natural {value : Int} (hsign : 0 ≤ value) :
    Reads .atom [.number value] (.literal (.int value))
  | negative {value : Int} (hsign : value < 0) :
    Reads .unary [.number value] (.literal (.int value))
  | group {l : Level} {ts : List Token} {e : Expr} (hinner : Reads l ts e) :
    Reads .atom (.mark .openRound :: (ts ++ [.mark .closeRound])) (.wrapped e)
  | list (parts : List Phrase) (hparts : ∀ p ∈ parts, Reads p.level p.tokens p.expr) :
    Reads .atom
      (.mark .openSquare :: (commaTokens (parts.map Phrase.tokens) ++ [.mark .closeSquare]))
      (.display .list (parts.map Phrase.expr))
  | tuple (parts : List Phrase) (hparts : ∀ p ∈ parts, Reads p.level p.tokens p.expr) :
    Reads .atom
      (.mark .openRound :: (tupleTokens (parts.map Phrase.tokens) ++ [.mark .closeRound]))
      (.display .tuple (parts.map Phrase.expr))
  | call {l : Level} {ts : List Token} {target : Expr} (args : List Phrase)
    (named : List (Identifier × Phrase)) (htarget : Reads l ts target)
    (hlevel : l.rank ≤ Level.call.rank) (hargs : ∀ p ∈ args, Reads p.level p.tokens p.expr)
    (hnamed : ∀ p ∈ named, Reads p.2.level p.2.tokens p.2.expr) :
    Reads .call
      (ts ++ .mark .openRound ::
        (commaTokens (args.map Phrase.tokens ++ named.map namedTokens) ++ [.mark .closeRound]))
      (.call target (args.map Phrase.expr) (named.map namedArg))
  | access {l : Level} {ts : List Token} {target : Expr} (name : Identifier)
    (htarget : Reads l ts target) (hlevel : l.rank ≤ Level.call.rank) :
    Reads .call (ts ++ [.mark .point, .name name]) (.attribute target name)
  | subscript {l : Level} {ts : List Token} {target : Expr} (items : List Phrase)
    (htarget : Reads l ts target) (hlevel : l.rank ≤ Level.call.rank)
    (hitems : ∀ p ∈ items, Reads p.level p.tokens p.expr) :
    Reads .call
      (ts ++ .mark .openSquare :: (commaTokens (items.map Phrase.tokens) ++ [.mark .closeSquare]))
      (.subscript target (items.map fun p => .index p.expr))
  | prefixed {m : Mark} {op : UnaryOp} {l : Level} {ts : List Token} {operand : Expr}
    (hop : m.prefixOp? = some op) (hoperand : Reads l ts operand)
    (hlevel : l.rank ≤ op.level.rank) :
    Reads op.level (.mark m :: ts) (.unary op operand)
  | standalone {op : UnaryOp} {l : Level} {ts : List Token} {operand : Expr}
    (hop : op.isStandalone = true) (hoperand : Reads l ts operand)
    (hlevel : l.rank < op.operandLimit) :
    Reads .namedExpr (op.standaloneMarks.map .mark ++ ts) (.unary op operand)
  | infixed {op : BinaryOp} {l l' : Level} {ts ts' : List Token} {left right : Expr}
    (hleft : Reads l ts left) (hright : Reads l' ts' right) (hlevel : l.rank < op.leftLimit)
    (hlevel' : l'.rank < op.rightLimit) :
    Reads op.level (ts ++ (op.marks.map .mark ++ ts')) (.binary op left right)
  | conditional {l l' l'' : Level} {ts ts' ts'' : List Token} {body test orElse : Expr}
    (hbody : Reads l ts body) (htest : Reads l' ts' test) (horElse : Reads l'' ts'' orElse)
    (hlevel : l.rank < Level.conditional.rank) (hlevel' : l'.rank < Level.conditional.rank)
    (hlevel'' : l''.rank < Level.conditional.rank) :
    Reads .conditional (ts ++ .mark .ifWord :: (ts' ++ .mark .elseWord :: ts''))
      (.conditional body test orElse)
  | lambda (params : List Identifier) {l : Level} {ts : List Token} {body : Expr}
    (hbody : Reads l ts body) (hlevel : l.rank ≤ Level.lambda.rank) :
    Reads .lambda
      (.mark .lambdaWord :: (commaTokens (params.map fun name => [.name name]) ++ .mark .colon :: ts))
      (.lambda params body)
  | named (target : Identifier) {l : Level} {ts : List Token} {value : Expr}
    (hvalue : Reads l ts value) (hlevel : l.rank < Level.namedExpr.rank) :
    Reads .namedExpr (.name target :: .mark .becomes :: ts) (.named target value)

/-- The level that an expression is derived at. To the slots a standalone form is as tight as an atom;
to the grammar it is as loose as a named expression. -/
def Expr.readLevel (e : Expr) : Level :=
  if e.isStandalone then .namedExpr else e.level

theorem Expr.readLevel_eq {e : Expr} (h : e.isStandalone = false) : e.readLevel = e.level := by
  rw [readLevel, h]
  rfl

/-- What is tighter than a named expression is no standalone form. -/
theorem Expr.isStandalone_eq {e : Expr} (h : e.readLevel.rank < Level.namedExpr.rank) :
    e.isStandalone = false := by
  cases hstands : e.isStandalone with
  | false => rfl
  | true =>
      rw [readLevel, if_pos hstands] at h
      exact absurd h (Nat.lt_irrefl _)

namespace Reads

variable {l : Level} {ts : List Token} {e : Expr}

/-- The level of a derivation can be told from the expression. -/
theorem level_eq (h : Reads l ts e) : l = e.readLevel := by
  cases h with
  | natural hsign =>
      simp [Expr.readLevel, Expr.isStandalone, Expr.level, Literal.level, Int.not_lt.2 hsign]
  | negative hsign => simp [Expr.readLevel, Expr.isStandalone, Expr.level, Literal.level, hsign]
  | @prefixed _ op _ _ operand hop _ _ =>
      have hstands : (Expr.unary op operand).isStandalone = false := Mark.isStandalone_of_prefixOp? hop
      exact (Expr.readLevel_eq hstands).symm
  | standalone hop _ _ => exact (if_pos hop).symm
  | _ => rfl

theorem isStandalone_eq (h : Reads l ts e) (hlevel : l.rank < Level.namedExpr.rank) :
    e.isStandalone = false :=
  Expr.isStandalone_eq (h.level_eq ▸ hlevel)

end Reads

/-- The tokens that a standalone form begins with. -/
def Token.leads (t : Token) : Bool :=
  [Token.mark .star, .mark .doubleStar, .mark .yieldWord].contains t

/-- The tokens that an expression may begin with. -/
def Token.opens : Token → Bool
  | .name _ | .number _ => true
  | .mark m => m.prefixOp?.isSome || [Mark.openRound, .openSquare, .lambdaWord].contains m

theorem UnaryOp.exists_standaloneMarks {op : UnaryOp} (h : op.isStandalone = true) :
    ∃ m ms, op.standaloneMarks = m :: ms ∧ (Token.mark m).leads = true := by
  cases op <;> first | exact ⟨_, _, rfl, rfl⟩ | cases h

/-- An expression begins with a token that opens one, unless it is a standalone form, and with `not`
only if it is as loose as that. -/
theorem Reads.exists_cons {l : Level} {ts : List Token} {e : Expr} (h : Reads l ts e) :
    ∃ t more, ts = t :: more ∧ (t.opens = true ∨ t.leads = true ∧ e.isStandalone = true) ∧
      (l.rank < Level.boolNot.rank → t ≠ .mark .notWord) := by
  have htight {l : Level} {ts : List Token} {e : Expr} {t : Token} (h : Reads l ts e)
      (hlevel : l.rank < Level.namedExpr.rank)
      (hbegins : t.opens = true ∨ t.leads = true ∧ e.isStandalone = true) : t.opens = true := by
    rw [h.isStandalone_eq hlevel] at hbegins
    simpa using hbegins
  induction h with
  | identifier _ | natural _ | negative _ | group _ _ | list _ _ _ | tuple _ _ _ | lambda _ _ _ _
  | named _ _ _ _ => exact ⟨_, _, rfl, Or.inl rfl, by simp⟩
  | prefixed hop _ _ _ =>
      refine ⟨_, _, rfl, Or.inl (by simp [Token.opens, hop]), ?_⟩
      intro hlevel hnot
      cases hnot
      simp only [Mark.prefixOp?, Option.some.injEq] at hop
      subst hop
      exact absurd hlevel (by decide)
  | standalone hop _ _ _ =>
      obtain ⟨m, ms, hmarks, hleads⟩ := UnaryOp.exists_standaloneMarks hop
      exact ⟨.mark m, _, by rw [hmarks]; rfl, Or.inr ⟨hleads, hop⟩, fun hlt => absurd hlt (by decide)⟩
  | call _ _ h hlevel _ _ ih | access _ h hlevel ih | subscript _ h hlevel _ ih =>
      obtain ⟨t, more, rfl, hbegins, hnot⟩ := ih
      exact ⟨t, _, rfl, Or.inl (htight h (lt_of_le_of_lt hlevel (by decide)) hbegins),
        fun _ => hnot (lt_of_le_of_lt hlevel (by decide))⟩
  | @infixed op _ _ _ _ _ _ h _ hlevel _ ih _ =>
      obtain ⟨t, more, rfl, hbegins, hnot⟩ := ih
      have hlt := lt_of_lt_of_le hlevel op.leftLimit_le_conditional
      refine ⟨t, _, rfl, Or.inl (htight h (hlt.trans (by decide)) hbegins), fun hop => hnot ?_⟩
      exact lt_of_lt_of_le hlevel ((BinaryOp.leftLimit_le _).trans hop)
  | conditional h _ _ hlevel _ _ ih _ _ =>
      obtain ⟨t, more, rfl, hbegins, hnot⟩ := ih
      exact ⟨t, _, rfl, Or.inl (htight h (hlevel.trans (by decide)) hbegins),
        fun hop => absurd hop (by decide)⟩

theorem Reads.ne_nil {l : Level} {ts : List Token} {e : Expr} (h : Reads l ts e) : ts ≠ [] := by
  obtain ⟨t, more, rfl, -, -⟩ := h.exists_cons
  exact List.cons_ne_nil t more

end Unparse
