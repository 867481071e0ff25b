import Unparse.Proofs.Grammar

/-!
A reader of operator expressions: it takes tokens from the left, one expression at a time, and goes on
with an operand as long as the next token binds more tightly than the limit it was given. Whatever the
grammar derives, the reader gives back, so no token run is derived as two expressions.
-/

namespace Unparse

/-! ### Reading -/

/-- The operator between two operands that tokens begin with, and the tokens after it. -/
def operator? : List Token → Option (BinaryOp × List Token)
  | .mark .notWord :: .mark .inWord :: rest => some (.notMember, rest)
  | .mark .isWord :: .mark .notWord :: rest => some (.notSame, rest)
  | .mark m :: rest => (BinaryOp.all.find? fun op => op.marks == [m]).map fun op => (op, rest)
  | _ => none

/-- The rank of the level at which tokens go on with an operand before them; tokens that do not go on
with one have a rank beyond all levels. -/
def followRank (tokens : List Token) : Nat :=
  match tokens with
  | .mark .openRound :: _ | .mark .openSquare :: _ | .mark .point :: _ => Level.call.rank
  | .mark .ifWord :: _ => Level.conditional.rank
  | .mark .becomes :: _ => Level.namedExpr.rank
  | _ =>
    match operator? tokens with
    | some (op, _) => op.level.rank
    | none => Level.namedExpr.rank + 1

/-- The tokens after a mark that has to come first. -/
def expect (m : Mark) : List Token → Option (List Token)
  | .mark m' :: rest => if m' = m then some rest else none
  | _ => none

theorem expect_cons (m : Mark) (rest : List Token) : expect m (.mark m :: rest) = some rest :=
  if_pos rfl

/-- The standalone operator that tokens begin with, and the tokens after it. -/
def standalone? : List Token → Option (UnaryOp × List Token)
  | .mark .star :: rest => some (.starred, rest)
  | .mark .doubleStar :: rest => some (.doubleStarred, rest)
  | .mark .yieldWord :: .mark .fromWord :: rest => some (.yieldFrom, rest)
  | .mark .yieldWord :: rest => some (.yield, rest)
  | _ => none

/-- The names up to a colon, with commas between them, and the tokens after the colon. -/
def readNames : List Token → Option (List Identifier × List Token)
  | .mark .colon :: rest => some ([], rest)
  | .name name :: .mark .colon :: rest => some ([name], rest)
  | .name name :: .mark .comma :: rest => (readNames rest).map fun read => (name :: read.1, read.2)
  | _ => none

/-- What stands between brackets: positional arguments, then named ones, and whether a comma follows
the last of them. -/
structure Arguments where
  positional : List Expr
  named : List KeywordArg
  hasComma : Bool

namespace Arguments

/-- Another argument in front; a positional one does not stand before a named one. -/
def add (args : Arguments) : Expr ⊕ KeywordArg → Option Arguments
  | .inl value => some { args with positional := value :: args.positional }
  | .inr arg =>
    if args.positional.isEmpty then some { args with named := arg :: args.named } else none

/-- The expressions of a list or of an index: positional throughout and with no comma at the end. -/
def elements? : Arguments → Option (List Expr)
  | ⟨positional, [], false⟩ => some positional
  | _ => none

/-- What parentheses around arguments are: a lone expression in parentheses, or a tuple. -/
def enclosed? : Arguments → Option Expr
  | ⟨[e], [], false⟩ => some (.wrapped e)
  | ⟨[e], [], true⟩ => some (.display .tuple [e])
  | ⟨positional, [], false⟩ => some (.display .tuple positional)
  | _ => none

end Arguments

/-- Whether a bracket is closed at once. -/
def closes : List Token → Bool
  | .mark .closeRound :: _ | .mark .closeSquare :: _ => true
  | _ => false

/-- An expression as an argument: a name before an equals sign passes the value after the sign. -/
def readArg (readValue : List Token → Option (Expr × List Token)) :
    Expr → List Token → Option ((Expr ⊕ KeywordArg) × List Token)
  | .identifier name, .mark .equals :: rest =>
    (readValue rest).map fun read => (.inr ⟨name, read.1⟩, read.2)
  | e, rest => some (.inl e, rest)

/-- The arguments after one of them. -/
def readOthers (read : List Token → Option (Arguments × List Token)) :
    List Token → Option (Arguments × List Token)
  | .mark .comma :: rest => if closes rest then some (⟨[], [], true⟩, rest) else read rest
  | rest => some (⟨[], [], false⟩, rest)

mutual

/-- An expression whose rank is below the limit, and the tokens after it. -/
def readExpr : Nat → Nat → List Token → Option (Expr × List Token)
  | 0, _, _ => none
  | fuel + 1, limit, tokens => do
    let (e, rest) ← readHead fuel limit tokens
    extend fuel limit e rest

/-- The shortest expression that tokens begin with. -/
def readHead : Nat → Nat → List Token → Option (Expr × List Token)
  | 0, _, _ => none
  | fuel + 1, limit, tokens =>
    match tokens with
    | [] => none
    | .name name :: rest => some (.identifier name, rest)
    | .number value :: rest =>
      if value < 0 ∧ limit ≤ Level.unary.rank then none else some (.literal (.int value), rest)
    | .mark .openRound :: rest => do
      let (args, rest) ← readArgs fuel rest
      let e ← args.enclosed?
      let rest ← expect .closeRound rest
      return (e, rest)
    | .mark .openSquare :: rest => do
      let (args, rest) ← readArgs fuel rest
      let elements ← args.elements?
      let rest ← expect .closeSquare rest
      return (.display .list elements, rest)
    | .mark .lambdaWord :: rest =>
      if limit ≤ Level.lambda.rank then none
      else do
        let (params, rest) ← readNames rest
        let (body, rest) ← readExpr fuel (Level.lambda.rank + 1) rest
        return (.lambda params body, rest)
    | .mark m :: rest =>
      match m.prefixOp? with
      | some op =>
        if limit ≤ op.level.rank then none
        else do
          let (operand, rest) ← readExpr fuel op.operandLimit rest
          return (.unary op operand, rest)
      | none =>
        match standalone? (.mark m :: rest) with
        | none => none
        | some (op, rest) =>
          if limit ≤ Level.namedExpr.rank then none
          else do
            let (operand, rest) ← readExpr fuel op.operandLimit rest
            return (.unary op operand, rest)

/-- An expression with all that goes on with it below the limit. -/
def extend : Nat → Nat → Expr → List Token → Option (Expr × List Token)
  | 0, _, _, _ => none
  | fuel + 1, limit, e, tokens =>
    if limit ≤ followRank tokens then some (e, tokens)
    else do
      let (e, rest) ← readTail fuel e tokens
      extend fuel limit e rest

/-- An expression with the one thing that goes on with it. -/
def readTail : Nat → Expr → List Token → Option (Expr × List Token)
  | 0, _, _ => none
  | fuel + 1, e, tokens =>
    match tokens with
    | .mark .openRound :: rest =>
      if Level.call.rank < e.readLevel.rank then none
      else do
        let (args, rest) ← readArgs fuel rest
        let rest ← expect .closeRound rest
        if args.hasComma then none else return (.call e args.positional args.named, rest)
    | .mark .openSquare :: rest =>
      if Level.call.rank < e.readLevel.rank then none
      else do
        let (args, rest) ← readArgs fuel rest
        let items ← args.elements?
        let rest ← expect .closeSquare rest
        return (.subscript e (items.map .index), rest)
    | .mark .point :: .name name :: rest =>
      if Level.call.rank < e.readLevel.rank then none else some (.attribute e name, rest)
    | .mark .ifWord :: rest =>
      if Level.conditional.rank ≤ e.readLevel.rank then none
      else do
        let (test, rest) ← readExpr fuel Level.conditional.rank rest
        let rest ← expect .elseWord rest
        let (orElse, rest) ← readExpr fuel Level.conditional.rank rest
        return (.conditional e test orElse, rest)
    | .mark .becomes :: rest =>
      match e with
      | .identifier name => do
        let (value, rest) ← readExpr fuel Level.namedExpr.rank rest
        return (.named name value, rest)
      | _ => none
    | tokens =>
      match operator? tokens with
      | none => none
      | some (op, rest) =>
        if op.leftLimit ≤ e.readLevel.rank then none
        else do
          let (right, rest) ← readExpr fuel op.rightLimit rest
          return (.binary op e right, rest)

/-- The arguments up to a closing bracket. -/
def readArgs : Nat → List Token → Option (Arguments × List Token)
  | 0, _ => none
  | fuel + 1, tokens =>
    if closes tokens then some (⟨[], [], false⟩, tokens)
    else do
      let (e, rest) ← readExpr fuel (Level.namedExpr.rank + 1) tokens
      let (arg, rest) ← readArg (readExpr fuel (Level.namedExpr.rank + 1)) e rest
      let (others, rest) ← readOthers (readArgs fuel) rest
      let args ← others.add arg
      return (args, rest)

end

/-- The expression that all tokens together are. -/
def readAll (tokens : List Token) : Option Expr :=
  match readExpr (3 * tokens.length + 1) (Level.namedExpr.rank + 1) tokens with
  | some (e, []) => some e
  | _ => none

/-! ### What follows an expression -/

theorem operator?_marks (op : BinaryOp) (rest : List Token)
    (hnot : op = .same → rest.head? ≠ some (.mark .notWord)) :
    operator? (op.marks.map .mark ++ rest) = some (op, rest) := by
  by_cases hop : op = .same
  · subst hop
    cases rest with
    | nil => rfl
    | cons t rest =>
        have hhead : t ≠ .mark .notWord := fun h => hnot rfl (by rw [h]; rfl)
        simp only [BinaryOp.marks, List.map_cons, List.map_nil, List.cons_append, List.nil_append]
        rw [operator?]
        · rfl
        · simp
        · intro _ htail _
          exact hhead (List.cons.inj htail).1
  · cases op <;> first | rfl | exact absurd rfl hop

theorem followRank_operator {tokens rest : List Token} {op : BinaryOp}
    (h : operator? tokens = some (op, rest)) : followRank tokens = op.level.rank := by
  unfold followRank
  split <;> simp_all [operator?, BinaryOp.all, BinaryOp.marks]

theorem readTail_operator {tokens rest : List Token} {op : BinaryOp} {e : Expr}
    (h : operator? tokens = some (op, rest)) (hlevel : e.readLevel.rank < op.leftLimit) (fuel : Nat) :
    readTail (fuel + 1) e tokens =
      (readExpr fuel op.rightLimit rest).map fun read => (.binary op e read.1, read.2) := by
  unfold readTail
  split
  case h_6 =>
    rw [h]
    simp only [if_neg (Nat.not_le.2 hlevel)]
    cases readExpr fuel op.rightLimit rest <;> rfl
  all_goals simp [operator?, BinaryOp.all, BinaryOp.marks] at h

/-- The rank that what is read last in an expression stays below; an expression that ends in a bracket
or a word of its own has none. -/
def Expr.openEnd : Expr → Nat
  | .unary op _ => op.operandLimit
  | .binary op _ _ => op.rightLimit
  | .conditional _ _ _ => Level.conditional.rank
  | .lambda _ _ => Level.lambda.rank + 1
  | .named _ _ => Level.namedExpr.rank
  | _ => 0

theorem Reads.openEnd_le {l : Level} {ts : List Token} {e : Expr} (h : Reads l ts e) :
    e.openEnd ≤ l.rank + 1 := by
  cases h with
  | prefixed hop _ _ => exact (UnaryOp.operandLimit_eq (Mark.isStandalone_of_prefixOp? hop)).le
  | standalone _ _ _ => exact (UnaryOp.operandLimit_le _).trans (Nat.le_succ _)
  | infixed _ _ _ _ => exact BinaryOp.rightLimit_le _
  | _ => simp [Expr.openEnd, Level.rank]

theorem Reads.openEnd_le_call {l : Level} {ts : List Token} {e : Expr} (h : Reads l ts e)
    (hlevel : l.rank ≤ Level.call.rank) : e.openEnd ≤ Level.call.rank := by
  cases h with
  | @prefixed m op _ _ _ hop _ _ =>
      have hawait := UnaryOp.await_le_level (Mark.isStandalone_of_prefixOp? hop)
      exact absurd (hawait.trans hlevel) (by decide)
  | @infixed op _ _ _ _ _ _ _ _ _ _ =>
      exact absurd (op.exponential_le_level.trans hlevel) (by decide)
  | standalone _ _ _ | lambda _ _ _ | named _ _ _ | conditional _ _ _ _ _ _ =>
      exact absurd hlevel (by decide)
  | _ => exact Nat.zero_le _

/-- A left operand ends in nothing that would take the operator after it as its own. -/
theorem Reads.openEnd_le_operator {l : Level} {ts : List Token} {e : Expr} (h : Reads l ts e)
    {op : BinaryOp} (hlevel : l.rank < op.leftLimit) : e.openEnd ≤ op.level.rank := by
  cases h with
  | @prefixed m op' _ _ _ hop _ _ =>
      have hstands := Mark.isStandalone_of_prefixOp? hop
      have hrank : op'.level.rank ≠ op.level.rank := fun hrank =>
        op'.level_ne hstands op (Level.rank_injective hrank)
      have hle := op.leftLimit_le
      rw [Expr.openEnd, UnaryOp.operandLimit_eq hstands]
      omega
  | @infixed op' _ _ _ _ _ _ _ _ _ _ => exact op.rightLimit_le_of_lt_leftLimit hlevel
  | standalone _ _ _ | lambda _ _ _ | named _ _ _ | conditional _ _ _ _ _ _ =>
      exact absurd (lt_of_lt_of_le hlevel op.leftLimit_le_conditional) (by decide)
  | _ => exact Nat.zero_le _

/-! ### Reading back -/

/-- Tokens are read as an expression, which then goes on with what follows. The fuel that is left is
short of the fuel at the start by no more than three for each token. -/
def ReadsBack (l : Level) (ts : List Token) (e : Expr) : Prop :=
  ∀ limit rest fuel, l.rank < limit → e.openEnd ≤ followRank rest → 3 * ts.length ≤ fuel →
    ∃ left, fuel ≤ left + 3 * ts.length ∧
      readExpr fuel limit (ts ++ rest) = extend left limit e rest

/-- Tokens are read as an expression that is complete when what follows it binds no more tightly than
the limit. -/
def ReadsFully (l : Level) (ts : List Token) (e : Expr) : Prop :=
  ∀ limit rest fuel, l.rank < limit → limit ≤ followRank rest → 3 * ts.length < fuel →
    readExpr fuel limit (ts ++ rest) = some (e, rest)

variable {l l' l'' : Level} {ts ts' ts'' : List Token} {e e' e'' : Expr}

theorem ReadsBack.fully (h : ReadsBack l ts e) (hend : e.openEnd ≤ l.rank + 1) :
    ReadsFully l ts e := by
  intro limit rest fuel hlevel hstop hfuel
  obtain ⟨left, hleft, hread⟩ := h limit rest fuel hlevel (by omega) (by omega)
  obtain ⟨left, rfl⟩ := Nat.exists_eq_add_one_of_ne_zero (n := left) (by omega)
  rw [hread, extend, if_pos hstop]

/-- What is read as a head reads back. -/
theorem ReadsBack.of_head (hne : ts ≠ [])
    (h : ∀ limit rest fuel, l.rank < limit → e.openEnd ≤ followRank rest →
      3 * ts.length ≤ fuel + 2 → readHead (fuel + 1) limit (ts ++ rest) = some (e, rest)) :
    ReadsBack l ts e := by
  intro limit rest fuel hlevel hend hfuel
  have hlength := List.length_pos_iff.2 hne
  obtain ⟨fuel, rfl⟩ := Nat.exists_eq_add_of_le' (show 2 ≤ fuel by omega)
  refine ⟨fuel + 1, by omega, ?_⟩
  rw [readExpr, h limit rest fuel hlevel hend hfuel]
  rfl

/-- What is read as a tail of an expression that reads back reads back together with it. -/
theorem ReadsBack.of_tail (h : ReadsBack l ts e) (hne : ts' ≠ []) (hlevel : l.rank ≤ l'.rank)
    (hfollow : ∀ rest, followRank (ts' ++ rest) = l'.rank) (hend : e.openEnd ≤ l'.rank)
    (htail : ∀ rest fuel, e'.openEnd ≤ followRank rest → 3 * ts'.length ≤ fuel + 2 →
      readTail (fuel + 1) e (ts' ++ rest) = some (e', rest)) :
    ReadsBack l' (ts ++ ts') e' := by
  intro limit rest fuel hlimit hend' hfuel
  have hlength := List.length_pos_iff.2 hne
  rw [List.length_append] at hfuel
  obtain ⟨left, hleft, hread⟩ := h limit (ts' ++ rest) fuel (by omega)
    (by rw [hfollow]; exact hend) (by omega)
  obtain ⟨left, rfl⟩ := Nat.exists_eq_add_of_le' (show 2 ≤ left by omega)
  refine ⟨left + 1, by rw [List.length_append]; omega, ?_⟩
  rw [List.append_assoc, hread, extend, if_neg (by rw [hfollow]; omega),
    htail rest left hend' (by omega)]
  rfl

/-! ### Arguments -/

/-- Whether tokens go on after an argument: with a comma, or with the end of the brackets. -/
def separates (tokens : List Token) : Bool :=
  closes tokens || tokens.head? == some (.mark .comma)

theorem followRank_of_separates {rest : List Token} (h : separates rest = true) :
    followRank rest = Level.namedExpr.rank + 1 := by
  unfold separates at h
  unfold closes at h
  split at h
  · rfl
  · rfl
  · cases rest with
    | nil => rfl
    | cons t rest =>
        simp only [Bool.false_or, List.head?_cons, beq_iff_eq, Option.some.injEq] at h
        subst h
        rfl

/-- Tokens are read as an argument when a comma or the end of the brackets follows. -/
structure ReadsArg (ts : List Token) (arg : Expr ⊕ KeywordArg) : Prop where
  not_closes : ∀ rest, closes (ts ++ rest) = false
  read_eq : ∀ rest fuel, separates rest = true → 3 * ts.length < fuel →
    ((readExpr fuel (Level.namedExpr.rank + 1) (ts ++ rest)).bind fun read =>
      readArg (readExpr fuel (Level.namedExpr.rank + 1)) read.1 read.2) = some (arg, rest)

theorem Level.rank_le_namedExpr (l : Level) : l.rank ≤ Level.namedExpr.rank := by
  cases l <;> decide

theorem Reads.closes_eq (h : Reads l ts e) (rest : List Token) : closes (ts ++ rest) = false := by
  obtain ⟨t, more, rfl, hbegins, -⟩ := h.exists_cons
  rw [List.cons_append]
  unfold closes
  split <;> simp_all [Token.opens, Token.leads, Mark.prefixOp?]

theorem ReadsFully.positional (h : ReadsFully l ts e) (hreads : Reads l ts e) :
    ReadsArg ts (.inl e) := by
  refine ⟨hreads.closes_eq, fun rest fuel hsep hfuel => ?_⟩
  have hsign : ∀ more, rest ≠ .mark .equals :: more := by
    rintro more rfl
    simp [separates, closes] at hsep
  rw [h _ rest fuel (Nat.lt_succ_of_le l.rank_le_namedExpr) (followRank_of_separates hsep).ge hfuel,
    Option.bind_some]
  dsimp only
  unfold readArg
  split
  · exact absurd rfl (hsign _)
  · rfl

theorem readsBack_identifier (name : Identifier) :
    ReadsBack .atom [.name name] (.identifier name) :=
  ReadsBack.of_head (by simp) fun _ _ _ _ _ _ => rfl

theorem ReadsFully.named (h : ReadsFully l ts e) (name : Identifier) :
    ReadsArg (.name name :: .mark .equals :: ts) (.inr ⟨name, e⟩) := by
  refine ⟨fun _ => rfl, fun rest fuel hsep hfuel => ?_⟩
  have hname := (readsBack_identifier name).fully (Nat.zero_le _)
  have hstop := (followRank_of_separates hsep).ge
  simp only [List.length_cons] at hfuel
  rw [List.cons_append, ← List.singleton_append,
    hname (Level.namedExpr.rank + 1) _ fuel (by decide) le_rfl
      (by rw [List.length_singleton]; omega), Option.bind_some, List.cons_append, readArg,
    h _ rest fuel (Nat.lt_succ_of_le l.rank_le_namedExpr) hstop (by omega)]
  rfl

theorem readArgs_cons {arg : Expr ⊕ KeywordArg} (h : ReadsArg ts arg) {rest : List Token}
    (hsep : separates rest = true) {fuel : Nat} (hfuel : 3 * ts.length < fuel) :
    readArgs (fuel + 1) (ts ++ rest) = (readOthers (readArgs fuel) rest).bind fun others =>
      (others.1.add arg).map fun args => (args, others.2) := by
  have hread := h.read_eq rest fuel hsep hfuel
  obtain ⟨read, hexpr, harg⟩ := Option.bind_eq_some_iff.1 hread
  rw [readArgs, h.not_closes rest, hexpr]
  simp only [Bool.false_eq_true, if_false, Option.bind_eq_bind, Option.bind_some, harg]
  cases readOthers (readArgs fuel) rest with
  | none => rfl
  | some others =>
      simp only [Option.bind_some]
      cases others.1.add arg <;> rfl

namespace Arguments

/-- Arguments in a row, with no comma after the last one. -/
def collect : List (Expr ⊕ KeywordArg) → Option Arguments
  | [] => some ⟨[], [], false⟩
  | arg :: args => (collect args).bind (·.add arg)

theorem collect_append (positional : List Expr) (named : List KeywordArg) :
    collect (positional.map .inl ++ named.map .inr) = some ⟨positional, named, false⟩ := by
  induction positional with
  | nil =>
      rw [List.map_nil, List.nil_append]
      induction named with
      | nil => rfl
      | cons arg named ih => rw [List.map_cons, collect, ih]; rfl
  | cons e positional ih => rw [List.map_cons, List.cons_append, collect, ih]; rfl

end Arguments

theorem readArgs_eq (items : List (List Token × (Expr ⊕ KeywordArg)))
    (hitems : ∀ item ∈ items, ReadsArg item.1 item.2) (rest : List Token) (fuel : Nat)
    (hrest : closes rest = true)
    (hfuel : 3 * (commaTokens (items.map Prod.fst)).length + 1 < fuel) :
    readArgs fuel (commaTokens (items.map Prod.fst) ++ rest) =
      (Arguments.collect (items.map Prod.snd)).map fun args => (args, rest) := by
  have hsep : separates rest = true := by simp [separates, hrest]
  have hnone (read : List Token → Option (Arguments × List Token)) :
      readOthers read rest = some (⟨[], [], false⟩, rest) := by
    unfold readOthers
    split
    · simp [closes] at hrest
    · rfl
  induction items generalizing fuel with
  | nil =>
      obtain ⟨fuel, rfl⟩ := Nat.exists_eq_add_one_of_ne_zero (n := fuel) (by omega)
      simp [readArgs, commaTokens, Arguments.collect, hrest]
  | cons item items ih =>
      obtain ⟨fuel, rfl⟩ := Nat.exists_eq_add_one_of_ne_zero (n := fuel) (by omega)
      have hitem := hitems item List.mem_cons_self
      cases items with
      | nil =>
          simp only [commaTokens, List.map_cons, List.map_nil, List.intercalate_singleton] at hfuel ⊢
          rw [readArgs_cons hitem hsep (by omega), hnone]
          cases item.2 <;> rfl
      | cons next items =>
          have hnext := hitems next (by simp)
          have hopen : closes (commaTokens ((next :: items).map Prod.fst) ++ rest) = false := by
            rw [List.map_cons, commaTokens_cons, List.append_assoc]
            exact hnext.not_closes _
          rw [List.map_cons, List.map_cons, commaTokens_cons_cons] at hfuel ⊢
          rw [List.length_append, List.length_cons, ← List.map_cons] at hfuel
          rw [List.append_assoc, List.cons_append, readArgs_cons hitem rfl (by omega), readOthers,
            ← List.map_cons, hopen]
          simp only [Bool.false_eq_true, if_false]
          have hcollect : Arguments.collect ((item :: next :: items).map Prod.snd) =
              (Arguments.collect ((next :: items).map Prod.snd)).bind (·.add item.2) := rfl
          rw [ih (fun item h => hitems item (List.mem_cons_of_mem _ h)) fuel (by omega), hcollect]
          cases Arguments.collect ((next :: items).map Prod.snd) <;> rfl

/-- Phrases that are read fully are read as arguments. -/
theorem readArgs_phrases (args : List Phrase) (named : List (Identifier × Phrase))
    (hargs : ∀ p ∈ args, ReadsArg p.tokens (.inl p.expr))
    (hnamed : ∀ p ∈ named, ReadsArg (namedTokens p) (.inr (namedArg p))) (rest : List Token)
    (fuel : Nat) (hrest : closes rest = true)
    (hfuel : 3 * (commaTokens (args.map Phrase.tokens ++ named.map namedTokens)).length + 1 < fuel) :
    readArgs fuel (commaTokens (args.map Phrase.tokens ++ named.map namedTokens) ++ rest) =
      some (⟨args.map Phrase.expr, named.map namedArg, false⟩, rest) := by
  have hread := readArgs_eq
    (args.map (fun p => (p.tokens, .inl p.expr)) ++
      named.map fun p => (namedTokens p, .inr (namedArg p)))
    (by
      intro item hitem
      rcases List.mem_append.1 hitem with hitem | hitem
      · obtain ⟨p, hp, rfl⟩ := List.mem_map.1 hitem
        exact hargs p hp
      · obtain ⟨p, hp, rfl⟩ := List.mem_map.1 hitem
        exact hnamed p hp) rest fuel hrest
  have hcollect := Arguments.collect_append (args.map Phrase.expr) (named.map namedArg)
  simp only [List.map_append, List.map_map, Function.comp_def] at hread hcollect
  rw [hcollect] at hread
  exact hread hfuel

theorem readArgs_positional (parts : List Phrase)
    (hparts : ∀ p ∈ parts, ReadsArg p.tokens (.inl p.expr)) (rest : List Token) (fuel : Nat)
    (hrest : closes rest = true)
    (hfuel : 3 * (commaTokens (parts.map Phrase.tokens)).length + 1 < fuel) :
    readArgs fuel (commaTokens (parts.map Phrase.tokens) ++ rest) =
      some (⟨parts.map Phrase.expr, [], false⟩, rest) := by
  have hread := readArgs_phrases parts [] hparts (by simp) rest fuel hrest
  simp only [List.map_nil, List.append_nil] at hread
  exact hread hfuel

/-- A lone argument with a comma after it. -/
theorem readArgs_comma (h : ReadsArg ts (.inl e)) (rest : List Token) (fuel : Nat)
    (hrest : closes rest = true) (hfuel : 3 * ts.length < fuel) :
    readArgs (fuel + 1) (ts ++ .mark .comma :: rest) = some (⟨[e], [], true⟩, rest) := by
  rw [readArgs_cons h rfl hfuel, readOthers, if_pos hrest]
  rfl

/-! ### The forms -/

theorem readsBack_group (h : ReadsArg ts (.inl e)) :
    ReadsBack .atom (.mark .openRound :: (ts ++ [.mark .closeRound])) (.wrapped e) := by
  refine ReadsBack.of_head (by simp) fun limit rest fuel _ _ hfuel => ?_
  have hargs := readArgs_positional [⟨.atom, ts, e⟩] (by simpa using h)
    (.mark .closeRound :: rest) fuel rfl
  simp only [List.map_cons, List.map_nil, commaTokens_singleton] at hargs
  simp only [List.length_cons, List.length_append, List.length_nil] at hfuel
  rw [List.cons_append, List.append_assoc, readHead]
  simp only [List.singleton_append, hargs (by omega), Option.bind_eq_bind, Option.bind_some]
  rfl

theorem readsBack_list (parts : List Phrase)
    (hparts : ∀ p ∈ parts, ReadsArg p.tokens (.inl p.expr)) :
    ReadsBack .atom
      (.mark .openSquare :: (commaTokens (parts.map Phrase.tokens) ++ [.mark .closeSquare]))
      (.display .list (parts.map Phrase.expr)) := by
  refine ReadsBack.of_head (by simp) fun limit rest fuel _ _ hfuel => ?_
  have hargs := readArgs_positional parts hparts (.mark .closeSquare :: rest) fuel rfl
  simp only [List.length_cons, List.length_append, List.length_nil] at hfuel
  rw [List.cons_append, List.append_assoc, readHead]
  simp only [List.singleton_append, hargs (by omega), Option.bind_eq_bind, Option.bind_some]
  rfl

theorem readsBack_tuple (parts : List Phrase)
    (hparts : ∀ p ∈ parts, ReadsArg p.tokens (.inl p.expr)) :
    ReadsBack .atom
      (.mark .openRound :: (tupleTokens (parts.map Phrase.tokens) ++ [.mark .closeRound]))
      (.display .tuple (parts.map Phrase.expr)) := by
  refine ReadsBack.of_head (by simp) fun limit rest fuel _ _ hfuel => ?_
  simp only [List.length_cons, List.length_append, List.length_nil] at hfuel
  rw [List.cons_append, List.append_assoc, readHead]
  by_cases hone : parts.length = 1
  · obtain ⟨only, rfl⟩ := List.length_eq_one_iff.1 hone
    obtain ⟨fuel, rfl⟩ := Nat.exists_eq_add_one_of_ne_zero (n := fuel) (by omega)
    simp only [List.map_cons, List.map_nil, tupleTokens, List.length_append, List.length_singleton]
      at hfuel
    have hargs := readArgs_comma (hparts only List.mem_cons_self) (.mark .closeRound :: rest) fuel rfl
      (by omega)
    simp only [List.map_cons, List.map_nil, tupleTokens, List.append_assoc, List.singleton_append,
      hargs, Option.bind_eq_bind, Option.bind_some]
    rfl
  · have henclosed : Arguments.enclosed? ⟨parts.map Phrase.expr, [], false⟩ =
        some (.display .tuple (parts.map Phrase.expr)) := by
      match parts with
      | [] | _ :: _ :: _ => rfl
      | [only] => exact absurd rfl hone
    rw [tupleTokens_eq (by rwa [List.length_map])] at hfuel ⊢
    have hargs := readArgs_positional parts hparts (.mark .closeRound :: rest) fuel rfl
      (by omega)
    simp only [List.singleton_append, hargs, henclosed, Option.bind_eq_bind, Option.bind_some]
    rfl

theorem readNames_eq (params : List Identifier) (rest : List Token) :
    readNames (commaTokens (params.map fun name => [.name name]) ++ .mark .colon :: rest) =
      some (params, rest) := by
  induction params with
  | nil => rfl
  | cons name params ih =>
      cases params with
      | nil => rfl
      | cons next params =>
          simp only [List.map_cons] at ih ⊢
          rw [commaTokens_cons_cons, List.singleton_append, List.cons_append, List.cons_append,
            readNames, ih, Option.map_some]

theorem readsBack_lambda (params : List Identifier) (h : ReadsFully l ts e)
    (hlevel : l.rank ≤ Level.lambda.rank) :
    ReadsBack .lambda
      (.mark .lambdaWord :: (commaTokens (params.map fun name => [.name name]) ++ .mark .colon :: ts))
      (.lambda params e) := by
  refine ReadsBack.of_head (by simp) fun limit rest fuel hlimit hend hfuel => ?_
  simp only [List.length_cons, List.length_append] at hfuel
  rw [List.cons_append, List.append_assoc, List.cons_append, readHead, if_neg (Nat.not_le.2 hlimit),
    readNames_eq]
  simp only [Option.bind_eq_bind, Option.bind_some,
    h _ rest fuel (Nat.lt_succ_of_le hlevel) hend (by omega)]
  rfl

theorem readHead_prefixed {m : Mark} {op : UnaryOp} (hop : m.prefixOp? = some op) {limit : Nat}
    (hlimit : op.level.rank < limit) (fuel : Nat) (rest : List Token) :
    readHead (fuel + 1) limit (.mark m :: rest) =
      (readExpr fuel op.operandLimit rest).map fun read => (.unary op read.1, read.2) := by
  unfold readHead
  split
  case h_7 _ _ _ _ heq =>
    cases heq
    rw [hop]
    simp only [if_neg (Nat.not_le.2 hlimit)]
    cases readExpr fuel op.operandLimit rest <;> rfl
  all_goals simp_all [Mark.prefixOp?]

theorem readsBack_prefixed {m : Mark} {op : UnaryOp} (hop : m.prefixOp? = some op)
    (h : ReadsFully l ts e) (hlevel : l.rank ≤ op.level.rank) :
    ReadsBack op.level (.mark m :: ts) (.unary op e) := by
  have hoperand : l.rank < op.operandLimit := by
    rw [UnaryOp.operandLimit_eq (Mark.isStandalone_of_prefixOp? hop)]
    exact Nat.lt_succ_of_le hlevel
  refine ReadsBack.of_head (by simp) fun limit rest fuel hlimit hend hfuel => ?_
  rw [List.length_cons] at hfuel
  rw [List.cons_append, readHead_prefixed hop hlimit, h _ rest fuel hoperand hend (by omega)]
  rfl

theorem standalone?_marks {op : UnaryOp} (hop : op.isStandalone = true) {rest : List Token}
    (hfrom : rest.head? ≠ some (.mark .fromWord)) :
    standalone? (op.standaloneMarks.map .mark ++ rest) = some (op, rest) := by
  cases op with
  | yield =>
      show standalone? (.mark .yieldWord :: rest) = some (.yield, rest)
      rw [standalone?]
      rintro more ⟨⟩
      exact hfrom rfl
  | starred | doubleStarred | yieldFrom => rfl
  | await | positive | negative | bitNot | boolNot => cases hop

theorem readHead_standalone {op : UnaryOp} {tokens rest : List Token}
    (h : standalone? tokens = some (op, rest)) {limit : Nat} (hlimit : Level.namedExpr.rank < limit)
    (fuel : Nat) :
    readHead (fuel + 1) limit tokens =
      (readExpr fuel op.operandLimit rest).map fun read => (.unary op read.1, read.2) := by
  unfold readHead
  split
  case h_7 m more _ _ _ =>
    have hnone : m.prefixOp? = none := by
      cases m <;> first | rfl | cases h
    rw [hnone, h]
    simp only [if_neg (Nat.not_le.2 hlimit)]
    cases readExpr fuel op.operandLimit rest <;> rfl
  all_goals cases h

theorem readsBack_standalone {op : UnaryOp} (hop : op.isStandalone = true) (h : ReadsFully l ts e)
    (hlevel : l.rank < op.operandLimit)
    (hfrom : ∀ rest, (ts ++ rest).head? ≠ some (.mark .fromWord)) :
    ReadsBack .namedExpr (op.standaloneMarks.map .mark ++ ts) (.unary op e) := by
  obtain ⟨m, ms, hmarks, -⟩ := UnaryOp.exists_standaloneMarks hop
  refine ReadsBack.of_head (by simp [hmarks]) fun limit rest fuel hlimit hend hfuel => ?_
  have hread := readHead_standalone (standalone?_marks hop (hfrom rest)) hlimit fuel
  simp only [hmarks, List.map_cons, List.cons_append, List.length_cons, List.length_append] at hfuel
  rw [List.append_assoc, hread, h _ rest fuel hlevel hend (by omega)]
  rfl

theorem readsBack_call (h : ReadsBack l ts e) (hlevel : l.rank ≤ Level.call.rank)
    (helevel : e.readLevel = l) (hend : e.openEnd ≤ Level.call.rank) (args : List Phrase)
    (named : List (Identifier × Phrase)) (hargs : ∀ p ∈ args, ReadsArg p.tokens (.inl p.expr))
    (hnamed : ∀ p ∈ named, ReadsArg (namedTokens p) (.inr (namedArg p))) :
    ReadsBack .call
      (ts ++ .mark .openRound ::
        (commaTokens (args.map Phrase.tokens ++ named.map namedTokens) ++ [.mark .closeRound]))
      (.call e (args.map Phrase.expr) (named.map namedArg)) := by
  refine h.of_tail (by simp) hlevel (fun _ => rfl) hend fun rest fuel _ hfuel => ?_
  have hread := readArgs_phrases args named hargs hnamed (.mark .closeRound :: rest) fuel rfl
  simp only [List.length_cons, List.length_append, List.length_nil] at hfuel hread
  rw [List.cons_append, List.append_assoc, readTail, if_neg (by rw [helevel]; omega)]
  simp only [List.singleton_append, hread (by omega), Option.bind_eq_bind, Option.bind_some]
  rfl

theorem readsBack_subscript (h : ReadsBack l ts e) (hlevel : l.rank ≤ Level.call.rank)
    (helevel : e.readLevel = l) (hend : e.openEnd ≤ Level.call.rank) (items : List Phrase)
    (hitems : ∀ p ∈ items, ReadsArg p.tokens (.inl p.expr)) :
    ReadsBack .call
      (ts ++ .mark .openSquare :: (commaTokens (items.map Phrase.tokens) ++ [.mark .closeSquare]))
      (.subscript e (items.map fun p => .index p.expr)) := by
  refine h.of_tail (by simp) hlevel (fun _ => rfl) hend fun rest fuel _ hfuel => ?_
  have hread := readArgs_positional items hitems (.mark .closeSquare :: rest) fuel rfl
  simp only [List.length_cons, List.length_append, List.length_nil] at hfuel
  rw [List.cons_append, List.append_assoc, readTail, if_neg (by rw [helevel]; omega)]
  simp only [List.singleton_append, hread (by omega), Arguments.elements?, Option.bind_eq_bind,
    Option.bind_some, expect_cons, List.map_map]
  rfl

theorem readsBack_access (h : ReadsBack l ts e) (hlevel : l.rank ≤ Level.call.rank)
    (helevel : e.readLevel = l) (hend : e.openEnd ≤ Level.call.rank) (name : Identifier) :
    ReadsBack .call (ts ++ [.mark .point, .name name]) (.attribute e name) := by
  refine h.of_tail (by simp) hlevel (fun _ => rfl) hend fun rest fuel _ _ => ?_
  rw [List.cons_append, List.singleton_append, readTail, if_neg (by rw [helevel]; omega)]

theorem readsBack_infixed {op : BinaryOp} (h : ReadsBack l ts e) (h' : ReadsFully l' ts' e')
    (helevel : e.readLevel = l) (hlevel : l.rank < op.leftLimit) (hlevel' : l'.rank < op.rightLimit)
    (hend : e.openEnd ≤ op.level.rank)
    (hnot : op = .same → ∀ rest, (ts' ++ rest).head? ≠ some (.mark .notWord)) :
    ReadsBack op.level (ts ++ (op.marks.map .mark ++ ts')) (.binary op e e') := by
  have hoperator (rest : List Token) :
      operator? (op.marks.map .mark ++ ts' ++ rest) = some (op, ts' ++ rest) := by
    rw [List.append_assoc]
    exact operator?_marks op _ fun hop => hnot hop rest
  have hne : op.marks.map Token.mark ≠ [] := by cases op <;> simp [BinaryOp.marks]
  have hrank := op.leftLimit_le
  refine h.of_tail (by simp [hne]) (by omega) (fun rest => followRank_operator (hoperator rest)) hend
    fun rest fuel hend' hfuel => ?_
  have hmarks := List.length_pos_iff.2 hne
  rw [List.length_append] at hfuel
  rw [readTail_operator (hoperator rest) (by rw [helevel]; exact hlevel),
    h' op.rightLimit rest fuel hlevel' hend' (by omega)]
  rfl

theorem readsBack_conditional (h : ReadsBack l ts e) (h' : ReadsFully l' ts' e')
    (h'' : ReadsFully l'' ts'' e'') (helevel : e.readLevel = l)
    (hlevel : l.rank < Level.conditional.rank) (hlevel' : l'.rank < Level.conditional.rank)
    (hlevel'' : l''.rank < Level.conditional.rank) (hend : e.openEnd ≤ Level.conditional.rank) :
    ReadsBack .conditional (ts ++ .mark .ifWord :: (ts' ++ .mark .elseWord :: ts''))
      (.conditional e e' e'') := by
  refine h.of_tail (by simp) hlevel.le (fun _ => rfl) hend fun rest fuel hend' hfuel => ?_
  simp only [List.length_cons, List.length_append] at hfuel
  rw [List.cons_append, List.append_assoc, List.cons_append, readTail,
    if_neg (by rw [helevel]; omega)]
  have htest := h' Level.conditional.rank (.mark .elseWord :: (ts'' ++ rest)) fuel hlevel'
    (show Level.conditional.rank ≤ Level.namedExpr.rank + 1 by decide) (by omega)
  simp only [htest, h'' _ rest fuel hlevel'' hend' (by omega), Option.bind_eq_bind, Option.bind_some,
    expect_cons]
  rfl

theorem readsBack_named (target : Identifier) (h : ReadsFully l ts e)
    (hlevel : l.rank < Level.namedExpr.rank) :
    ReadsBack .namedExpr (.name target :: .mark .becomes :: ts) (.named target e) := by
  show ReadsBack .namedExpr ([.name target] ++ .mark .becomes :: ts) (.named target e)
  refine (readsBack_identifier target).of_tail (by simp) (Nat.zero_le _) (fun _ => rfl)
    (Nat.zero_le _) fun rest fuel hend hfuel => ?_
  rw [List.length_cons] at hfuel
  rw [List.cons_append, readTail]
  simp only [Option.bind_eq_bind, Option.bind_some, h _ rest fuel hlevel hend (by omega)]
  rfl

/-! ### Every derivation -/

theorem readsBack_number {value : Int} (hlevel : value < 0 → l = .unary) :
    ReadsBack l [.number value] (.literal (.int value)) := by
  refine ReadsBack.of_head (by simp) fun limit rest fuel hlimit _ _ => ?_
  have hloose : ¬ (value < 0 ∧ limit ≤ Level.unary.rank) := by
    rintro ⟨hsign, hle⟩
    rw [hlevel hsign] at hlimit
    omega
  rw [List.singleton_append, readHead, if_neg hloose]

/-- Whatever the grammar derives is read back. The induction is on the derivation: the part that an
expression begins with is read first and goes on with the rest of it, and all other parts are read
fully. -/
theorem Reads.readsBack (h : Reads l ts e) : ReadsBack l ts e := by
  have hfully {l : Level} {ts : List Token} {e : Expr} (h : Reads l ts e) (ih : ReadsBack l ts e) :
      ReadsFully l ts e :=
    ih.fully h.openEnd_le
  induction h with
  | identifier name => exact readsBack_identifier name
  | natural hsign => exact readsBack_number fun h => absurd h (Int.not_lt.2 hsign)
  | negative _ => exact readsBack_number fun _ => rfl
  | group h ih => exact readsBack_group ((hfully h ih).positional h)
  | list parts h ih =>
      exact readsBack_list parts fun p hp => (hfully (h p hp) (ih p hp)).positional (h p hp)
  | tuple parts h ih =>
      exact readsBack_tuple parts fun p hp => (hfully (h p hp) (ih p hp)).positional (h p hp)
  | call args named h hlevel hargs hnamed ih ihargs ihnamed =>
      exact readsBack_call ih hlevel h.level_eq.symm (h.openEnd_le_call hlevel) args named
        (fun p hp => (hfully (hargs p hp) (ihargs p hp)).positional (hargs p hp))
        fun p hp => (hfully (hnamed p hp) (ihnamed p hp)).named p.1
  | access name h hlevel ih =>
      exact readsBack_access ih hlevel h.level_eq.symm (h.openEnd_le_call hlevel) name
  | subscript items h hlevel hitems ih ihitems =>
      exact readsBack_subscript ih hlevel h.level_eq.symm (h.openEnd_le_call hlevel) items
        fun p hp => (hfully (hitems p hp) (ihitems p hp)).positional (hitems p hp)
  | prefixed hop h hlevel ih => exact readsBack_prefixed hop (hfully h ih) hlevel
  | standalone hop h hlevel ih =>
      refine readsBack_standalone hop (hfully h ih) hlevel fun rest => ?_
      obtain ⟨t, more, rfl, hbegins, -⟩ := h.exists_cons
      rintro ⟨⟩
      exact absurd hbegins (by simp [Token.opens, Token.leads, Mark.prefixOp?])
  | @infixed op l l' _ ts' _ _ h h' hlevel hlevel' ih ih' =>
      refine readsBack_infixed ih (hfully h' ih') h.level_eq.symm hlevel hlevel'
        (h.openEnd_le_operator hlevel) fun hop rest => ?_
      subst hop
      obtain ⟨t, more, rfl, -, hnot⟩ := h'.exists_cons
      simpa using hnot (hlevel'.trans (by decide))
  | conditional h h' h'' hlevel hlevel' hlevel'' ih ih' ih'' =>
      exact readsBack_conditional ih (hfully h' ih') (hfully h'' ih'') h.level_eq.symm hlevel hlevel'
        hlevel'' (h.openEnd_le.trans hlevel)
  | lambda params h hlevel ih => exact readsBack_lambda params (hfully h ih) hlevel
  | named target h hlevel ih => exact readsBack_named target (hfully h ih) hlevel

theorem Reads.readsFully (h : Reads l ts e) : ReadsFully l ts e :=
  h.readsBack.fully h.openEnd_le

theorem Reads.readAll_eq (h : Reads l ts e) : readAll ts = some e := by
  have hread := h.readsFully (Level.namedExpr.rank + 1) [] (3 * ts.length + 1)
    (Nat.lt_succ_of_le l.rank_le_namedExpr) le_rfl (Nat.lt_succ_self _)
  rw [List.append_nil] at hread
  rw [readAll, hread]

/-- The grammar is unambiguous: no token run is derived as two expressions, or at two levels. -/
theorem Reads.unique (h : Reads l ts e) (h' : Reads l' ts e') : l = l' ∧ e = e' := by
  have he : e = e' := Option.some.inj (h.readAll_eq.symm.trans h'.readAll_eq)
  exact ⟨h.level_eq.trans (he ▸ h'.level_eq.symm), he⟩

end Unparse
