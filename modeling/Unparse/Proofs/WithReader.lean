import Unparse.Proofs.Legal
import Unparse.Proofs.Lexicon
import Unparse.Proofs.OperatorForm

/-!
A reader of the headers of `with` statements. Parentheses around all items and parentheses that belong
to the first context look alike at the beginning, so the reader tries the first and takes the second
if that fails. Which of them it takes can be told from the items: only a lone context without a target
is taken for a list of items, and only if it is one pair of parentheses altogether.
-/

namespace Unparse

/-! ### Tokens -/

/-- A token of an expression, or a word of a `with` header. -/
inductive WithToken where
  | plain (token : Token)
  | asyncWord
  | withWord
  | asWord
  deriving DecidableEq

namespace WithToken

def words : List (List Char × WithToken) :=
  [(['a', 's', 'y', 'n', 'c'], .asyncWord), (['w', 'i', 't', 'h'], .withWord),
    (['a', 's'], .asWord)]

/-- The tokens of expressions among those of headers. -/
def lexicon : Lexicon WithToken where
  plain := .plain
  plain?
    | .plain token => some token
    | _ => none
  plain?_eq_some_iff {t u} := by cases t <;> simp
  ofPiece? := wordOrToken .plain words
  ofPiece?_of_token := wordOrToken_of_token (by decide)

theorem spells_word {cs : List Char} {token : WithToken} (h : (cs, token) ∈ words) :
    lexicon.Spells cs [token] := by
  have hall : ∀ word ∈ words, word.1 ≠ [] ∧ word.1 ≠ [' '] ∧
      (word.1.IsChain fun a b => glued a b = true) ∧ lexicon.ofPiece? word.1 = some word.2 ∧
      lexicon.isNumber word.2 = false := by
    decide
  obtain ⟨hne, hblank, hchain, htoken, hnumber⟩ := hall _ h
  exact Lexicon.spells_word hne hblank hchain htoken hnumber

theorem spells_plain {cs : List Char} {ts : List Token} (h : Unparse.Spells cs ts) :
    lexicon.Spells cs (ts.map .plain) :=
  Lexicon.spells_plain h

end WithToken

/-! ### Reading -/

/-- A target, which a star may stand before. Whether it can be assigned to is not asked. -/
def readTarget (tokens : List WithToken) : Option (Expr × List WithToken) :=
  match tokens with
  | .plain (.mark .star) :: rest => do
    let (operand, rest) ← WithToken.lexicon.readPart UnaryOp.starred.operandLimit rest
    return (.unary .starred operand, rest)
  | tokens => WithToken.lexicon.readPart Level.namedExpr.rank tokens

/-- A context, and a target if its word follows. -/
def readWithItem (tokens : List WithToken) : Option (WithItem × List WithToken) := do
  let (context, rest) ← WithToken.lexicon.readPart Level.namedExpr.rank tokens
  match rest with
  | .asWord :: rest => do
    let (target, rest) ← readTarget rest
    return (⟨context, some target⟩, rest)
  | rest => return (⟨context, none⟩, rest)

/-- As many items as there are after commas. -/
def readMoreItems : Nat → List WithToken → List WithItem × List WithToken
  | fuel + 1, .plain (.mark .comma) :: rest =>
    match readWithItem rest with
    | some (item, rest) => (item :: (readMoreItems fuel rest).1, (readMoreItems fuel rest).2)
    | none => ([], .plain (.mark .comma) :: rest)
  | _, tokens => ([], tokens)

/-- Items, one at least, with commas between them. -/
def readWithItems (tokens : List WithToken) : Option (List WithItem × List WithToken) := do
  let (item, rest) ← readWithItem tokens
  let (items, rest) := readMoreItems rest.length rest
  return (item :: items, rest)

/-- The tokens after a comma, if there is one. -/
def skipComma : List WithToken → List WithToken
  | .plain (.mark .comma) :: rest => rest
  | rest => rest

/-- The items of a header in parentheses, the last of which a comma may follow. -/
def readEnclosedItems : List WithToken → Option (List WithItem)
  | .plain (.mark .openRound) :: rest => do
    let (items, rest) ← readWithItems rest
    if skipComma rest = [.plain (.mark .closeRound), .plain (.mark .colon)] ∧
        ∀ item ∈ items, item.Legal then
      some items
    else none
  | _ => none

/-- The items of a header without parentheses around them. -/
def readOpenItems (tokens : List WithToken) : Option (List WithItem) := do
  let (items, rest) ← readWithItems tokens
  if rest = [.plain (.mark .colon)] ∧ ∀ item ∈ items, item.Legal then some items else none

/-- The items of a header up to its end; parentheses around all of them are tried first. -/
def readHeaderItems (tokens : List WithToken) : Option (List WithItem) :=
  (readEnclosedItems tokens).or (readOpenItems tokens)

/-- Whichever way is taken, the grammar has a rule for the items. -/
theorem legal_of_readHeaderItems {tokens : List WithToken} {items : List WithItem}
    (h : readHeaderItems tokens = some items) : ∀ item ∈ items, item.Legal := by
  rcases Option.or_eq_some_iff.1 h with henclosed | ⟨-, hopen⟩
  · unfold readEnclosedItems at henclosed
    split at henclosed
    · obtain ⟨read, -, hread⟩ := Option.bind_eq_some_iff.1 henclosed
      obtain ⟨hlegal, heq⟩ := Option.ite_none_right_eq_some.1 hread
      exact Option.some.inj heq ▸ hlegal.2
    · cases henclosed
  · obtain ⟨read, -, hread⟩ := Option.bind_eq_some_iff.1 hopen
    obtain ⟨hlegal, heq⟩ := Option.ite_none_right_eq_some.1 hread
    exact Option.some.inj heq ▸ hlegal.2

/-- The header that a line is. -/
def readWith (line : String) : Option WithHeader := do
  let tokens ← WithToken.lexicon.scan line
  match tokens with
  | .asyncWord :: .withWord :: rest => (readHeaderItems rest).map (⟨true, ·⟩)
  | .withWord :: rest => (readHeaderItems rest).map (⟨false, ·⟩)
  | _ => none

/-! ### Items -/

/-- An item in tokens: those of its context, and those of its target if it has one. -/
structure ItemPhrase where
  context : Phrase
  target : Option Phrase

namespace ItemPhrase

def item (p : ItemPhrase) : WithItem :=
  ⟨p.context.expr, p.target.map Phrase.expr⟩

def targetTokens (p : ItemPhrase) : List WithToken :=
  match p.target with
  | none => []
  | some target => .asWord :: target.tokens.map .plain

def tokens (p : ItemPhrase) : List WithToken :=
  p.context.tokens.map .plain ++ p.targetTokens

/-- The parts of an item are derived from their tokens and are tighter than named expressions, but for
a star before the target. -/
structure Derived (p : ItemPhrase) : Prop where
  context : Reads p.context.level p.context.tokens p.context.expr
  context_lt : p.context.level.rank < Level.namedExpr.rank
  target : ∀ t ∈ p.target, Reads t.level t.tokens t.expr ∧
    (t.level.rank < Level.namedExpr.rank ∨ ∃ operand, t.expr = .unary .starred operand)

end ItemPhrase

/-- The tokens of items after the first one, each after a comma. -/
def moreTokens (items : List ItemPhrase) : List WithToken :=
  items.flatMap fun p => .plain (.mark .comma) :: p.tokens

theorem moreTokens_cons (p : ItemPhrase) (items : List ItemPhrase) :
    moreTokens (p :: items) = .plain (.mark .comma) :: (p.tokens ++ moreTokens items) := by
  rw [moreTokens, List.flatMap_cons, List.cons_append, moreTokens]

theorem length_le_moreTokens (items : List ItemPhrase) :
    items.length ≤ (moreTokens items).length := by
  induction items with
  | nil => exact le_rfl
  | cons p items ih =>
      rw [moreTokens_cons, List.length_cons, List.length_cons, List.length_append]
      omega

/-- Tokens that no item goes on with. -/
inductive EndsItem : List WithToken → Prop where
  | mark {m : Mark} (hm : m ∈ [Mark.comma, .colon, .closeRound, .becomes])
    (rest : List WithToken) : EndsItem (.plain (.mark m) :: rest)

theorem EndsItem.le_followRank {rest : List WithToken} (h : EndsItem rest) :
    Level.namedExpr.rank ≤ followRank (WithToken.lexicon.span rest).1 := by
  cases h with
  | mark hm rest =>
      have hspan := WithToken.lexicon.span_plain_cons (.mark ‹Mark›) rest
      simp only [List.mem_cons, List.not_mem_nil, or_false] at hm
      rcases hm with rfl | rfl | rfl | rfl
      · exact Nat.le_succ Level.namedExpr.rank
      · exact Nat.le_succ Level.namedExpr.rank
      · exact Nat.le_succ Level.namedExpr.rank
      · exact le_rfl

theorem EndsItem.moreTokens_append {rest : List WithToken} (h : EndsItem rest)
    (items : List ItemPhrase) : EndsItem (moreTokens items ++ rest) := by
  cases items with
  | nil => exact h
  | cons p items => exact .mark (by decide) _

theorem Reads.exists_starred {l : Level} {ts : List Token} {operand : Expr}
    (h : Reads l ts (.unary .starred operand)) :
    ∃ l' us, ts = .mark .star :: us ∧ Reads l' us operand ∧
      l'.rank < UnaryOp.starred.operandLimit := by
  cases h with
  | prefixed hop _ _ => exact absurd (Mark.isStandalone_of_prefixOp? hop) (by decide)
  | standalone _ hoperand hlevel => exact ⟨_, _, rfl, hoperand, hlevel⟩

theorem readTarget_eq {t : Phrase} (h : Reads t.level t.tokens t.expr)
    (hlevel : t.level.rank < Level.namedExpr.rank ∨ ∃ operand, t.expr = .unary .starred operand)
    {rest : List WithToken} (hrest : EndsItem rest) :
    readTarget (t.tokens.map .plain ++ rest) = some (t.expr, rest) := by
  obtain ⟨l, ts, e⟩ := t
  rcases hlevel with hlt | ⟨operand, rfl⟩
  · have hread : WithToken.lexicon.readPart _ (ts.map .plain ++ rest) = _ :=
      WithToken.lexicon.readPart_eq h hlt hrest.le_followRank
    obtain ⟨t, more, rfl, hbegins, -⟩ := h.exists_cons
    rw [readTarget]
    · exact hread
    · rintro _ ⟨⟩
      rw [h.isStandalone_eq hlt] at hbegins
      simp [Token.opens, Mark.prefixOp?] at hbegins
  · obtain ⟨l', us, rfl, hoperand, hlimit⟩ := h.exists_starred
    have hread : WithToken.lexicon.readPart _ (us.map .plain ++ rest) = _ :=
      WithToken.lexicon.readPart_eq hoperand hlimit
        ((UnaryOp.operandLimit_le _).trans hrest.le_followRank)
    rw [List.map_cons, List.cons_append, readTarget, hread]
    rfl

theorem readWithItem_eq {p : ItemPhrase} (h : p.Derived) {rest : List WithToken}
    (hrest : EndsItem rest) : readWithItem (p.tokens ++ rest) = some (p.item, rest) := by
  obtain ⟨context, target⟩ := p
  cases target with
  | none =>
      have hread : WithToken.lexicon.readPart _ (context.tokens.map .plain ++ rest) = _ :=
        WithToken.lexicon.readPart_eq h.context h.context_lt hrest.le_followRank
      rw [ItemPhrase.tokens, ItemPhrase.targetTokens, List.append_nil, readWithItem, hread]
      cases hrest with
      | mark hm rest => rfl
  | some target =>
      obtain ⟨htarget, hlevel⟩ := h.target target rfl
      have hread' := readTarget_eq htarget hlevel hrest
      have hread : WithToken.lexicon.readPart _
          (context.tokens.map .plain ++ .asWord :: (target.tokens.map .plain ++ rest)) = _ :=
        WithToken.lexicon.readPart_eq h.context h.context_lt (Nat.le_succ Level.namedExpr.rank)
      rw [ItemPhrase.tokens, ItemPhrase.targetTokens, List.append_assoc, List.cons_append,
        readWithItem, hread]
      simp only [Option.bind_eq_bind, Option.bind_some, hread']
      rfl

theorem readMoreItems_of_ne {m : Mark} (hm : m ≠ .comma) (rest : List WithToken) (fuel : Nat) :
    readMoreItems fuel (.plain (.mark m) :: rest) = ([], .plain (.mark m) :: rest) := by
  cases fuel with
  | zero => rfl
  | succ fuel =>
      rw [readMoreItems]
      rintro _ more - ⟨⟩
      exact hm rfl

section Items

variable {rest : List WithToken} (hrest : EndsItem rest)
  (hlast : ∀ fuel, readMoreItems fuel rest = ([], rest))

include hrest hlast

theorem readMoreItems_eq {items : List ItemPhrase} (h : ∀ p ∈ items, p.Derived) {fuel : Nat}
    (hfuel : items.length ≤ fuel) :
    readMoreItems fuel (moreTokens items ++ rest) = (items.map ItemPhrase.item, rest) := by
  induction items generalizing fuel with
  | nil => exact hlast fuel
  | cons p items ih =>
      obtain ⟨hp, hitems⟩ := List.forall_mem_cons.1 h
      obtain ⟨fuel, rfl⟩ := Nat.exists_eq_add_one_of_ne_zero (n := fuel) (by simp at hfuel; omega)
      rw [moreTokens_cons, List.cons_append, List.append_assoc, readMoreItems,
        readWithItem_eq hp (hrest.moreTokens_append items)]
      simp only [ih hitems (Nat.le_of_succ_le_succ hfuel), List.map_cons]

/-- Items are read up to what no item goes on with. -/
theorem readWithItems_eq {p : ItemPhrase} {items : List ItemPhrase}
    (h : ∀ q ∈ p :: items, q.Derived) :
    readWithItems (p.tokens ++ (moreTokens items ++ rest)) =
      some ((p :: items).map ItemPhrase.item, rest) := by
  obtain ⟨hp, hitems⟩ := List.forall_mem_cons.1 h
  have hfuel : items.length ≤ (moreTokens items ++ rest).length := by
    have hlength := length_le_moreTokens items
    rw [List.length_append]
    omega
  rw [readWithItems, readWithItem_eq hp (hrest.moreTokens_append items)]
  simp only [Option.bind_eq_bind, Option.bind_some,
    readMoreItems_eq hrest hlast hitems hfuel, List.map_cons]
  rfl

end Items

/-! ### Parentheses at the beginning -/

/-- The expressions that a pair of parentheses encloses, where an expression is one altogether. -/
def Expr.enclosed : Expr → List Expr
  | .wrapped inner => [inner]
  | .display .tuple elements => elements
  | _ => []

/-- What stands between parentheses: expressions with commas between them, and perhaps a comma after
the last one. -/
structure EnclosedTokens (content : List Token) (parts : List Phrase) : Prop where
  derived : ∀ p ∈ parts, Reads p.level p.tokens p.expr
  content_eq : ∃ last, content = commaTokens (parts.map Phrase.tokens) ++ last ∧
    (last = [] ∨ last = [.mark .comma] ∧ parts ≠ [])

/-- After a parenthesis that an expression begins with, the parenthesis is closed. It encloses all of
the expression, or the expression goes on with a token that no header ends with. -/
def OpensWith (more : List Token) (e : Expr) : Prop :=
  ∃ content parts after, more = content ++ .mark .closeRound :: after ∧
    EnclosedTokens content parts ∧
    (after = [] ∧ e.enclosed = parts.map Phrase.expr ∨
      (∃ t after', after = t :: after' ∧ t ≠ .mark .colon) ∧ e.enclosed = [])

/-- What goes on after an operand goes on after its parentheses. -/
theorem OpensWith.append {ts : List Token} {e e' : Expr}
    (h : ∀ more, ts = .mark .openRound :: more → OpensWith more e) (hne : ts ≠ []) {t : Token}
    (ht : t ≠ .mark .colon) (tail : List Token) (henclosed : e'.enclosed = []) {more : List Token}
    (hts : ts ++ t :: tail = .mark .openRound :: more) : OpensWith more e' := by
  obtain ⟨t', more', rfl⟩ := List.exists_cons_of_ne_nil hne
  rw [List.cons_append, List.cons.injEq] at hts
  obtain ⟨rfl, rfl⟩ := hts
  obtain ⟨content, parts, after, rfl, hcontent, hafter⟩ := h more' rfl
  refine ⟨content, parts, after ++ t :: tail, by simp, hcontent, Or.inr ⟨?_, henclosed⟩⟩
  rcases hafter with ⟨rfl, -⟩ | ⟨⟨u, after', rfl, hu⟩, -⟩
  · exact ⟨t, tail, rfl, ht⟩
  · exact ⟨u, after' ++ t :: tail, rfl, hu⟩

theorem exists_tupleTokens (parts : List Phrase) :
    ∃ last, tupleTokens (parts.map Phrase.tokens) = commaTokens (parts.map Phrase.tokens) ++ last ∧
      (last = [] ∨ last = [.mark .comma] ∧ parts ≠ []) := by
  match parts with
  | [] => exact ⟨[], rfl, Or.inl rfl⟩
  | [p] => exact ⟨[.mark .comma], by simp [tupleTokens], Or.inr ⟨rfl, by simp⟩⟩
  | p :: q :: parts => exact ⟨[], by simp [tupleTokens], Or.inl rfl⟩

theorem BinaryOp.exists_marks (op : BinaryOp) :
    ∃ m ms, op.marks = m :: ms ∧ Token.mark m ≠ .mark .colon := by
  cases op <;> exact ⟨_, _, rfl, by decide⟩

theorem Reads.opensWith {l : Level} {ts : List Token} {e : Expr} (h : Reads l ts e)
    {more : List Token} (hts : ts = .mark .openRound :: more) : OpensWith more e := by
  induction h generalizing more with
  | identifier _ | natural _ | negative _ | list _ _ _ | lambda _ _ _ _ | named _ _ _ _ => cases hts
  | @group l ts e hinner _ =>
      cases hts
      refine ⟨ts, [⟨l, ts, e⟩], [], rfl, ⟨by simpa using hinner, [], by simp, Or.inl rfl⟩, ?_⟩
      exact Or.inl ⟨rfl, rfl⟩
  | tuple parts hparts _ =>
      cases hts
      exact ⟨_, parts, [], rfl, ⟨hparts, exists_tupleTokens parts⟩, Or.inl ⟨rfl, rfl⟩⟩
  | prefixed hop _ _ _ =>
      cases hts
      cases hop
  | standalone hop _ _ _ =>
      obtain ⟨m, ms, hmarks, hleads⟩ := UnaryOp.exists_standaloneMarks hop
      rw [hmarks, List.map_cons, List.cons_append, List.cons.injEq] at hts
      rw [hts.1] at hleads
      cases hleads
  | call _ _ htarget _ _ _ ih _ _ | access _ htarget _ ih | subscript _ htarget _ _ ih _ =>
      exact OpensWith.append (fun _ => ih) htarget.ne_nil (by simp) _ rfl hts
  | conditional hbody _ _ _ _ _ ih _ _ =>
      exact OpensWith.append (fun _ => ih) hbody.ne_nil (by simp) _ rfl hts
  | @infixed op _ _ _ _ _ _ hleft _ _ _ ih _ =>
      obtain ⟨m, ms, hmarks, hm⟩ := op.exists_marks
      rw [hmarks, List.map_cons, List.cons_append] at hts
      exact OpensWith.append (fun _ => ih) hleft.ne_nil hm _ rfl hts

theorem Reads.enclosed_eq_nil {l : Level} {ts : List Token} {e : Expr} (h : Reads l ts e)
    (hts : ts.head? ≠ some (.mark .openRound)) : e.enclosed = [] := by
  cases h with
  | group _ | tuple _ _ => exact absurd rfl hts
  | _ => rfl

/-! ### Parentheses that are tried first -/

def ItemPhrase.ofContext (p : Phrase) : ItemPhrase :=
  ⟨p, none⟩

/-- Expressions as items without targets; there has to be one, and neither a named expression nor a
standalone form is one. -/
def asItems? (es : List Expr) : Option (List WithItem) :=
  if es ≠ [] ∧ ∀ e ∈ es, e.readLevel.rank < Level.namedExpr.rank then some (es.map (⟨·, none⟩))
  else none

/-- The items that the parentheses of a lone context are taken to enclose. -/
def enclosedItems? : List WithItem → Option (List WithItem)
  | [⟨context, none⟩] => asItems? context.enclosed
  | _ => none

/-- A token that no item begins with. -/
def BeginsNoItem (t : Token) : Prop :=
  ∀ fuel rest, readExpr fuel Level.namedExpr.rank (t :: rest) = none

theorem beginsNoItem_closeRound : BeginsNoItem (.mark .closeRound) := by
  rintro (_ | _ | fuel) rest <;> rfl

/-- Standalone forms are read between brackets and after the word of a target only. -/
theorem beginsNoItem_of_leads {t : Token} (h : t.leads = true) : BeginsNoItem t := by
  have htoken : t = .mark .star ∨ t = .mark .doubleStar ∨ t = .mark .yieldWord := by
    simpa [Token.leads] using h
  rintro (_ | _ | fuel) rest
  · rfl
  · rfl
  · rcases htoken with rfl | rfl | rfl
    · rfl
    · rfl
    · rw [readExpr, readHead]
      · simp only [Mark.prefixOp?, le_refl, if_true]
        split <;> rfl
      all_goals rintro ⟨⟩

namespace BeginsNoItem

variable {t : Token} (h : BeginsNoItem t)

include h

theorem readWithItem_eq_none (rest : List WithToken) : readWithItem (.plain t :: rest) = none := by
  have hspan : WithToken.lexicon.span (.plain t :: rest) = _ :=
    WithToken.lexicon.span_plain_cons t rest
  rw [readWithItem, Lexicon.readPart, hspan]
  simp only [h _ _, Option.bind_eq_bind, Option.bind_none]

theorem readWithItems_eq_none (rest : List WithToken) :
    readWithItems (.plain t :: rest) = none := by
  rw [readWithItems, h.readWithItem_eq_none]
  rfl

/-- No items go on after a comma before it. -/
theorem readMoreItems_comma (rest : List WithToken) (fuel : Nat) :
    readMoreItems fuel (.plain (.mark .comma) :: .plain t :: rest) =
      ([], .plain (.mark .comma) :: .plain t :: rest) := by
  cases fuel with
  | zero => rfl
  | succ fuel => rw [readMoreItems, h.readWithItem_eq_none]

end BeginsNoItem

theorem map_commaTokens (p : Phrase) (parts : List Phrase) :
    (commaTokens ((p :: parts).map Phrase.tokens)).map WithToken.plain =
      (ItemPhrase.ofContext p).tokens ++ moreTokens (parts.map .ofContext) := by
  rw [List.map_cons, commaTokens_cons]
  simp [ItemPhrase.tokens, ItemPhrase.targetTokens, ItemPhrase.ofContext, moreTokens,
    List.map_flatMap, List.flatMap_map]

/-- What is as loose as a named expression is one, or begins with a token that no item begins with. -/
theorem Reads.becomes_or_leads {l : Level} {ts : List Token} {e : Expr} (h : Reads l ts e)
    (hlevel : ¬ l.rank < Level.namedExpr.rank) :
    (∃ name more, ts = .name name :: .mark .becomes :: more) ∨
      ∃ t more, ts = t :: more ∧ t.leads = true := by
  cases h with
  | named target _ _ => exact Or.inl ⟨target, _, rfl⟩
  | standalone hop _ _ =>
      obtain ⟨m, ms, hmarks, hleads⟩ := UnaryOp.exists_standaloneMarks hop
      exact Or.inr ⟨.mark m, _, by rw [hmarks]; rfl, hleads⟩
  | @prefixed _ op _ _ _ _ _ _ => exact absurd (by cases op <;> decide) hlevel
  | @infixed op _ _ _ _ _ _ _ _ _ _ => exact absurd (by cases op <;> decide) hlevel
  | _ => exact absurd (by decide) hlevel

/-- A name that is read by itself. -/
def namePhrase (name : Identifier) : Phrase :=
  ⟨.atom, [.name name], .identifier name⟩

theorem exists_first_not {α : Type} {P : α → Prop} [DecidablePred P] {xs : List α}
    (h : ¬ ∀ x ∈ xs, P x) :
    ∃ before x after, xs = before ++ x :: after ∧ (∀ y ∈ before, P y) ∧ ¬ P x := by
  have hsome : (xs.find? fun x => !P x).isSome := by
    rw [List.find?_isSome]
    simpa using h
  obtain ⟨x, hx⟩ := Option.isSome_iff_exists.1 hsome
  obtain ⟨hfails, before, after, hxs, hbefore⟩ := List.find?_eq_some_iff_append.1 hx
  exact ⟨before, x, after, hxs, by simpa using hbefore, by simpa using hfails⟩

section Enclosed

variable {parts : List Phrase} (h : ∀ p ∈ parts, Reads p.level p.tokens p.expr)

include h

theorem derived_ofContext (hlevel : ∀ p ∈ parts, p.level.rank < Level.namedExpr.rank) :
    ∀ p ∈ parts.map ItemPhrase.ofContext, p.Derived := by
  intro p hp
  obtain ⟨q, hq, rfl⟩ := List.mem_map.1 hp
  exact ⟨h q hq, hlevel q hq, by simp [ItemPhrase.ofContext]⟩

/-- Whether parts can be items is told from their levels. -/
theorem asItems?_parts :
    asItems? (parts.map Phrase.expr) =
      if parts ≠ [] ∧ ∀ p ∈ parts, p.level.rank < Level.namedExpr.rank then
        some (parts.map (⟨Phrase.expr ·, none⟩))
      else none := by
  have hlevels : (∀ e ∈ parts.map Phrase.expr, e.readLevel.rank < Level.namedExpr.rank) ↔
      ∀ p ∈ parts, p.level.rank < Level.namedExpr.rank := by
    rw [List.forall_mem_map]
    exact forall₂_congr fun p hp => by rw [← (h p hp).level_eq]
  rw [asItems?, List.map_map]
  exact if_congr (and_congr (by simp) hlevels) rfl rfl

/-- Where all parts are tighter than named expressions, they are read as items. -/
theorem readWithItems_enclosed (hne : parts ≠ [])
    (hlevel : ∀ p ∈ parts, p.level.rank < Level.namedExpr.rank) {rest : List WithToken}
    (hrest : EndsItem rest) (hlast : ∀ fuel, readMoreItems fuel rest = ([], rest)) :
    readWithItems ((commaTokens (parts.map Phrase.tokens)).map .plain ++ rest) =
      some (parts.map (⟨Phrase.expr ·, none⟩), rest) := by
  obtain ⟨p, others, rfl⟩ := List.exists_cons_of_ne_nil hne
  have hread := readWithItems_eq hrest hlast (derived_ofContext h hlevel)
  rw [map_commaTokens, List.append_assoc]
  simpa [ItemPhrase.item, ItemPhrase.ofContext, Function.comp_def] using hread

/-- So they are before a closing parenthesis, and before a comma that stands in front of one. -/
theorem exists_readWithItems_closed (hne : parts ≠ [])
    (hlevel : ∀ p ∈ parts, p.level.rank < Level.namedExpr.rank) {last : List Token}
    (hlast : last = [] ∨ last = [.mark .comma]) (rest : List WithToken) :
    ∃ more, skipComma more = .plain (.mark .closeRound) :: rest ∧
      readWithItems ((commaTokens (parts.map Phrase.tokens)).map .plain ++
        (last.map .plain ++ .plain (.mark .closeRound) :: rest)) =
          some (parts.map (⟨Phrase.expr ·, none⟩), more) := by
  rcases hlast with rfl | rfl
  · exact ⟨_, rfl, readWithItems_enclosed h hne hlevel (.mark (by decide) _)
      (readMoreItems_of_ne (by decide) _)⟩
  · exact ⟨_, rfl, readWithItems_enclosed h hne hlevel (.mark (by decide) _)
      (beginsNoItem_closeRound.readMoreItems_comma rest)⟩

/-- Where a part is a named expression, the reader goes no further than to its sign. -/
theorem exists_readWithItems_named {before after : List Phrase} {p : Phrase}
    (hparts : parts = before ++ p :: after)
    (hbefore : ∀ q ∈ before, q.level.rank < Level.namedExpr.rank) {name : Identifier}
    {more : List Token} (htokens : p.tokens = .name name :: .mark .becomes :: more)
    (rest : List WithToken) :
    ∃ items rest', readWithItems ((commaTokens (parts.map Phrase.tokens)).map .plain ++ rest) =
      some (items, .plain (.mark .becomes) :: rest') := by
  subst hparts
  have hread : ∀ q ∈ before ++ [namePhrase name],
      Reads q.level q.tokens q.expr ∧ q.level.rank < Level.namedExpr.rank := by
    intro q hq
    rcases List.mem_append.1 hq with hq | hq
    · exact ⟨h q (List.mem_append_left _ hq), hbefore q hq⟩
    · rw [List.mem_singleton.1 hq]
      exact ⟨.identifier name, show Level.atom.rank < Level.namedExpr.rank by decide⟩
  have hsplit : ∃ tail, (commaTokens ((before ++ p :: after).map Phrase.tokens)).map .plain =
      (commaTokens ((before ++ [namePhrase name]).map Phrase.tokens)).map .plain ++
        WithToken.plain (.mark .becomes) :: tail := by
    refine ⟨(more ++ after.flatMap fun q => .mark .comma :: q.tokens).map .plain, ?_⟩
    cases before <;>
      simp [commaTokens_cons, htokens, namePhrase, List.flatMap_map, List.map_flatMap]
  obtain ⟨tail, htail⟩ := hsplit
  have hitems := readWithItems_enclosed (fun q hq => (hread q hq).1) (by simp)
    (fun q hq => (hread q hq).2) (.mark (m := .becomes) (by decide) (tail ++ rest))
    (readMoreItems_of_ne (by decide) _)
  rw [htail, List.append_assoc, List.cons_append, hitems]
  exact ⟨_, _, rfl⟩

/-- Where a part begins with a token that no item begins with, the reader goes no further than to the
comma before it. -/
theorem readWithItems_before {before after : List Phrase} {p : Phrase}
    (hparts : parts = before ++ p :: after)
    (hbefore : ∀ q ∈ before, q.level.rank < Level.namedExpr.rank) {t : Token} {more : List Token}
    (htokens : p.tokens = t :: more) (ht : BeginsNoItem t) (rest : List WithToken) :
    ∀ read ∈ readWithItems ((commaTokens (parts.map Phrase.tokens)).map .plain ++ rest),
      ∃ rest', read.2 = .plain (.mark .comma) :: .plain t :: rest' := by
  subst hparts
  cases before with
  | nil =>
      intro read hread
      rw [List.nil_append, List.map_cons, commaTokens_cons, htokens, List.cons_append, List.map_cons,
        List.cons_append, ht.readWithItems_eq_none] at hread
      cases hread
  | cons q before =>
      have hsplit : ∃ tail,
          (commaTokens ((q :: before ++ p :: after).map Phrase.tokens)).map .plain =
            (commaTokens ((q :: before).map Phrase.tokens)).map .plain ++
              WithToken.plain (.mark .comma) :: .plain t :: tail := by
        refine ⟨(more ++ after.flatMap fun q => .mark .comma :: q.tokens).map .plain, ?_⟩
        simp [commaTokens_cons, htokens, List.flatMap_map, List.map_flatMap]
      obtain ⟨tail, htail⟩ := hsplit
      have hitems := readWithItems_enclosed (fun r hr => h r (List.mem_append_left _ hr)) (by simp)
        hbefore (.mark (m := .comma) (by decide) (.plain t :: (tail ++ rest)))
        (ht.readMoreItems_comma _)
      rw [htail, List.append_assoc, List.cons_append, List.cons_append, hitems]
      rintro read ⟨⟩
      exact ⟨_, rfl⟩

/-- Where a part is too loose for an item, the items do not end at the closing parenthesis. -/
theorem readWithItems_loose (hlevel : ¬ ∀ p ∈ parts, p.level.rank < Level.namedExpr.rank)
    (rest after : List WithToken) :
    ∀ read ∈ readWithItems ((commaTokens (parts.map Phrase.tokens)).map .plain ++ rest),
      skipComma read.2 ≠ .plain (.mark .closeRound) :: after := by
  obtain ⟨before, p, others, hparts, hbefore, hp⟩ := exists_first_not hlevel
  rcases (h p (by simp [hparts])).becomes_or_leads hp with
    ⟨name, more, htokens⟩ | ⟨t, more, htokens, ht⟩
  · obtain ⟨items, rest', hread⟩ := exists_readWithItems_named h hparts hbefore htokens rest
    rw [hread]
    rintro read ⟨⟩
    simp [skipComma]
  · intro read hread
    obtain ⟨rest', hrest⟩ :=
      readWithItems_before h hparts hbefore htokens (beginsNoItem_of_leads ht) rest read hread
    rw [hrest, skipComma]
    rintro ⟨⟩
    cases ht

end Enclosed

/-- Parentheses around a header are taken for those of the items only if the header ends after them,
and only if what they enclose can be items. -/
theorem readEnclosedItems_eq {content : List Token} {parts : List Phrase}
    (h : EnclosedTokens content parts) (rest : List WithToken)
    (hlegal : rest = [.plain (.mark .colon)] → ∀ p ∈ parts, p.expr.Legal) :
    readEnclosedItems (.plain (.mark .openRound) ::
        (content.map .plain ++ .plain (.mark .closeRound) :: rest)) =
      if rest = [.plain (.mark .colon)] then asItems? (parts.map Phrase.expr) else none := by
  have hitems := asItems?_parts h.derived
  obtain ⟨last, rfl, hlast⟩ := h.content_eq
  rw [List.map_append, List.append_assoc, readEnclosedItems]
  by_cases hne : parts = []
  · subst hne
    obtain rfl : last = [] := hlast.resolve_right fun hlast => hlast.2 rfl
    have hnone := beginsNoItem_closeRound.readWithItems_eq_none rest
    rw [if_neg fun hall => hall.1 rfl, List.map_nil] at hitems
    simp [hnone, hitems]
  by_cases hlevel : ∀ p ∈ parts, p.level.rank < Level.namedExpr.rank
  · obtain ⟨more, hskip, hread⟩ :=
      exists_readWithItems_closed h.derived hne hlevel (hlast.imp_right And.left) rest
    have hitemsLegal : rest = [.plain (.mark .colon)] →
        ∀ item ∈ parts.map (⟨Phrase.expr ·, none⟩), WithItem.Legal item := by
      intro hrest
      rw [List.forall_mem_map]
      exact fun p hp =>
        ⟨(h.derived p hp).isStandalone_eq (hlevel p hp), hlegal hrest p hp, by simp⟩
    have hends : (skipComma more = [.plain (.mark .closeRound), .plain (.mark .colon)] ∧
        ∀ item ∈ parts.map (⟨Phrase.expr ·, none⟩), WithItem.Legal item) ↔
          rest = [.plain (.mark .colon)] := by
      rw [hskip, List.cons.injEq, eq_self_iff_true, true_and]
      exact and_iff_left_of_imp hitemsLegal
    rw [if_pos ⟨hne, hlevel⟩] at hitems
    rw [hread, hitems]
    exact if_congr hends rfl rfl
  · have hloose := readWithItems_loose h.derived hlevel
      (last.map .plain ++ .plain (.mark .closeRound) :: rest) [.plain (.mark .colon)]
    rw [if_neg fun hall => hlevel hall.2] at hitems
    rw [hitems, ite_self]
    cases hread : readWithItems ((commaTokens (parts.map Phrase.tokens)).map .plain ++
        (last.map .plain ++ .plain (.mark .closeRound) :: rest)) with
    | none => rfl
    | some read => exact if_neg fun hends => hloose read hread hends.1

end Unparse
