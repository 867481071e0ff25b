import Unparse.Expr.Build
import Unparse.Proofs.Construction
import Unparse.Proofs.OperatorForm
import Unparse.Proofs.Separators

/-!
A reader of subscripts, dictionaries and sets. Commas and colons mean other things there than they
do within an expression, so it cuts what stands between the brackets at those that no expression owns,
and only then reads the parts, each with the limit of its place.
-/

namespace Unparse

/-! ### Reading -/

/-- The expression below the limit that all tokens together are. -/
def readBelow (limit : Nat) (tokens : List Token) : Option Expr :=
  match readExpr (3 * tokens.length + 1) limit tokens with
  | some (e, []) => some e
  | _ => none

/-- What stands before the closing sign at the end. -/
def closedBy {α : Type} [DecidableEq α] (close : α) (xs : List α) : Option (List α) :=
  if xs.getLast? = some close then some xs.dropLast else none

theorem closedBy_append {α : Type} [DecidableEq α] (close : α) (xs : List α) :
    closedBy close (xs ++ [close]) = some xs := by
  simp [closedBy]

/-- The items of what stands between brackets, in their parts. -/
def contentItems (content : List Char) : Option (List (List (List Token))) :=
  (scanChars content).map itemsOfTokens

/-- A bound of a slice; one that is left out is empty. -/
def readBound (part : List Token) : Option Expr :=
  if part = [] then some .empty else readBelow (Level.lambda.rank + 1) part

/-- An item of a subscript. How many colons there are tells an index from a slice, and a slice
without a step from one whose step is left out. -/
def readItem : List (List Token) → Option SubscriptItem
  | [value] => (readAll value).map .index
  | [lower, upper] => do
    let lower ← readBound lower
    let upper ← readBound upper
    return .slice lower upper
  | [lower, upper, step] => do
    let lower ← readBound lower
    let upper ← readBound upper
    let step ← readBound step
    return .stride lower upper step
  | _ => none

/-- What stands between braces: a mapping that is unpacked, an element, or a key and its value. -/
def readEntry : List (List Token) → Option Expr
  | [.mark .doubleStar :: operand] =>
    (readBelow (Level.bitOr.rank + 1) operand).map (.unary .doubleStarred)
  | [value] => readAll value
  | [key, value] => do
    let key ← readBelow (Level.lambda.rank + 1) key
    let value ← readBelow (Level.lambda.rank + 1) value
    return .pair key value
  | _ => none

/-- Whether braces around an expression make a dictionary. -/
def Expr.isEntry : Expr → Bool
  | .pair _ _ | .unary .doubleStarred _ => true
  | _ => false

/-- The items of a subscript from what stands between its brackets. -/
def readItems (content : List Char) : Option (List SubscriptItem) := do
  let items ← contentItems content
  items.mapM readItem

/-- The dictionary or the set that stands between braces; there is none of both at once. -/
def readBraces (content : List Char) : Option Expr := do
  let items ← contentItems content
  let elements ← items.mapM readEntry
  if elements.all Expr.isEntry then some (.display .dict elements)
  else if elements.any Expr.isEntry then none
  else some (.display .set elements)

/-- The subscript that tokens are: the last square brackets, and the target before them. -/
def readSubscript (tokens : List Token) : Option Expr := do
  let (before, group) := cutLastSquare .outer [] [] tokens
  let target ← readBelow (Level.call.rank + 1) before
  let rest ← expect .openSquare group
  let content ← closedBy (.mark .closeSquare) rest
  let items ← (itemsOfTokens content).mapM readItem
  return .subscript target items

/-- The dictionary, set or subscript that a text is. -/
def readBracketed (text : String) : Option Expr :=
  match text.toList with
  | '\x7b' :: rest => (closedBy '\x7d' rest).bind readBraces
  | cs => (scanChars cs).bind readSubscript

/-! ### Items -/

theorem Reads.readBelow_eq {l : Level} {ts : List Token} {e : Expr} (h : Reads l ts e) {limit : Nat}
    (hlevel : l.rank < limit) (hlimit : limit ≤ Level.namedExpr.rank + 1) :
    readBelow limit ts = some e := by
  have hread := h.readsFully limit [] (3 * ts.length + 1) hlevel hlimit (Nat.lt_succ_self _)
  rw [List.append_nil] at hread
  simp only [readBelow, hread]

/-- Parts that an item is written in: between them stand the only colons of the item that no
expression owns, and no commas. -/
structure ItemReading (cs : List Char) (item : List (List Token)) : Prop where
  spelled : Spelled cs (colonTokens item)
  ne_nil : item ≠ []
  nested : ∀ part ∈ item, ∀ enclosed, Nested enclosed part

theorem ItemReading.single {e : Expr} {ts : List Token} (h : Reading e ts) :
    ItemReading e.text.toList [ts] := by
  refine ⟨?_, by simp, List.forall_mem_singleton.2 h.reads.nested⟩
  rw [colonTokens_singleton]
  exact h.spelled

/-- Characters and the parts of the items that they are. -/
abbrev WrittenItem := List Char × List (List Token)

def itemSpellings (items : List WrittenItem) : List (List Char × List Token) :=
  items.map fun item => (item.1, colonTokens item.2)

section Items

variable {items : List WrittenItem} (h : ∀ item ∈ items, ItemReading item.1 item.2)

include h

theorem spelled_itemSpellings :
    ∀ spelling ∈ itemSpellings items, Spelled spelling.1 spelling.2 := by
  intro spelling hspelling
  obtain ⟨item, hitem, rfl⟩ := List.mem_map.1 hspelling
  exact (h item hitem).spelled

theorem itemsOfTokens_eq :
    itemsOfTokens (commaTokens ((itemSpellings items).map Prod.snd)) = items.map Prod.snd := by
  by_cases hne : items = []
  · subst hne
    rfl
  · have htokens := (spelled_items (itemSpellings items) (by simpa [itemSpellings] using hne)
      (spelled_itemSpellings h)).tokens_ne_nil
    have hcolons : (itemSpellings items).map Prod.snd = (items.map Prod.snd).map colonTokens := by
      simp [itemSpellings, Function.comp_def]
    rw [itemsOfTokens, if_neg htokens, hcolons]
    refine cutTokens_commaTokens (by simpa using hne) fun item hitem => ?_
    obtain ⟨written, hwritten, rfl⟩ := List.mem_map.1 hitem
    have hread := h written hwritten
    exact ⟨hread.ne_nil, fun part hpart => hread.nested part hpart false⟩

/-- What stands between brackets is cut into the parts of its items. -/
theorem contentItems_eq :
    contentItems (commaChars (items.map Prod.fst)) = some (items.map Prod.snd) := by
  have hchars : items.map Prod.fst = (itemSpellings items).map Prod.fst := by
    simp [itemSpellings, Function.comp_def]
  rw [contentItems, hchars]
  by_cases hne : items = []
  · subst hne
    rfl
  · have hspelled := spelled_items (itemSpellings items) (by simpa [itemSpellings] using hne)
      (spelled_itemSpellings h)
    rw [hspelled.spells.scanChars_eq, Option.map_some, itemsOfTokens_eq h]

theorem nested_itemSpellings :
    Nested true (commaTokens ((itemSpellings items).map Prod.snd)) := by
  refine .commaTokens fun run hrun => ?_
  simp only [itemSpellings, List.map_map, List.mem_map] at hrun
  obtain ⟨item, hitem, rfl⟩ := hrun
  exact .intercalate (by decide) fun part hpart => (h item hitem).nested part hpart true

end Items

/-- Where each of them can be written so that it is read back, all of them can. -/
theorem exists_items {α : Type} {text : α → String} {read : List (List Token) → Option α}
    {xs : List α} (h : ∀ x ∈ xs, ∃ item, ItemReading (text x).toList item ∧ read item = some x) :
    ∃ items : List WrittenItem, items.map Prod.fst = xs.map (fun x => (text x).toList) ∧
      (∀ item ∈ items, ItemReading item.1 item.2) ∧
      (items.map Prod.snd).mapM read = some xs := by
  induction xs with
  | nil => exact ⟨[], rfl, List.forall_mem_nil _, rfl⟩
  | cons x xs ih =>
      obtain ⟨hx, hxs⟩ := List.forall_mem_cons.1 h
      obtain ⟨item, hitem, hread⟩ := hx
      obtain ⟨items, hchars, hitems, hreads⟩ := ih hxs
      refine ⟨((text x).toList, item) :: items, by rw [List.map_cons, List.map_cons, hchars],
        List.forall_mem_cons.2 ⟨hitem, hitems⟩, ?_⟩
      rw [List.map_cons, List.mapM_cons, hread, hreads]
      rfl

/-! ### Subscripts -/

/-- An operator expression, or nothing. -/
inductive BoundForm : Expr → Prop where
  | omitted : BoundForm .empty
  | value {e : Expr} (h : OperatorForm e) : BoundForm e

/-- An index or a slice of operator expressions, any bound of which may be left out. -/
inductive ItemForm : SubscriptItem → Prop where
  | index {value : Expr} (hvalue : OperatorForm value) : ItemForm (.index value)
  | slice {lower upper : Expr} {step : Option Expr} (hlower : BoundForm lower)
    (hupper : BoundForm upper) (hstep : ∀ e ∈ step, BoundForm e) :
    ItemForm (mkSlice lower upper step)

/-- Tokens that a bound is written as, in terms of what the reader makes of them. -/
structure BoundReading (e : Expr) (part : List Token) : Prop where
  reads : readBound part = some e
  spelled : e.text.toList = [] ∧ part = [] ∨ Spelled e.text.toList part
  head_ne : e.text.toList.head? ≠ some '='
  nested : ∀ enclosed, Nested enclosed part

theorem BoundForm.exists_reading {e : Expr} (h : BoundForm e) :
    ∃ part, BoundReading (Slot.slicePart.place e) part := by
  cases h with
  | omitted =>
      have htext : (Slot.slicePart.place .empty).text.toList = [] := rfl
      exact ⟨[], rfl, Or.inl ⟨htext, rfl⟩, by simp [htext], .nil⟩
  | value h =>
      obtain ⟨ts, hread, hlevel⟩ := h.exists_placed .slicePart
      refine ⟨ts, ?_, Or.inr hread.spelled, hread.head_ne, hread.reads.nested⟩
      rw [readBound, if_neg hread.spelled.tokens_ne_nil]
      exact hread.reads.readBelow_eq (hlevel.trans (by decide)) (by decide)

/-- A colon between characters that spell tokens, or that are none. -/
theorem Spelled.around_colon {cs ds : List Char} {ts us : List Token}
    (h : cs = [] ∧ ts = [] ∨ Spelled cs ts) (h' : ds = [] ∧ us = [] ∨ Spelled ds us)
    (hhead : ds.head? ≠ some '=') :
    Spelled (cs ++ ':' :: ds) (ts ++ .mark .colon :: us) := by
  have hcolon : Spelled (':' :: ds) (.mark .colon :: us) := by
    rcases h' with ⟨rfl, rfl⟩ | h'
    · exact spelled_mark .colon
    · exact h'.after_colon hhead
  rcases h with ⟨rfl, rfl⟩ | h
  · exact hcolon
  · exact h.before_colon hcolon

section Slices

variable {lower upper step : Expr} {ts us vs : List Token} (h : BoundReading lower ts)
  (h' : BoundReading upper us)

include h h'

theorem ItemReading.slice :
    ItemReading (SubscriptItem.slice lower upper).text.toList [ts, us] := by
  have hspelled := Spelled.around_colon h.spelled h'.spelled h'.head_ne
  refine ⟨?_, by simp, List.forall_mem_cons.2 ⟨h.nested, List.forall_mem_singleton.2 h'.nested⟩⟩
  simpa [SubscriptItem.text, colonTokens_cons_cons, colonTokens_singleton] using hspelled

theorem ItemReading.stride (h'' : BoundReading step vs) :
    ItemReading (SubscriptItem.stride lower upper step).text.toList [ts, us, vs] := by
  have hrest := Spelled.around_colon h'.spelled h''.spelled h''.head_ne
  have hhead : (upper.text.toList ++ ':' :: step.text.toList).head? ≠ some '=' := by
    cases hupper : upper.text.toList with
    | nil => simp
    | cons c cs => simpa [hupper] using h'.head_ne
  have hspelled := Spelled.around_colon h.spelled (Or.inr hrest) hhead
  refine ⟨?_, by simp, List.forall_mem_cons.2 ⟨h.nested,
    List.forall_mem_cons.2 ⟨h'.nested, List.forall_mem_singleton.2 h''.nested⟩⟩⟩
  simpa [SubscriptItem.text, colonTokens_cons_cons, colonTokens_singleton] using hspelled

end Slices

theorem ItemForm.exists_reading {item : SubscriptItem} (h : ItemForm item) :
    ∃ parts, ItemReading item.text.toList parts ∧ readItem parts = some item := by
  cases h with
  | index h =>
      obtain ⟨ts, hread⟩ := h.exists_reading
      refine ⟨[ts], ItemReading.single hread, ?_⟩
      rw [readItem, hread.reads.readAll_eq, Option.map_some]
  | @slice lower upper step hlower hupper hstep =>
      obtain ⟨ts, hts⟩ := hlower.exists_reading
      obtain ⟨us, hus⟩ := hupper.exists_reading
      cases step with
      | none =>
          refine ⟨[ts, us], ItemReading.slice hts hus, ?_⟩
          simp [readItem, hts.reads, hus.reads, mkSlice]
      | some step =>
          obtain ⟨vs, hvs⟩ := (hstep step rfl).exists_reading
          refine ⟨[ts, us, vs], ItemReading.stride hts hus hvs, ?_⟩
          simp [readItem, hts.reads, hus.reads, hvs.reads, mkSlice]

/-! ### Dictionaries and sets -/

/-- A pair of operator expressions, or one that is unpacked. -/
inductive EntryForm : Expr → Prop where
  | pair {key value : Expr} (hkey : OperatorForm key) (hvalue : OperatorForm value) :
    EntryForm (.mkPair key value)
  | unpacked {e : Expr} (h : OperatorForm e) : EntryForm (.mkUnary .doubleStarred e)

/-- A dictionary of such entries, or a set of operator expressions with one element at least. -/
inductive BracesForm : Expr → Prop where
  | dict {entries : List Expr} (h : ∀ e ∈ entries, EntryForm e) :
    BracesForm (.display .dict entries)
  | set {elements : List Expr} (hne : elements ≠ []) (h : ∀ e ∈ elements, OperatorForm e) :
    BracesForm (.display .set elements)

theorem EntryForm.isEntry_eq {e : Expr} (h : EntryForm e) : e.isEntry = true := by
  cases h <;> rfl

theorem OperatorForm.isEntry_eq {e : Expr} (h : OperatorForm e) : e.isEntry = false := by
  cases h with
  | @unary op hop _ _ => cases op <;> first | rfl | exact (hop rfl).elim
  | @access target _ name =>
      obtain ⟨stored, heq⟩ := target.exists_mkAttribute name
      rw [heq]
      rfl
  | _ => rfl

theorem readEntry_value {e : Expr} {ts : List Token} (h : Reading e ts)
    (hstands : e.isStandalone = false) : readEntry [ts] = some e := by
  obtain ⟨t, more, rfl, hbegins, -⟩ := h.reads.exists_cons
  have hstar : t ≠ .mark .doubleStar := by
    rintro rfl
    rw [hstands] at hbegins
    exact absurd hbegins (by decide)
  rw [← h.reads.readAll_eq, readEntry]
  rintro operand ⟨⟩
  exact hstar rfl

theorem EntryForm.exists_reading {e : Expr} (h : EntryForm e) :
    ∃ parts, ItemReading e.text.toList parts ∧ readEntry parts = some e := by
  cases h with
  | @pair key value hkey hvalue =>
      obtain ⟨ts, hts, hlevel⟩ := hkey.exists_placed .pairPart
      obtain ⟨us, hus, hlevel'⟩ := hvalue.exists_placed .pairPart
      have hspelled := hts.spelled.colon hus.spelled
      have hread : readBelow (Level.lambda.rank + 1) ts = some (Slot.pairPart.place key) :=
        hts.reads.readBelow_eq hlevel (by decide)
      have hread' : readBelow (Level.lambda.rank + 1) us = some (Slot.pairPart.place value) :=
        hus.reads.readBelow_eq hlevel' (by decide)
      refine ⟨[ts, us], ⟨?_, by simp, List.forall_mem_cons.2 ⟨hts.reads.nested,
        List.forall_mem_singleton.2 hus.reads.nested⟩⟩, ?_⟩
      · simpa [Expr.mkPair, Expr.text, colonTokens_cons_cons, colonTokens_singleton] using hspelled
      · simp [readEntry, hread, hread', Expr.mkPair]
  | unpacked h =>
      obtain ⟨ts, hts, hlevel⟩ := h.exists_placed (.operand .doubleStarred)
      have hspelled := (spelled_mark .doubleStar).spaced hts.spelled
      have hnested (enclosed : Bool) : Nested enclosed (.mark .doubleStar :: ts) :=
        .cons rfl (hts.reads.nested enclosed)
      refine ⟨[.mark .doubleStar :: ts], ⟨?_, by simp, by simpa using hnested⟩, ?_⟩
      · simpa [Expr.mkUnary, Expr.text, UnaryOp.text, Mark.chars, colonTokens_singleton]
          using hspelled
      · rw [readEntry, hts.reads.readBelow_eq (hlevel.trans (by decide)) (by decide)]
        rfl

/-- What stands between braces is read as a dictionary or a set of the same elements. -/
theorem readBraces_eq {elements : List Expr}
    (h : ∀ e ∈ elements, ∃ parts, ItemReading e.text.toList parts ∧ readEntry parts = some e) :
    readBraces (commaSeparated (exprTexts elements)).toList =
      if elements.all Expr.isEntry then some (.display .dict elements)
      else if elements.any Expr.isEntry then none
      else some (.display .set elements) := by
  obtain ⟨items, hchars, hitems, hreads⟩ := exists_items h
  have hcontent : (commaSeparated (exprTexts elements)).toList =
      commaChars (items.map Prod.fst) := by
    rw [toList_commaSeparated, exprTexts_eq_map, List.map_map, hchars]
    rfl
  rw [readBraces, hcontent, contentItems_eq hitems]
  simp only [Option.bind_eq_bind, Option.bind_some, hreads]

theorem BracesForm.exists_content {e : Expr} (h : BracesForm e) :
    ∃ content : String, e.text = "\x7b" ++ content ++ "\x7d" ∧
      readBraces content.toList = some e := by
  cases h with
  | @dict entries h =>
      have hall : entries.all Expr.isEntry = true :=
        List.all_eq_true.2 fun e he => (h e he).isEntry_eq
      refine ⟨_, rfl, ?_⟩
      rw [readBraces_eq fun e he => (h e he).exists_reading, if_pos hall]
  | @set elements hne h =>
      have hnone (e : Expr) (he : e ∈ elements) : e.isEntry = false := (h e he).isEntry_eq
      obtain ⟨first, rest, rfl⟩ := List.exists_cons_of_ne_nil hne
      refine ⟨_, rfl, ?_⟩
      rw [← exprTexts, readBraces_eq, if_neg, if_neg]
      · simpa using hnone
      · simp [hnone first List.mem_cons_self]
      · intro e he
        obtain ⟨ts, hts⟩ := (h e he).exists_reading
        exact ⟨[ts], .single hts, readEntry_value hts (h e he).isStandalone_eq⟩

/-! ### Subscripts with their targets -/

theorem readItems_eq {items : List SubscriptItem} (h : ∀ item ∈ items, ItemForm item) :
    readItems (commaSeparated (itemTexts items)).toList = some items := by
  obtain ⟨written, hchars, hwritten, hreads⟩ :=
    exists_items fun item hitem => (h item hitem).exists_reading
  have hcontent : (commaSeparated (itemTexts items)).toList =
      commaChars (written.map Prod.fst) := by
    rw [toList_commaSeparated, itemTexts_eq_map, List.map_map, hchars]
    rfl
  rw [readItems, hcontent, contentItems_eq hwritten]
  exact hreads

theorem readSubscript_eq {target : Expr} (htarget : OperatorForm target)
    {items : List SubscriptItem} (h : ∀ item ∈ items, ItemForm item) :
    (scan (Expr.mkSubscript target items).text).bind readSubscript =
      some (.mkSubscript target items) := by
  obtain ⟨ts, hread, hlevel⟩ := htarget.exists_placed .subscriptTarget
  obtain ⟨written, hchars, hwritten, hreads⟩ :=
    exists_items fun item hitem => (h item hitem).exists_reading
  have hsquare := spelled_brackets _ (spelled_itemSpellings hwritten) .openSquare .closeSquare rfl
    rfl (by decide) (by decide) (by decide)
  have hspelled := hread.spelled.before_lone hsquare (by decide) (whole_of_head (by simp))
  have htext : (Expr.mkSubscript target items).text.toList =
      (Slot.subscriptTarget.place target).text.toList ++
        '[' :: (commaChars ((itemSpellings written).map Prod.fst) ++ [']']) := by
    have hitems : (itemSpellings written).map Prod.fst = (itemTexts items).map String.toList := by
      rw [itemTexts_eq_map, List.map_map, itemSpellings, List.map_map]
      exact hchars
    rw [hitems, ← toList_commaSeparated]
    simp [Expr.mkSubscript, Expr.text]
  have hcut := cutLastSquare_eq (hread.reads.nested false) (nested_itemSpellings hwritten)
  have hbefore : readBelow (Level.call.rank + 1) ts = some (Slot.subscriptTarget.place target) :=
    hread.reads.readBelow_eq hlevel (by decide)
  rw [scan, htext, hspelled.spells.scanChars_eq, Option.bind_some, readSubscript, hcut]
  simp only [Option.bind_eq_bind, Option.bind_some, hbefore, expect_cons, closedBy_append,
    itemsOfTokens_eq hwritten, hreads]
  rfl

/-! ### All three -/

/-- A subscript with an operator expression as its target, a dictionary or a set. -/
inductive BracketForm : Expr → Prop where
  | subscript {target : Expr} (htarget : OperatorForm target) {items : List SubscriptItem}
    (hitems : ∀ item ∈ items, ItemForm item) : BracketForm (.mkSubscript target items)
  | braces {e : Expr} (h : BracesForm e) : BracketForm e

/-- A brace is no token, and it holds together with nothing that could make it one. -/
theorem scanChars_brace (cs : List Char) : scanChars ('\x7b' :: cs) = none := by
  have hword : isWordChar '\x7b' = false := by decide +kernel
  have hapart : Apart ['\x7b'] cs := by
    intro x hx y _
    simp only [List.getLast?_singleton, Option.mem_def, Option.some.injEq] at hx
    subst hx
    simp [glued, pairedSigns, hword]
  have hpiece : Token.ofPiece? ['\x7b'] = none := by decide
  have hsplit := splitBy_piece (List.cons_ne_nil '\x7b' []) (List.isChain_singleton _) hapart
  rw [List.singleton_append] at hsplit
  rw [scanChars, hsplit, Token.ofPieces, if_neg (by decide)]
  simp only [hpiece]

theorem BracketForm.readBracketed_eq {e : Expr} (h : BracketForm e) :
    readBracketed e.text = some e := by
  cases h with
  | @subscript target htarget items hitems =>
      have hread := readSubscript_eq htarget hitems
      unfold readBracketed
      split
      · next rest htext =>
          rw [scan, htext, scanChars_brace] at hread
          cases hread
      · exact hread
  | braces h =>
      obtain ⟨content, htext, hread⟩ := h.exists_content
      have hchars : e.text.toList = '\x7b' :: (content.toList ++ ['\x7d']) := by simp [htext]
      rw [readBracketed, hchars]
      simp only [closedBy_append, Option.bind_some, hread]

/-- The items between the brackets of a subscript are read back whatever stands before the brackets,
and so is what stands between braces. With a target that is read back too, so is the whole text, and
no two subscripts, dictionaries and sets have the same one. -/
theorem BracketForm.readBracketed_text :
    (∀ target items, (∀ item ∈ items, ItemForm item) → ∃ content : String,
      (Expr.mkSubscript target items).text =
        (Slot.subscriptTarget.place target).text ++ "[" ++ content ++ "]" ∧
      readItems content.toList = some items) ∧
    (∀ e, BracesForm e → ∃ content : String, e.text = "\x7b" ++ content ++ "\x7d" ∧
      readBraces content.toList = some e) ∧
    ∀ e, BracketForm e → readBracketed e.text = some e ∧
      ∀ f, BracketForm f → f.text = e.text → f = e := by
  refine ⟨fun target items hitems => ⟨_, rfl, readItems_eq hitems⟩, fun e he => he.exists_content,
    fun e he => ⟨he.readBracketed_eq, fun f hf htext => ?_⟩⟩
  have hread := hf.readBracketed_eq
  rw [htext, he.readBracketed_eq, Option.some.injEq] at hread
  exact hread.symm

/-- An index and a bound that are lambdas, and a step that is there but empty. The colon of a bare lambda
is its own; as a bound, a lambda is parenthesized. -/
def colonItems : List SubscriptItem :=
  [.index (.mkLambda [sampleName] sampleExpr),
    mkSlice .empty (.mkLambda [] sampleExpr) (some sampleExpr), mkSlice .empty .empty (some .empty)]

theorem itemForm_colonItems : ∀ item ∈ colonItems, ItemForm item := by
  have hx : OperatorForm sampleExpr := .identifier _
  simp only [colonItems, List.forall_mem_cons]
  refine ⟨.index (.lambda _ hx), .slice .omitted (.value (.lambda _ hx)) ?_,
    .slice .omitted .omitted ?_, List.forall_mem_nil _⟩
  · rintro e ⟨⟩
    exact .value hx
  · rintro e ⟨⟩
    exact .omitted

/-- A pair with a lambda as its value, and an unpacking. -/
def unpackingDict : Expr :=
  .display .dict [.mkPair sampleExpr (.mkLambda [] sampleExpr), .mkUnary .doubleStarred sampleExpr]

theorem bracesForm_unpackingDict : BracesForm unpackingDict := by
  have hx : OperatorForm sampleExpr := .identifier _
  exact .dict (List.forall_mem_cons.2 ⟨.pair hx (.lambda _ hx),
    List.forall_mem_singleton.2 (.unpacked hx)⟩)

theorem colons_readBracketed_text :
    (∀ item ∈ colonItems, ItemForm item) ∧ BracesForm unpackingDict ∧
    BracketForm (.mkSubscript sampleExpr colonItems) ∧ BracketForm unpackingDict ∧
    (Expr.mkSubscript sampleExpr colonItems).text = "x[lambda x: x, :(lambda: x):x, ::]" ∧
    unpackingDict.text = "\x7bx: lambda: x, ** x\x7d" ∧
    (∃ content : String,
      (Expr.mkSubscript sampleExpr colonItems).text =
        (Slot.subscriptTarget.place sampleExpr).text ++ "[" ++ content ++ "]" ∧
      readItems content.toList = some colonItems) ∧
    (∃ content : String, unpackingDict.text = "\x7b" ++ content ++ "\x7d" ∧
      readBraces content.toList = some unpackingDict) ∧
    ∀ e ∈ [Expr.mkSubscript sampleExpr colonItems, unpackingDict],
      readBracketed e.text = some e ∧ ∀ f, BracketForm f → f.text = e.text → f = e := by
  have hsubscript : BracketForm (.mkSubscript sampleExpr colonItems) :=
    .subscript (.identifier _) itemForm_colonItems
  have hdict : BracketForm unpackingDict := .braces bracesForm_unpackingDict
  obtain ⟨hitems, hbraces, hwhole⟩ := BracketForm.readBracketed_text
  refine ⟨itemForm_colonItems, bracesForm_unpackingDict, hsubscript, hdict, by decide, by decide,
    hitems sampleExpr colonItems itemForm_colonItems, hbraces unpackingDict bracesForm_unpackingDict,
    List.forall_mem_cons.2 ⟨hwhole _ hsubscript, List.forall_mem_singleton.2 (hwhole _ hdict)⟩⟩

end Unparse
