import Unparse.Expr.Comprehension
import Unparse.Proofs.ClauseToken
import Unparse.Proofs.Construction
import Unparse.Proofs.OperatorForm

/-!
A reader of comprehensions: the element, or a key, a colon and a value, then clause after clause, each
with its targets, its iterator and its filters. The words between these parts also stand inside
expressions, so how far a part goes is decided by the limit it is read with.
-/

namespace Unparse

/-! ### Reading -/

/-- The tokens of expressions that come first, and all tokens after them. -/
def spanPlain : List ClauseToken → List Token × List ClauseToken
  | .plain t :: rest => (t :: (spanPlain rest).1, (spanPlain rest).2)
  | rest => ([], rest)

/-- An expression whose rank is below the limit, and the tokens after it. -/
def readPart (limit : Nat) (tokens : List ClauseToken) : Option (Expr × List ClauseToken) := do
  let (ts, rest) := spanPlain tokens
  let (e, unread) ← readExpr (3 * ts.length + 1) limit ts
  return (e, unread.map .plain ++ rest)

/-- An element: an expression as loose as a lambda, or two of them with a colon in between. -/
def readElement (tokens : List ClauseToken) : Option (Expr × List ClauseToken) := do
  let (e, rest) ← readPart (Level.lambda.rank + 1) tokens
  match rest with
  | .plain (.mark .colon) :: rest =>
    let (value, rest) ← readPart (Level.lambda.rank + 1) rest
    return (.pair e value, rest)
  | rest => return (e, rest)

/-- The names up to the word before the iterator, with commas between them, and the tokens after that
word. -/
def readTargets : List ClauseToken → Option (List Identifier × List ClauseToken)
  | .plain (.name name) :: .plain (.mark .inWord) :: rest => some ([name], rest)
  | .plain (.name name) :: .plain (.mark .comma) :: rest =>
    (readTargets rest).map fun read => (name :: read.1, read.2)
  | _ => none

/-- The filters, each a disjunction after a word of its own, and the tokens after them. -/
def readFilters : Nat → List ClauseToken → Option (List Expr × List ClauseToken)
  | 0, _ => none
  | fuel + 1, .plain (.mark .ifWord) :: rest => do
    let (filter, rest) ← readPart (Level.boolOr.rank + 1) rest
    let (filters, rest) ← readFilters fuel rest
    return (filter :: filters, rest)
  | _ + 1, rest => some ([], rest)

/-- A clause after the word that it may begin with, whose iterator is a disjunction. -/
def readLoop (isAsync : Bool) : List ClauseToken → Option (Clause × List ClauseToken)
  | .forWord :: rest => do
    let (targets, rest) ← readTargets rest
    let (iterator, rest) ← readPart (Level.boolOr.rank + 1) rest
    let (filters, rest) ← readFilters (rest.length + 1) rest
    return (⟨isAsync, targets, iterator, filters⟩, rest)
  | _ => none

def readClause : List ClauseToken → Option (Clause × List ClauseToken)
  | .asyncWord :: rest => readLoop true rest
  | tokens => readLoop false tokens

def readClauses : Nat → List ClauseToken → Option (List Clause)
  | _, [] => some []
  | 0, _ => none
  | fuel + 1, tokens => do
    let (c, rest) ← readClause tokens
    let cs ← readClauses fuel rest
    return c :: cs

/-- The comprehension that a text is, without brackets. -/
def readComprehension (text : String) : Option Comprehension := do
  let tokens ← ClauseToken.scan text
  let (element, rest) ← readElement tokens
  let clauses ← readClauses rest.length rest
  if h : clauses = [] then none else some ⟨element, clauses, h⟩

/-! ### Parts -/

theorem spanPlain_eq_span (tokens : List ClauseToken) :
    spanPlain tokens = ClauseToken.lexicon.span tokens := by
  induction tokens with
  | nil => rfl
  | cons t tokens ih =>
      cases t with
      | plain t =>
          rw [spanPlain, ih]
          rfl
      | forWord | asyncWord => rfl

theorem readPart_eq_lexicon (limit : Nat) (tokens : List ClauseToken) :
    readPart limit tokens = ClauseToken.lexicon.readPart limit tokens := by
  rw [readPart, spanPlain_eq_span]
  rfl

/-- What the grammar derives is read as far as it goes when what follows binds no more tightly than the
limit. -/
theorem readPart_eq {l : Level} {ts : List Token} {e : Expr} (h : Reads l ts e) {limit : Nat}
    (hlevel : l.rank < limit) {rest : List ClauseToken}
    (hstop : limit ≤ followRank (spanPlain rest).1) :
    readPart limit (ts.map .plain ++ rest) = some (e, rest) := by
  rw [spanPlain_eq_span] at hstop
  rw [readPart_eq_lexicon]
  exact ClauseToken.lexicon.readPart_eq h hlevel hstop

/-- No token of an expression comes first. -/
def Ends (tokens : List ClauseToken) : Prop :=
  (spanPlain tokens).1 = []

theorem Ends.le_followRank {tokens : List ClauseToken} (h : Ends tokens) (l : Level) :
    l.rank + 1 ≤ followRank (spanPlain tokens).1 := by
  rw [h]
  exact Nat.succ_le_succ l.rank_le_namedExpr

/-! ### Filters -/

/-- The characters of filters, each after a space and its word. -/
def filterChars (filters : List Expr) : List Char :=
  filters.flatMap fun filter => ' ' :: (Mark.ifWord.chars ++ ' ' :: filter.text.toList)

/-- Tokens that filters are written as, in terms of what the reader makes of them. -/
structure FilterReading (filters : List Expr) (tokens : List ClauseToken) : Prop where
  spells : ∀ {cs before}, ClauseToken.Spells cs before →
    ClauseToken.Spells (cs ++ filterChars filters) (before ++ tokens)
  stops : ∀ rest, Ends rest → Level.boolOr.rank + 1 ≤ followRank (spanPlain (tokens ++ rest)).1
  reads : ∀ rest fuel, Ends rest → tokens.length < fuel →
    readFilters fuel (tokens ++ rest) = some (filters, rest)

theorem FilterReading.nil : FilterReading [] [] := by
  refine ⟨fun h => by simpa [filterChars] using h, fun rest hrest => hrest.le_followRank .boolOr, ?_⟩
  intro rest fuel hrest hfuel
  obtain ⟨fuel, rfl⟩ := Nat.exists_eq_add_one_of_ne_zero (n := fuel) (by omega)
  match rest with
  | [] | .forWord :: _ | .asyncWord :: _ => rfl
  | .plain _ :: _ => cases hrest

theorem FilterReading.cons {filter : Expr} {ts : List Token} (h : Reading filter ts)
    (hlevel : filter.readLevel.rank < Level.boolOr.rank + 1) {filters : List Expr}
    {tokens : List ClauseToken} (hfilters : FilterReading filters tokens) :
    FilterReading (filter :: filters)
      (.plain (.mark .ifWord) :: (ts.map .plain ++ tokens)) := by
  refine ⟨fun {cs before} hcs => ?_, fun rest _ => ?_, fun rest fuel hrest hfuel => ?_⟩
  · have hword : ClauseToken.Spells Mark.ifWord.chars [.plain (.mark .ifWord)] :=
      ClauseToken.spells_plain (spells_mark .ifWord)
    have hone := hcs.spaced (hword.spaced (ClauseToken.spells_plain h.spelled.spells))
    simpa [filterChars] using hfilters.spells hone
  · -- A filter is a disjunction at most, so the word of the next one, a conditional's, ends it.
    rw [List.cons_append, spanPlain]
    exact le_rfl
  · obtain ⟨fuel, rfl⟩ := Nat.exists_eq_add_one_of_ne_zero (n := fuel) (by omega)
    simp only [List.length_cons, List.length_append] at hfuel
    rw [List.cons_append, List.append_assoc, readFilters]
    simp only [readPart_eq h.reads hlevel (hfilters.stops rest hrest),
      hfilters.reads rest fuel hrest (by omega), Option.bind_eq_bind, Option.bind_some]
    rfl

theorem exists_filterReading {filters : List Expr} (h : ∀ filter ∈ filters, OperatorForm filter) :
    ∃ tokens, FilterReading (filters.map Slot.comprehensionFilter.place) tokens := by
  induction filters with
  | nil => exact ⟨[], .nil⟩
  | cons filter filters ih =>
      obtain ⟨hfilter, hfilters⟩ := List.forall_mem_cons.1 h
      obtain ⟨ts, hread, hlevel⟩ := hfilter.exists_placed .comprehensionFilter
      obtain ⟨tokens, hrest⟩ := ih hfilters
      exact ⟨_, .cons hread hlevel hrest⟩

/-! ### Clauses -/

theorem readTargets_eq {targets : List Identifier} (hne : targets ≠ []) (rest : List ClauseToken) :
    readTargets ((commaTokens (targets.map fun name => [.name name])).map .plain ++
      .plain (.mark .inWord) :: rest) = some (targets, rest) := by
  induction targets with
  | nil => exact absurd rfl hne
  | cons name targets ih =>
      cases targets with
      | nil => rfl
      | cons next targets =>
          have hread := ih (by simp)
          simp only [List.map_cons] at hread ⊢
          rw [commaTokens_cons_cons, List.singleton_append, List.map_cons, List.map_cons,
            List.cons_append, List.cons_append, readTargets, hread, Option.map_some]

/-- Tokens that a clause is written as, in terms of what the reader makes of them. -/
structure ClauseReading (c : Clause) (tokens : List ClauseToken) : Prop where
  spells : ClauseToken.Spells c.text.toList tokens
  ne_nil : tokens ≠ []
  ends : ∀ rest, Ends (tokens ++ rest)
  reads : ∀ rest, Ends rest → readClause (tokens ++ rest) = some (c, rest)

/-- The characters of a clause after the word that it may begin with. -/
def loopChars (targets : List Identifier) (iterator : Expr) (filters : List Expr) : List Char :=
  ClauseToken.forChars ++ ' ' :: ((commaSeparated (targets.map Identifier.text)).toList ++
    ' ' :: (Mark.inWord.chars ++ ' ' :: iterator.text.toList)) ++ filterChars filters

theorem Clause.toList_text (isAsync : Bool) (targets : List Identifier) (iterator : Expr)
    (filters : List Expr) :
    (Clause.text ⟨isAsync, targets, iterator, filters⟩).toList =
      (if isAsync then ClauseToken.asyncChars ++ [' '] else []) ++
        loopChars targets iterator filters := by
  have hfilters : (String.join ((exprTexts filters).map (" if " ++ ·))).toList =
      filterChars filters := by
    simp [filterChars, exprTexts_eq_map, String.toList_join, List.flatMap_map, Mark.chars]
  cases isAsync <;>
    simp [Clause.text, loopChars, hfilters, ClauseToken.forChars, ClauseToken.asyncChars, Mark.chars]

/-- The tokens of a clause after the word that it may begin with. -/
def loopTokens (targets : List Identifier) (ts : List Token) (filters : List ClauseToken) :
    List ClauseToken :=
  .forWord :: ((commaTokens (targets.map fun name => [.name name])).map .plain ++
    .plain (.mark .inWord) :: (ts.map .plain ++ filters))

section Loop

variable {targets : List Identifier} (hne : targets ≠ []) {iterator : Expr} {ts : List Token}
  (h : Reading iterator ts) {filters : List Expr} {tokens : List ClauseToken}
  (hfilters : FilterReading filters tokens)

include hne h hfilters

theorem spells_loop :
    ClauseToken.Spells (loopChars targets iterator filters) (loopTokens targets ts tokens) := by
  have hnames := ClauseToken.spells_plain (spelled_names hne).spells
  have hword := ClauseToken.spells_plain (spells_mark .inWord)
  have hheader := ClauseToken.spells_forWord.spaced
    (hnames.spaced (hword.spaced (ClauseToken.spells_plain h.spelled.spells)))
  simpa [loopChars, loopTokens] using hfilters.spells hheader

theorem readLoop_eq (hlevel : iterator.readLevel.rank < Level.boolOr.rank + 1) (isAsync : Bool)
    {rest : List ClauseToken} (hrest : Ends rest) :
    readLoop isAsync (loopTokens targets ts tokens ++ rest) =
      some (⟨isAsync, targets, iterator, filters⟩, rest) := by
  have hread := hfilters.reads rest ((tokens ++ rest).length + 1) hrest
    (by rw [List.length_append]; omega)
  rw [loopTokens, List.cons_append, List.append_assoc, List.cons_append, List.append_assoc, readLoop]
  simp only [readTargets_eq hne, readPart_eq h.reads hlevel (hfilters.stops rest hrest), hread,
    Option.bind_eq_bind, Option.bind_some]
  rfl

end Loop

/-- A clause with a target at least, whose iterator and filters are placed operator expressions. -/
inductive ClauseForm : Clause → Prop where
  | clause (isAsync : Bool) {targets : List Identifier} (hne : targets ≠ []) {iterator : Expr}
    (hiterator : OperatorForm iterator) {filters : List Expr}
    (hfilters : ∀ filter ∈ filters, OperatorForm filter) :
    ClauseForm (mkClause isAsync targets iterator filters)

theorem ClauseForm.exists_reading {c : Clause} (h : ClauseForm c) :
    ∃ tokens, ClauseReading c tokens := by
  cases h with
  | @clause isAsync targets hne iterator hiterator filters hfilters =>
      obtain ⟨ts, hread, hlevel⟩ := hiterator.exists_placed .comprehensionIterator
      obtain ⟨others, hothers⟩ := exists_filterReading hfilters
      have hspells := spells_loop hne hread hothers
      have hreads (isAsync : Bool) (rest : List ClauseToken) (hrest : Ends rest) :=
        readLoop_eq hne hread hothers hlevel isAsync hrest
      cases isAsync with
      | false =>
          refine ⟨loopTokens targets ts others, ?_, by simp [loopTokens], fun _ => rfl, hreads false⟩
          rw [mkClause, Clause.toList_text]
          exact hspells
      | true =>
          refine ⟨.asyncWord :: loopTokens targets ts others, ?_, by simp, fun _ => rfl, hreads true⟩
          rw [mkClause, Clause.toList_text]
          simpa using ClauseToken.spells_asyncWord.spaced hspells

/-- The characters of clauses, each after a space. -/
def clauseChars (clauses : List Clause) : List Char :=
  clauses.flatMap fun c => ' ' :: c.text.toList

/-- Tokens that clauses are written as, in terms of what the reader makes of them. -/
structure ClausesReading (clauses : List Clause) (tokens : List ClauseToken) : Prop where
  spells : ∀ {cs before}, ClauseToken.Spells cs before →
    ClauseToken.Spells (cs ++ clauseChars clauses) (before ++ tokens)
  ends : Ends tokens
  reads : ∀ fuel, tokens.length ≤ fuel → readClauses fuel tokens = some clauses

theorem ClausesReading.nil : ClausesReading [] [] :=
  ⟨fun h => by simpa [clauseChars] using h, rfl, fun fuel _ => by rw [readClauses]⟩

theorem ClausesReading.cons {c : Clause} {ts : List ClauseToken} (h : ClauseReading c ts)
    {clauses : List Clause} {tokens : List ClauseToken} (hclauses : ClausesReading clauses tokens) :
    ClausesReading (c :: clauses) (ts ++ tokens) := by
  refine ⟨fun {cs before} hcs => ?_, h.ends tokens, fun fuel hfuel => ?_⟩
  · simpa [clauseChars] using hclauses.spells (hcs.spaced h.spells)
  · have hlength := List.length_pos_iff.2 h.ne_nil
    rw [List.length_append] at hfuel
    obtain ⟨fuel, rfl⟩ := Nat.exists_eq_add_one_of_ne_zero (n := fuel) (by omega)
    have hne : ts ++ tokens ≠ [] := by simp [h.ne_nil]
    rw [readClauses]
    · simp only [h.reads tokens hclauses.ends, hclauses.reads fuel (by omega), Option.bind_eq_bind,
        Option.bind_some]
      rfl
    · exact hne

theorem exists_clausesReading {clauses : List Clause} (h : ∀ c ∈ clauses, ClauseForm c) :
    ∃ tokens, ClausesReading clauses tokens := by
  induction clauses with
  | nil => exact ⟨[], .nil⟩
  | cons c clauses ih =>
      obtain ⟨hc, hclauses⟩ := List.forall_mem_cons.1 h
      obtain ⟨ts, hread⟩ := hc.exists_reading
      obtain ⟨tokens, hrest⟩ := ih hclauses
      exact ⟨ts ++ tokens, .cons hread hrest⟩

/-! ### Elements -/

/-- An operator expression, or a pair of two. -/
inductive ElementForm : Expr → Prop where
  | value {e : Expr} (h : OperatorForm e) : ElementForm e
  | pair {key value : Expr} (hkey : OperatorForm key) (hvalue : OperatorForm value) :
    ElementForm (.mkPair key value)

/-- Tokens that an element is written as, in terms of what the reader makes of them. -/
structure ElementReading (e : Expr) (tokens : List ClauseToken) : Prop where
  spells : ClauseToken.Spells e.text.toList tokens
  reads : ∀ rest, Ends rest → readElement (tokens ++ rest) = some (e, rest)

theorem ElementReading.value {e : Expr} {ts : List Token} (h : Reading e ts)
    (hlevel : e.readLevel.rank < Level.lambda.rank + 1) : ElementReading e (ts.map .plain) := by
  refine ⟨ClauseToken.spells_plain h.spelled.spells, fun rest hrest => ?_⟩
  simp only [readElement, readPart_eq h.reads hlevel (hrest.le_followRank .lambda),
    Option.bind_eq_bind, Option.bind_some]
  match rest with
  | [] | .forWord :: _ | .asyncWord :: _ => rfl
  | .plain _ :: _ => cases hrest

theorem ElementReading.pair {key value : Expr} {ts us : List Token} (h : Reading key ts)
    (hlevel : key.readLevel.rank < Level.lambda.rank + 1) (h' : Reading value us)
    (hlevel' : value.readLevel.rank < Level.lambda.rank + 1) :
    ElementReading (.pair key value) ((ts ++ .mark .colon :: us).map .plain) := by
  refine ⟨?_, fun rest hrest => ?_⟩
  · have hspelled := ClauseToken.spells_plain (h.spelled.colon h'.spelled).spells
    simpa [Expr.text] using hspelled
  · have hcolon : Level.lambda.rank + 1 ≤ followRank
        (spanPlain (.plain (.mark .colon) :: (us.map .plain ++ rest))).1 := by
      rw [spanPlain]
      exact show Level.lambda.rank + 1 ≤ Level.namedExpr.rank + 1 by decide
    rw [List.map_append, List.append_assoc, List.map_cons, List.cons_append, readElement]
    simp only [readPart_eq h.reads hlevel hcolon, readPart_eq h'.reads hlevel'
      (hrest.le_followRank .lambda), Option.bind_eq_bind, Option.bind_some]
    rfl

theorem ElementForm.exists_reading {e : Expr} (h : ElementForm e) :
    ∃ tokens, ElementReading (Slot.comprehensionElement.place e) tokens := by
  cases h with
  | value h =>
      obtain ⟨ts, hread, hlevel⟩ := h.exists_placed .comprehensionElement
      exact ⟨_, .value hread hlevel⟩
  | pair hkey hvalue =>
      obtain ⟨ts, hread, hlevel⟩ := hkey.exists_placed .pairPart
      obtain ⟨us, hread', hlevel'⟩ := hvalue.exists_placed .pairPart
      exact ⟨_, .pair hread hlevel hread' hlevel'⟩

/-! ### Comprehensions -/

/-- A comprehension that is made of an element and clauses of these forms. -/
inductive Comprehension.Form : Comprehension → Prop where
  | ofClauses {element : Expr} (helement : ElementForm element) {clauses : List Clause}
    (hclauses : ∀ c ∈ clauses, ClauseForm c) {c : Comprehension}
    (hc : Comprehension.ofClauses element clauses = .ok c) : Form c

theorem Comprehension.toList_text (c : Comprehension) :
    c.text.toList = c.element.text.toList ++ clauseChars c.clauses := by
  simp [Comprehension.text, comprehensionText, clauseChars, String.toList_join, List.flatMap_map]

theorem Comprehension.Form.read_text {c : Comprehension} (h : c.Form) :
    readComprehension c.text = some c := by
  obtain ⟨helement, hclauses, hc⟩ := h
  obtain ⟨hplaced, hkept⟩ := Comprehension.ofClauses_eq_ok hc
  obtain ⟨ts, hts⟩ := helement.exists_reading
  obtain ⟨tokens, htokens⟩ := exists_clausesReading hclauses
  rw [← hplaced] at hts
  rw [← hkept] at htokens
  have hscan : ClauseToken.scan c.text = some (ts ++ tokens) := by
    rw [ClauseToken.scan, Comprehension.toList_text]
    exact (htokens.spells hts.spells).scanChars_eq
  rw [readComprehension, hscan]
  simp only [hts.reads tokens htokens.ends, htokens.reads tokens.length le_rfl, Option.bind_eq_bind,
    Option.bind_some, dif_neg c.clauses_ne_nil]

theorem ComprehensionForm.text_injective (form : ComprehensionForm) {content other : String}
    (h : form.text content = form.text other) : content = other := by
  cases form <;> simpa [ComprehensionForm.text] using h

theorem Comprehension.text_toExpr {c : Comprehension} {form : ComprehensionForm} {e : Expr}
    (h : c.toExpr form = .ok e) : e.text = form.text c.text := by
  rw [Comprehension.toExpr_eq_ok h, Expr.text, clauseTexts_eq_map, Comprehension.text]

/-- An element and clauses of these forms make a comprehension whose text is read as the comprehension,
its element and its clauses as they are stored. So no other one has the same text, and in the same
brackets no two have. -/
theorem Comprehension.reads_back {element : Expr} (helement : ElementForm element)
    {clauses : List Clause} (hclauses : ∀ c ∈ clauses, ClauseForm c) (hne : clauses ≠ []) :
    ∃ c, Comprehension.ofClauses element clauses = .ok c ∧
      c.element = Slot.comprehensionElement.place element ∧ c.clauses = clauses ∧
      readComprehension c.text = some c ∧
      (∀ d : Comprehension, d.Form → d.text = c.text → d = c) ∧
      ∀ form e, c.toExpr form = .ok e → e.text = form.text c.text ∧
        ∀ (d : Comprehension) e', d.Form → d.toExpr form = .ok e' → e'.text = e.text →
          d = c ∧ e' = e := by
  have hmade : Comprehension.ofClauses element clauses =
      .ok ⟨Slot.comprehensionElement.place element, clauses, hne⟩ := dif_neg hne
  refine ⟨_, hmade, rfl, rfl, ?_⟩
  have hform := Comprehension.Form.ofClauses helement hclauses hmade
  generalize (⟨Slot.comprehensionElement.place element, clauses, hne⟩ : Comprehension) = c at hform
  have hunique (d : Comprehension) (hd : d.Form) (htext : d.text = c.text) : d = c := by
    have hread := hd.read_text
    rw [htext, hform.read_text, Option.some.injEq] at hread
    exact hread.symm
  refine ⟨hform.read_text, hunique, fun form e he => ⟨Comprehension.text_toExpr he, ?_⟩⟩
  intro d e' hd he' htext
  rw [Comprehension.text_toExpr he, Comprehension.text_toExpr he'] at htext
  obtain rfl := hunique d hd (form.text_injective htext)
  rw [he] at he'
  exact ⟨rfl, (Except.ok.inj he').symm⟩

/-- A pair of a lambda and a conditional. -/
def guardedPair : Expr :=
  .mkPair (.mkLambda [sampleName] sampleExpr) (.mkConditional sampleExpr sampleExpr sampleExpr)

/-- A clause over a conditional, with a membership and a lambda as filters, and a plain one. -/
def guardedClauses : List Clause :=
  [mkClause true [sampleName, sampleName] (.mkConditional sampleExpr sampleExpr sampleExpr)
    [.mkBinary .member sampleExpr sampleExpr, .mkLambda [] sampleExpr],
    mkClause false [sampleName] sampleExpr []]

theorem guardedPair_reads_back :
    ∃ c, Comprehension.ofClauses guardedPair guardedClauses = .ok c ∧
      c.text = "lambda x: x: x if x else x async for x, x in (x if x else x) if x in x " ++
        "if (lambda: x) for x in x" ∧ readComprehension c.text = some c := by
  have hx : OperatorForm sampleExpr := .identifier _
  have hclauses : ∀ c ∈ guardedClauses, ClauseForm c := by
    refine List.forall_mem_cons.2 ⟨.clause true (by simp) (.conditional hx hx hx) ?_,
      List.forall_mem_singleton.2 (.clause false (by simp) hx (List.forall_mem_nil _))⟩
    exact List.forall_mem_cons.2 ⟨.binary .member hx hx,
      List.forall_mem_singleton.2 (.lambda [] hx)⟩
  obtain ⟨c, hmade, helement, hkept, hread, -⟩ := Comprehension.reads_back
    (.pair (.lambda [sampleName] hx) (.conditional hx hx hx)) hclauses (by simp [guardedClauses])
  refine ⟨c, hmade, ?_, hread⟩
  rw [Comprehension.text, helement, hkept]
  decide

end Unparse
