import Unparse.Proofs.Construction
import Unparse.Proofs.Derivation

/-!
What the grammar makes of operator expressions. It has a rule for each of their nodes but for an
`await` right under another one: the inner one is no looser than the slot, so it stays bare there,
and no rule of the grammar puts two of these words next to each other.
-/

namespace Unparse

/-! ### Two words in a row -/

def awaitToken : Token :=
  .mark .awaitWord

/-- No `await` comes right after another one, and none comes last. -/
structure AwaitsApart (ts : List Token) : Prop where
  isChain : ts.IsChain fun a b => a = awaitToken → b ≠ awaitToken
  last_ne : ∀ t ∈ ts.getLast?, t ≠ awaitToken

namespace AwaitsApart

theorem of_not_mem {ts : List Token} (h : awaitToken ∉ ts) : AwaitsApart ts := by
  refine ⟨?_, fun t ht heq => h (heq ▸ List.mem_of_getLast? ht)⟩
  apply List.Pairwise.isChain
  exact List.pairwise_of_forall_mem_list fun a ha b _ heq => absurd (heq ▸ ha) h

theorem append {ts us : List Token} (h : AwaitsApart ts) (h' : AwaitsApart us) :
    AwaitsApart (ts ++ us) := by
  refine ⟨List.isChain_append.2 ⟨h.isChain, h'.isChain, ?_⟩, ?_⟩
  · intro a ha b _ heq
    exact absurd heq (h.last_ne a ha)
  · intro t ht
    rw [List.getLast?_append, Option.mem_def, Option.or_eq_some_iff] at ht
    rcases ht with ht | ⟨-, ht⟩
    · exact h'.last_ne t ht
    · exact h.last_ne t ht

theorem cons {t : Token} {ts : List Token} (ht : t ≠ awaitToken) (h : AwaitsApart ts) :
    AwaitsApart (t :: ts) := by
  have hlone : AwaitsApart [t] := of_not_mem (by simpa using ht.symm)
  exact hlone.append h

theorem commaTokens {runs : List (List Token)} (h : ∀ run ∈ runs, AwaitsApart run) :
    AwaitsApart (commaTokens runs) := by
  induction runs with
  | nil => exact of_not_mem List.not_mem_nil
  | cons run runs ih =>
      obtain ⟨hrun, hruns⟩ := List.forall_mem_cons.1 h
      cases runs with
      | nil => simpa using hrun
      | cons next runs =>
          rw [commaTokens_cons_cons]
          exact hrun.append ((ih hruns).cons (by decide))

theorem not_neighbours {ts : List Token} (h : AwaitsApart ts) :
    ¬ [awaitToken, awaitToken] <:+: ts := by
  intro hpair
  have hchain := List.IsChain.infix h.isChain hpair
  rw [List.isChain_pair] at hchain
  exact hchain rfl rfl

theorem tupleTokens {runs : List (List Token)} (h : ∀ run ∈ runs, AwaitsApart run) :
    AwaitsApart (tupleTokens runs) := by
  by_cases hone : runs.length = 1
  · obtain ⟨only, rfl⟩ := List.length_eq_one_iff.1 hone
    exact (h only List.mem_cons_self).append (of_not_mem (by decide))
  · rw [tupleTokens_eq hone]
    exact commaTokens h

end AwaitsApart

theorem Mark.eq_awaitWord {m : Mark} (h : m.prefixOp? = some .await) : m = .awaitWord := by
  cases m <;> first | rfl | exact absurd h (by decide)

theorem Nonterminal.rank_lt_of_alone {n inner : Nonterminal} (h : n.alone? = some inner) :
    inner.rank < n.rank := by
  cases n <;> cases h <;> decide

theorem BinaryOp.primary_lt_nonterminal (op : BinaryOp) :
    Nonterminal.primary.rank < op.nonterminal.rank := by
  cases op <;> decide

theorem BinaryOp.apart_marks (op : BinaryOp) : AwaitsApart (op.marks.map .mark) := by
  apply AwaitsApart.of_not_mem
  cases op <;> decide

/-- What holds of all tokens that are derived from a nonterminal: there are some, no `await` follows
another one, and none begins a primary, which is what the one rule of the word asks of its operand. -/
structure DerivedApart (n : Nonterminal) (ts : List Token) : Prop where
  apart : AwaitsApart ts
  ne_nil : ts ≠ []
  head_ne : n.rank ≤ Nonterminal.primary.rank → ts.head? ≠ some awaitToken

namespace DerivedApart

variable {n : Nonterminal} {ts us : List Token}

theorem of_cons {t : Token} (ht : t ≠ awaitToken) (h : AwaitsApart ts) : DerivedApart n (t :: ts) :=
  ⟨h.cons ht, List.cons_ne_nil _ _, fun _ => by simpa using ht⟩

theorem of_loose (hn : Nonterminal.primary.rank < n.rank) (h : AwaitsApart ts) (hne : ts ≠ []) :
    DerivedApart n ts :=
  ⟨h, hne, fun hrank => absurd hrank (Nat.not_le.2 hn)⟩

/-- A primary goes on after what it begins with. -/
theorem primary_append (h : DerivedApart .primary ts) (h' : AwaitsApart us) :
    DerivedApart .primary (ts ++ us) := by
  refine ⟨h.apart.append h', List.append_ne_nil_of_left_ne_nil h.ne_nil us, fun hrank => ?_⟩
  rw [List.head?_append_of_ne_nil _ h.ne_nil]
  exact h.head_ne hrank

/-- The word before a primary. -/
theorem await_cons (h : DerivedApart .primary ts) : DerivedApart .awaitPrimary (awaitToken :: ts) := by
  apply of_loose (by decide) _ (List.cons_ne_nil _ _)
  refine ⟨List.isChain_cons.2 ⟨?_, h.apart.isChain⟩, ?_⟩
  · intro t ht _ heq
    exact h.head_ne le_rfl (heq ▸ ht)
  · intro t ht
    rw [List.getLast?_cons_of_ne_nil h.ne_nil] at ht
    exact h.apart.last_ne t ht

end DerivedApart

/-- The induction is on the derivation. Every rule but that of `await` itself only puts other tokens
around or between what its parts were derived from. -/
theorem Derives.derivedApart {n : Nonterminal} {ts : List Token} {e : Expr} (h : Derives n ts e) :
    DerivedApart n ts := by
  induction h with
  | alone halone _ ih =>
      refine ⟨ih.apart, ih.ne_nil, fun hrank => ih.head_ne ?_⟩
      exact (Nonterminal.rank_lt_of_alone halone).le.trans hrank
  | name _ | number _ => exact .of_cons (by simp [awaitToken]) (.of_not_mem List.not_mem_nil)
  | negative _ => exact .of_cons (by decide) (.of_not_mem (by simp [awaitToken]))
  | group _ ih => exact .of_cons (by decide) (ih.apart.append (.of_not_mem (by decide)))
  | list parts _ ih =>
      have hruns : ∀ run ∈ parts.map Prod.fst, AwaitsApart run :=
        List.forall_mem_map.2 fun p hp => (ih p hp).apart
      exact .of_cons (by decide) ((AwaitsApart.commaTokens hruns).append (.of_not_mem (by decide)))
  | tuple parts _ ih =>
      have hruns : ∀ run ∈ parts.map Prod.fst, AwaitsApart run :=
        List.forall_mem_map.2 fun p hp => (ih p hp).apart
      exact .of_cons (by decide) ((AwaitsApart.tupleTokens hruns).append (.of_not_mem (by decide)))
  | call _ args _ named _ ih ihargs ihnamed =>
      have hruns : ∀ run ∈ args.map Prod.fst ++ named.map argumentTokens, AwaitsApart run := by
        refine List.forall_mem_append.2 ⟨List.forall_mem_map.2 fun p hp => (ihargs p hp).apart,
          List.forall_mem_map.2 fun p hp => ?_⟩
        exact ((ihnamed p hp).apart.cons (by decide)).cons (by simp [awaitToken])
      apply ih.primary_append
      exact ((AwaitsApart.commaTokens hruns).append (.of_not_mem (by decide))).cons (by decide)
  | access _ name ih => exact ih.primary_append (.of_not_mem (by simp [awaitToken]))
  | subscript _ items _ _ ih ihitems =>
      have hruns : ∀ run ∈ items.map Prod.fst, AwaitsApart run :=
        List.forall_mem_map.2 fun p hp => (ihitems p hp).apart
      apply ih.primary_append
      exact ((AwaitsApart.commaTokens hruns).append (.of_not_mem (by decide))).cons (by decide)
  | @prefixed m op n part ts operand hop hrule _ ih =>
      cases op with
      | await =>
          -- After the word comes a primary, and what the rule makes is no primary itself.
          cases hrule
          cases Mark.eq_awaitWord hop
          exact ih.await_cons
      | starred | doubleStarred | yield | yieldFrom => cases hrule
      | positive | negative | bitNot | boolNot =>
          have hmark : Token.mark m ≠ awaitToken := by
            intro heq
            cases heq
            cases hop
          exact .of_cons hmark ih.apart
  | infixed op _ _ ih ih' =>
      apply DerivedApart.of_loose op.primary_lt_nonterminal
      · exact ih.apart.append (op.apart_marks.append ih'.apart)
      · exact List.append_ne_nil_of_left_ne_nil ih.ne_nil _
  | conditional _ _ _ ih ih' ih'' =>
      apply DerivedApart.of_loose (by decide)
      · exact ih.apart.append ((ih'.apart.append (ih''.apart.cons (by decide))).cons (by decide))
      · exact List.append_ne_nil_of_left_ne_nil ih.ne_nil _
  | lambda params _ ih =>
      have hnames : AwaitsApart (commaTokens (params.map fun name => [.name name])) :=
        .commaTokens (List.forall_mem_map.2 fun name _ => .of_not_mem (by simp [awaitToken]))
      exact .of_cons (by decide) (hnames.append (ih.apart.cons (by decide)))
  | named target _ ih => exact .of_cons (by simp [awaitToken]) (ih.apart.cons (by decide))

/-! ### Nested words are neighbours -/

theorem infix_commaTokens {run : List Token} {runs : List (List Token)} (h : run ∈ runs) :
    run <:+: commaTokens runs := by
  induction runs with
  | nil => cases h
  | cons first runs ih =>
      cases runs with
      | nil =>
          obtain rfl := List.mem_singleton.1 h
          simp
      | cons next runs =>
          rw [commaTokens_cons_cons]
          rcases List.mem_cons.1 h with rfl | h
          · exact (List.prefix_append _ _).isInfix
          · exact (ih h).trans ⟨first ++ [.mark .comma], [], by simp⟩

theorem infix_tupleTokens {run : List Token} {runs : List (List Token)} (h : run ∈ runs) :
    run <:+: tupleTokens runs := by
  by_cases hone : runs.length = 1
  · obtain ⟨only, rfl⟩ := List.length_eq_one_iff.1 hone
    obtain rfl := List.mem_singleton.1 h
    exact (List.prefix_append _ _).isInfix
  · rw [tupleTokens_eq hone]
    exact infix_commaTokens h

theorem infix_bracketed (us : List Token) {run ts : List Token} (h : run <:+: ts) (t t' : Token) :
    run <:+: us ++ t :: (ts ++ [t']) :=
  h.trans ⟨us ++ [t], [t'], by simp⟩

theorem infix_unglued {ts : List Token} (h : [awaitToken, awaitToken] <:+: ts) :
    [awaitToken, awaitToken] <:+: unglued ts := by
  obtain ⟨before, after, rfl⟩ := h
  rw [unglued_append, unglued_append]
  exact ⟨unglued before, unglued after, rfl⟩

/-- A nested `await` in an expression that is none itself is in what is below. -/
theorem mem_below {e node : Expr} {below : List Expr} (hnodes : e.nodes = e :: below)
    (he : e.nestsAwait = false) (hnode : node ∈ e.nodes) (hnests : node.nestsAwait = true) :
    node ∈ below := by
  refine List.mem_of_ne_of_mem ?_ (hnodes ▸ hnode)
  rintro rfl
  rw [he] at hnests
  cases hnests

/-- A pair of the words in one of several phrases is in the tokens of that phrase. -/
theorem exists_run_of_phrases {parts : List Phrase} {node : Expr}
    (hparts : ∀ p ∈ parts, node ∈ p.expr.nodes → [awaitToken, awaitToken] <:+: p.tokens)
    (hnode : node ∈ (parts.map Phrase.expr).flatMap Expr.nodes) :
    ∃ run ∈ parts.map Phrase.tokens, [awaitToken, awaitToken] <:+: run := by
  obtain ⟨_, hpart, hnode⟩ := List.mem_flatMap.1 hnode
  obtain ⟨p, hp, rfl⟩ := List.mem_map.1 hpart
  exact ⟨p.tokens, List.mem_map_of_mem hp, hparts p hp hnode⟩

/-- So it is with values that are passed by name. -/
theorem exists_run_of_named {named : List (Identifier × Phrase)} {node : Expr}
    (hnamed : ∀ p ∈ named, node ∈ p.2.expr.nodes → [awaitToken, awaitToken] <:+: p.2.tokens)
    (hnode : node ∈ (named.map namedArg).flatMap fun k => k.value.nodes) :
    ∃ run ∈ named.map namedTokens, [awaitToken, awaitToken] <:+: run := by
  obtain ⟨_, hpart, hnode⟩ := List.mem_flatMap.1 hnode
  obtain ⟨p, hp, rfl⟩ := List.mem_map.1 hpart
  have hvalue : p.2.tokens <:+: namedTokens p :=
    ((List.suffix_cons _ _).trans (List.suffix_cons _ _)).isInfix
  exact ⟨namedTokens p, List.mem_map_of_mem hp, (hnamed p hp hnode).trans hvalue⟩

/-- An `await` right under another one is read from two neighbouring words, wherever it stands. -/
theorem Reads.infix_of_nestsAwait {l : Level} {ts : List Token} {e : Expr} (h : Reads l ts e)
    {node : Expr} (hnode : node ∈ e.nodes) (hnests : node.nestsAwait = true) :
    [awaitToken, awaitToken] <:+: ts := by
  induction h with
  | identifier _ | natural _ | negative _ =>
      obtain rfl := List.mem_singleton.1 hnode
      cases hnests
  | group _ ih =>
      replace hnode := mem_below (Expr.nodes_wrapped ..) rfl hnode hnests
      exact infix_bracketed [] (ih hnode) _ _
  | list parts _ ih =>
      replace hnode := mem_below (Expr.nodes_display ..) rfl hnode hnests
      obtain ⟨run, hrun, hpair⟩ := exists_run_of_phrases ih hnode
      exact infix_bracketed [] (hpair.trans (infix_commaTokens hrun)) _ _
  | tuple parts _ ih =>
      replace hnode := mem_below (Expr.nodes_display ..) rfl hnode hnests
      obtain ⟨run, hrun, hpair⟩ := exists_run_of_phrases ih hnode
      exact infix_bracketed [] (hpair.trans (infix_tupleTokens hrun)) _ _
  | call args named _ _ _ _ ih ihargs ihnamed =>
      replace hnode := mem_below (Expr.nodes_call ..) rfl hnode hnests
      rcases List.mem_append.1 hnode with hnode | hnode
      · exact (ih hnode).trans (List.prefix_append _ _).isInfix
      rcases List.mem_append.1 hnode with hnode | hnode
      · obtain ⟨run, hrun, hpair⟩ := exists_run_of_phrases ihargs hnode
        have hmem := List.mem_append_left (named.map namedTokens) hrun
        exact infix_bracketed _ (hpair.trans (infix_commaTokens hmem)) _ _
      · obtain ⟨run, hrun, hpair⟩ := exists_run_of_named ihnamed hnode
        have hmem := List.mem_append_right (args.map Phrase.tokens) hrun
        exact infix_bracketed _ (hpair.trans (infix_commaTokens hmem)) _ _
  | access _ _ _ ih =>
      replace hnode := mem_below (Expr.nodes_attribute ..) rfl hnode hnests
      exact (ih hnode).trans (List.prefix_append _ _).isInfix
  | subscript items _ _ _ ih ihitems =>
      have hmap : items.map (fun p => SubscriptItem.index p.expr) =
          (items.map Phrase.expr).map .index := by simp
      rw [hmap] at hnode
      replace hnode := mem_below (Expr.nodes_subscript_index ..) rfl hnode hnests
      rcases List.mem_append.1 hnode with hnode | hnode
      · exact (ih hnode).trans (List.prefix_append _ _).isInfix
      · obtain ⟨run, hrun, hpair⟩ := exists_run_of_phrases ihitems hnode
        exact infix_bracketed _ (hpair.trans (infix_commaTokens hrun)) _ _
  | prefixed hop hoperand _ ih =>
      rw [Expr.nodes_unary] at hnode
      rcases List.mem_cons.1 hnode with rfl | hnode
      · unfold Expr.nestsAwait at hnests
        split at hnests
        · next inner heq =>
            cases heq
            -- Only a prefix is read as an `await`, so the operand begins with the second word.
            cases hoperand with
            | prefixed hop' _ _ =>
                rw [Mark.eq_awaitWord hop, Mark.eq_awaitWord hop']
                exact (List.prefix_append _ _).isInfix
            | standalone hstands _ _ => cases hstands
        · cases hnests
      · exact (ih hnode).trans (List.suffix_cons _ _).isInfix
  | @standalone op _ _ operand hop _ _ ih =>
      have hnests' : (Expr.unary op operand).nestsAwait = false := by
        cases op <;> first | rfl | cases hop
      replace hnode := mem_below (Expr.nodes_unary ..) hnests' hnode hnests
      exact (ih hnode).trans (List.suffix_append _ _).isInfix
  | infixed _ _ _ _ ih ih' =>
      replace hnode := mem_below (Expr.nodes_binary ..) rfl hnode hnests
      rcases List.mem_append.1 hnode with hnode | hnode
      · exact (ih hnode).trans (List.prefix_append _ _).isInfix
      · exact (ih' hnode).trans ((List.suffix_append _ _).trans (List.suffix_append _ _)).isInfix
  | @conditional _ _ _ ts ts' ts'' _ _ _ _ _ _ _ _ _ ih ih' ih'' =>
      replace hnode := mem_below (Expr.nodes_conditional ..) rfl hnode hnests
      rcases List.mem_append.1 hnode with hnode | hnode
      · exact (ih hnode).trans (List.prefix_append _ _).isInfix
      rcases List.mem_append.1 hnode with hnode | hnode
      · exact (ih' hnode).trans ⟨ts ++ [.mark .ifWord], .mark .elseWord :: ts'', by simp⟩
      · exact (ih'' hnode).trans ⟨ts ++ .mark .ifWord :: (ts' ++ [.mark .elseWord]), [], by simp⟩
  | lambda _ _ _ ih =>
      replace hnode := mem_below (Expr.nodes_lambda ..) rfl hnode hnests
      exact (ih hnode).trans
        (((List.suffix_cons _ _).trans (List.suffix_append _ _)).trans (List.suffix_cons _ _)).isInfix
  | named _ _ _ ih =>
      replace hnode := mem_below (Expr.nodes_named ..) rfl hnode hnests
      exact (ih hnode).trans ((List.suffix_cons _ _).trans (List.suffix_cons _ _)).isInfix

/-! ### Operator expressions -/

theorem OperatorForm.built {e : Expr} (h : OperatorForm e) : e.Built True := by
  induction h with
  | identifier name => exact .identifier name
  | integer value => exact .literal _
  | binary op _ _ ihleft ihright => exact .binary op ihleft ihright
  | unary _ _ ih => exact .unary _ ih
  | wrapped _ ih => exact .wrapped trivial ih
  | access _ name ih => exact .access ih name
  | @call _ _ _ _ named _ ih ihargs ihnamed =>
      have hkeywords : ∀ k ∈ named.map fun arg => KeywordArg.mk arg.1 arg.2, k.value.Built True :=
        List.forall_mem_map.2 ihnamed
      have hcall := Expr.Built.call ih ihargs hkeywords
      rw [List.map_map] at hcall
      exact hcall
  | @subscript _ _ items _ ih ihitems =>
      have hitems : ∀ item ∈ items.map SubscriptItem.index, ∀ e ∈ item.exprs, e.Built True :=
        List.forall_mem_map.2 fun e he => by simpa [SubscriptItem.exprs] using ihitems e he
      have hsubscript := Expr.Built.subscript ih hitems
      rw [List.map_map] at hsubscript
      exact hsubscript
  | conditional _ _ _ ihbody ihtest ihorElse => exact .conditional ihbody ihtest ihorElse
  | lambda params _ ih => exact .lambda params ih
  | named target _ ih => exact .named target ih
  | list _ ih => exact .display .list ih
  | tuple _ ih => exact .display .tuple ih

/-- What holds of all nodes of an expression holds of all nodes in a slot, if it holds of parentheses. -/
theorem Slot.forall_nodes_place {P : Expr → Prop} {e : Expr} (h : ∀ node ∈ e.nodes, P node)
    (hwrapped : P (.wrapped e)) (slot : Slot) : ∀ node ∈ (slot.place e).nodes, P node := by
  rcases slot.place_eq e with heq | heq
  · rwa [heq]
  · rw [heq]
    exact List.forall_mem_cons.2 ⟨hwrapped, h⟩

/-- No node of an operator expression stands alone. -/
theorem OperatorForm.isStandalone_nodes {e : Expr} (h : OperatorForm e) :
    ∀ node ∈ e.nodes, node.isStandalone = false := by
  have hplace {e : Expr} (h : ∀ node ∈ e.nodes, node.isStandalone = false) (slot : Slot) :
      ∀ node ∈ (slot.place e).nodes, node.isStandalone = false :=
    Slot.forall_nodes_place h rfl slot
  induction h with
  | identifier _ | integer _ => exact List.forall_mem_singleton.2 rfl
  | binary op _ _ ihleft ihright =>
      rw [Expr.mkBinary, Expr.nodes_binary]
      exact List.forall_mem_cons.2
        ⟨rfl, List.forall_mem_append.2 ⟨hplace ihleft _, hplace ihright _⟩⟩
  | unary hop _ ih => exact List.forall_mem_cons.2 ⟨Bool.eq_false_iff.2 hop, hplace ih _⟩
  | wrapped _ ih => exact List.forall_mem_cons.2 ⟨rfl, ih⟩
  | @access target _ name ih =>
      obtain ⟨stored, heq, hstored, -⟩ := Expr.exists_mkAttribute_eq target name
      rw [heq, Expr.nodes_attribute]
      refine List.forall_mem_cons.2 ⟨rfl, ?_⟩
      rcases hstored with rfl | rfl
      · exact ih
      · exact List.forall_mem_cons.2 ⟨rfl, ih⟩
  | call _ _ _ ih ihargs ihnamed =>
      rw [Expr.mkCall, Expr.nodes_call]
      refine List.forall_mem_cons.2 ⟨rfl, List.forall_mem_append.2 ⟨hplace ih _,
        List.forall_mem_append.2 ⟨List.forall_mem_flatMap.2 ihargs, ?_⟩⟩⟩
      rw [List.forall_mem_flatMap, List.forall_mem_map]
      exact fun arg harg => hplace (ihnamed arg harg) .keywordValue
  | subscript _ _ ih ihitems =>
      rw [Expr.mkSubscript, Expr.nodes_subscript_index]
      exact List.forall_mem_cons.2
        ⟨rfl, List.forall_mem_append.2 ⟨hplace ih _, List.forall_mem_flatMap.2 ihitems⟩⟩
  | conditional _ _ _ ihbody ihtest ihorElse =>
      rw [Expr.mkConditional, Expr.nodes_conditional]
      exact List.forall_mem_cons.2 ⟨rfl, List.forall_mem_append.2
        ⟨hplace ihbody _, List.forall_mem_append.2 ⟨hplace ihtest _, hplace ihorElse _⟩⟩⟩
  | lambda _ _ ih | named _ _ ih => exact List.forall_mem_cons.2 ⟨rfl, hplace ih _⟩
  | list _ ih | tuple _ ih =>
      rw [Expr.nodes_display]
      exact List.forall_mem_cons.2 ⟨rfl, List.forall_mem_flatMap.2 ih⟩

/-- The grammar derives the text of an operator expression, as this expression, if no `await` stands
right under another one in it; otherwise it derives the text from no nonterminal as anything. -/
theorem OperatorForm.derives_or_not {e : Expr} (h : OperatorForm e)
    (hindex : ∀ node ∈ e.nodes, node.lacksIndex = false) :
    ∃ tokens, grammarTokens e.text = some tokens ∧
      ((∀ node ∈ e.nodes, node.nestsAwait = false) → Derives .namedExpression tokens e) ∧
      ((∃ node ∈ e.nodes, node.nestsAwait = true) → ∀ n f, ¬ Derives n tokens f) := by
  obtain ⟨tokens, hread⟩ := h.exists_reading
  have hscan : scan e.text = some tokens := hread.spelled.spells.scanChars_eq
  refine ⟨unglued tokens, by rw [grammarTokens, hscan]; rfl, ?_, ?_⟩
  · intro hnests
    have hnodes : ∀ node ∈ e.nodes, node.Regular := fun node hnode =>
      ⟨hnests node hnode, hindex node hnode, h.isStandalone_nodes node hnode⟩
    obtain ⟨hregular, hheld⟩ := List.forall_mem_cons.1 hnodes
    rw [List.forall_mem_map] at hheld
    have hderives := hread.reads.derives hregular fun q hq =>
      ⟨(h.built.sits_held q hq).1, hheld q hq⟩
    exact hderives.toNamedExpression
  · rintro ⟨node, hnode, hnests⟩ n f hderives
    have hpair := hread.reads.infix_of_nestsAwait hnode hnests
    exact hderives.derivedApart.apart.not_neighbours (infix_unglued hpair)

/-- An index that is a power of what is awaited, to a negative number. -/
def awaitedPower : Expr :=
  let power := Expr.mkBinary .pow (.mkUnary .await sampleExpr) (.literal (.int (-2)))
  .mkSubscript sampleExpr ([power].map .index)

theorem operatorForm_awaitedPower : OperatorForm awaitedPower := by
  refine .subscript (.identifier _) ?_
  have hname : OperatorForm sampleExpr := .identifier _
  simpa using OperatorFormWith.binary .pow (.unary (by decide) hname) (.integer (-2))

theorem awaitedPower_derives_or_not :
    awaitedPower.text = "x[await x ** (-2)]" ∧ OperatorForm awaitedPower ∧
    (∀ node ∈ awaitedPower.nodes, node.lacksIndex = false) ∧
    ∃ tokens, grammarTokens awaitedPower.text = some tokens ∧
      ((∀ node ∈ awaitedPower.nodes, node.nestsAwait = false) →
        Derives .namedExpression tokens awaitedPower) ∧
      ((∃ node ∈ awaitedPower.nodes, node.nestsAwait = true) → ∀ n f, ¬ Derives n tokens f) :=
  ⟨by decide, operatorForm_awaitedPower, by decide,
    operatorForm_awaitedPower.derives_or_not (by decide)⟩

/-- What is awaited is awaited once more. -/
def nestedAwait : Expr :=
  .mkUnary .await (.mkUnary .await sampleExpr)

theorem not_derives_nestedAwait :
    nestedAwait.text = "await await x" ∧ OperatorForm nestedAwait ∧
    (∀ node ∈ nestedAwait.nodes, node.lacksIndex = false) ∧
    grammarTokens nestedAwait.text = some [awaitToken, awaitToken, .name sampleName] ∧
    ∀ f, ¬ Derives .namedExpression [awaitToken, awaitToken, .name sampleName] f := by
  have hspelled := (spelled_mark .awaitWord).spaced
    ((spelled_mark .awaitWord).spaced (spelled_name sampleName))
  have hscan : scan nestedAwait.text = some [awaitToken, awaitToken, .name sampleName] :=
    hspelled.spells.scanChars_eq
  refine ⟨by decide, .unary (by decide) (.unary (by decide) (.identifier _)), by decide, ?_, ?_⟩
  · rw [grammarTokens, hscan]
    rfl
  · intro f hderives
    exact hderives.derivedApart.apart.not_neighbours (List.prefix_append _ _).isInfix

end Unparse
