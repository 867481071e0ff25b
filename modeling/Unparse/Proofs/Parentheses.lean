import Unparse.Proofs.Grouping
import Unparse.Proofs.OperatorForm

/-!
Parentheses that are needed. Where binary operators are put together, every pair of parentheses that a
slot places tells the tree apart from another one: the text without just that pair has a reading, but
not as the tree that was built, however deep the pair stands and whatever stands around it.
-/

namespace Unparse

/-! ### Expressions of names and operators -/

namespace Expr

/-- How the operators of an expression group its names, with parentheses left out. Where there is
anything but names, binary operators and parentheses, there is no answer. -/
def grouping? : Expr → Option Grouping
  | .identifier name => some (.name name)
  | .binary op left right =>
    left.grouping?.bind fun l => right.grouping?.map (Grouping.binary op l)
  | .wrapped inner => inner.grouping?
  | _ => none

/-- The tokens of names, binary operators and parentheses. -/
def runTokens : Expr → List Token
  | .identifier name => [.name name]
  | .binary op left right => left.runTokens ++ (op.marks.map .mark ++ right.runTokens)
  | .wrapped inner => .mark .openRound :: (inner.runTokens ++ [.mark .closeRound])
  | _ => []

theorem grouping?_binary {op : BinaryOp} {left right : Expr} {g : Grouping} :
    (binary op left right).grouping? = some g ↔
      ∃ l r, left.grouping? = some l ∧ right.grouping? = some r ∧ g = .binary op l r := by
  simp only [grouping?, Option.bind_eq_some_iff, Option.map_eq_some_iff]
  constructor
  · rintro ⟨l, hl, r, hr, rfl⟩
    exact ⟨l, r, hl, hr, rfl⟩
  · rintro ⟨l, r, hl, hr, rfl⟩
    exact ⟨l, hl, r, hr, rfl⟩

theorem spelled_runTokens {e : Expr} {g : Grouping} (h : e.grouping? = some g) :
    Spelled e.text.toList e.runTokens := by
  fun_induction grouping? e generalizing g with
  | case1 name => exact spelled_name name
  | case2 op left right ih ih' =>
      obtain ⟨l, r, hleft, hright, -⟩ := grouping?_binary.1 h
      have hspelled := (ih hleft).spaced ((spelled_binaryOp op).spaced (ih' hright))
      simpa [Expr.text, runTokens] using hspelled
  | case3 inner ih =>
      have hspelled := spelled_brackets [(inner.text.toList, inner.runTokens)] (by simpa using ih h)
        .openRound .closeRound rfl rfl (by decide) (by decide) (by decide)
      simpa [Expr.text, runTokens, commaChars] using hspelled
  | case4 => cases h

/-- Wherever parentheses stand, there is a reading. -/
theorem exists_groups {e : Expr} {g : Grouping} (h : e.grouping? = some g) :
    ∃ l j, Groups l e.runTokens j := by
  fun_induction grouping? e generalizing g with
  | case1 name => exact ⟨_, _, .name name⟩
  | case2 op left right ih ih' =>
      obtain ⟨l, r, hleft, hright, -⟩ := grouping?_binary.1 h
      obtain ⟨_, _, hread⟩ := ih hleft
      obtain ⟨_, _, hread'⟩ := ih' hright
      exact hread.exists_join op hread'
  | case3 inner ih =>
      obtain ⟨_, _, hread⟩ := ih h
      exact ⟨_, _, hread.enclosed⟩
  | case4 => cases h

end Expr

/-! ### Names -/

/-- How many names are grouped. -/
def Grouping.size : Grouping → Nat
  | .name _ => 1
  | .binary _ left right | .chain left _ right => left.size + right.size

theorem BinaryOp.countP_marks (op : BinaryOp) : (op.marks.map Token.mark).countP Token.isName = 0 := by
  rw [List.countP_eq_zero]
  intro t ht
  obtain ⟨m, -, rfl⟩ := List.mem_map.1 ht
  simp [Token.isName]

theorem Expr.countP_runTokens {e : Expr} {g : Grouping} (h : e.grouping? = some g) :
    e.runTokens.countP Token.isName = g.size := by
  fun_induction grouping? e generalizing g with
  | case1 name =>
      cases h
      rfl
  | case2 op left right ih ih' =>
      obtain ⟨l, r, hleft, hright, rfl⟩ := grouping?_binary.1 h
      simp [runTokens, List.countP_append, op.countP_marks, ih hleft, ih' hright, Grouping.size]
  | case3 inner ih => simp [runTokens, List.countP_append, ih h, Token.isName]
  | case4 => cases h

namespace Groups

variable {l l' k : Level} {ts as bs cs ds : List Token} {g g' f : Grouping}

theorem countP_isName (h : Groups l ts g) : ts.countP Token.isName = g.size := by
  induction h with
  | name name => rfl
  | enclosed _ ih => simp [List.countP_append, ih, Token.isName]
  | @infixed op _ _ _ _ _ _ _ _ _ hjoins _ ih ih' =>
      cases hjoins <;> simp [List.countP_append, op.countP_marks, ih, ih', Grouping.size]

theorem size_pos (h : Groups l ts g) : 0 < ts.countP Token.isName := by
  rw [h.countP_isName]
  clear h
  induction g with
  | name _ => exact Nat.one_pos
  | binary _ _ _ ih _ | chain _ _ _ ih _ => exact Nat.add_pos_left ih _

/-- No parenthesis is closed before the first name. -/
theorem closeRound_notMem (h : Groups l ts g) {us vs : List Token} (heq : ts = us ++ vs)
    (hnone : us.countP Token.isName = 0) : Token.mark .closeRound ∉ us := by
  induction h generalizing us vs with
  | name name =>
      cases us with
      | nil => simp
      | cons t us =>
          obtain ⟨rfl, -⟩ := List.cons.inj heq
          simp [Token.isName] at hnone
  | @enclosed _ ts _ hinner ih =>
      cases us with
      | nil => simp
      | cons t us =>
          obtain ⟨rfl, hrest⟩ := List.cons.inj heq
          have hnone' : us.countP Token.isName = 0 := by simpa [Token.isName] using hnone
          rcases List.append_eq_append_iff.1 hrest with ⟨more, rfl, -⟩ | ⟨more, hts, -⟩
          · rw [List.countP_append] at hnone'
            have hpos := hinner.size_pos
            omega
          · simpa using ih hts hnone'
  | @infixed op _ _ as bs _ _ _ hleft _ _ _ ih _ =>
      rcases List.append_eq_append_iff.1 heq with ⟨more, rfl, -⟩ | ⟨more, has, -⟩
      · rw [List.countP_append] at hnone
        have hpos := hleft.size_pos
        omega
      · exact ih has hnone

/-- Readings that are as long in names are as long in tokens, where an operator follows both. -/
theorem length_le_of_countP (hbs : Groups l' bs g') (hcs : Groups k cs f) {op op' : BinaryOp}
    (heq : as ++ (op.marks.map .mark ++ bs) = cs ++ (op'.marks.map .mark ++ ds))
    (hcount : cs.countP Token.isName = as.countP Token.isName) : cs.length ≤ as.length := by
  by_contra hlonger
  obtain ⟨others, hne, rfl, hbs'⟩ := hcs.exists_between heq (Nat.not_le.1 hlonger)
  simp only [List.countP_append, op.countP_marks] at hcount
  have hnone : others.countP Token.isName = 0 := by omega
  -- What is left of the longer reading has no name, so it ends by closing a parenthesis.
  obtain ⟨init, t, hconcat, ht⟩ := hcs.exists_concat
  have hmem : t ∈ others := by
    refine List.mem_of_getLast? ?_
    have hlast := congrArg List.getLast? hconcat
    rwa [List.getLast?_concat, List.getLast?_append_of_ne_nil _ (by simp [hne]),
      List.getLast?_append_of_ne_nil _ hne] at hlast
  rcases ht with ht | rfl
  · exact absurd ht (by simpa using List.countP_eq_zero.1 hnone t hmem)
  · exact hbs.closeRound_notMem hbs' hnone hmem

/-- If tokens around an operator are read as that operator between two groupings, and there are as many
names before the operator as in the first grouping, then they are read as these groupings. -/
theorem operands {op : BinaryOp} {left right : Grouping}
    (h : Groups k (as ++ (op.marks.map .mark ++ bs)) (.binary op left right))
    (has : Groups l as g) (hbs : Groups l' bs g') (hcount : as.countP Token.isName = left.size) :
    (∃ j, Groups j as left ∧ j.rank < op.leftLimit) ∧
      ∃ j, Groups j bs right ∧ j.rank < op.rightLimit := by
  generalize hts : as ++ (op.marks.map Token.mark ++ bs) = us at h
  cases h with
  | enclosed hinner => exact absurd hts (has.append_ne_enclosed hinner op bs)
  | @infixed _ _ _ cs ds _ _ _ hleft hright hjoins hlevel =>
      cases hjoins with
      | operand hlevel' =>
          have hsame := hcount.trans hleft.countP_isName.symm
          have hlength : as.length = cs.length :=
            le_antisymm (length_le_of_countP hright has hts.symm hsame)
              (length_le_of_countP hbs hleft hts hsame.symm)
          obtain ⟨rfl, hrest⟩ := List.append_inj hts hlength
          obtain rfl := List.append_cancel_left hrest
          exact ⟨⟨_, hleft, hlevel'⟩, _, hright, hlevel⟩

end Groups

/-! ### Built expressions -/

/-- What is built from names with binary operators alone. -/
inductive InfixForm : Expr → Prop where
  | name (name : Identifier) : InfixForm (.identifier name)
  | binary (op : BinaryOp) {left right : Expr} (hleft : InfixForm left) (hright : InfixForm right) :
    InfixForm (.mkBinary op left right)

namespace Slot

theorem grouping?_place (slot : Slot) (e : Expr) : (slot.place e).grouping? = e.grouping? := by
  unfold place
  split <;> rfl

/-- What is refused on the left of an operator is too loose for it. -/
theorem leftLimit_le {op : BinaryOp} {l : Level} (h : (leftOperand op).admitsLevel l = false) :
    op.leftLimit ≤ l.rank := by
  rw [admitsLevel, Bool.or_eq_false_iff, Bool.not_eq_false'] at h
  rw [BinaryOp.leftLimit]
  cases hassoc : op.associativity <;> simp [mode, hassoc, WrapMode.needsWrap] at h <;> exact h.2

/-- What is refused on the right of an operator is too loose for it. -/
theorem rightLimit_le {op : BinaryOp} {l : Level} (h : (rightOperand op).admitsLevel l = false) :
    op.rightLimit ≤ l.rank := by
  rw [admitsLevel, Bool.or_eq_false_iff, Bool.not_eq_false'] at h
  rw [BinaryOp.rightLimit]
  cases hassoc : op.associativity <;> simp [mode, hassoc, WrapMode.needsWrap] at h <;> exact h.2

end Slot

namespace InfixForm

variable {e : Expr} {g : Grouping}

theorem isStandalone_eq (h : InfixForm e) : e.isStandalone = false := by
  cases h <;> rfl

theorem admits_eq (h : InfixForm e) (slot : Slot) : slot.admits e = slot.admitsLevel e.level := by
  rw [Slot.admits, h.isStandalone_eq]
  rfl

/-- In a slot, an expression that is read as itself stays so, at a level that the slot admits. -/
theorem groups_place (h : InfixForm e) (hread : Groups e.level e.runTokens g) (slot : Slot) :
    Groups (slot.place e).level (slot.place e).runTokens g ∧
      slot.admitsLevel (slot.place e).level = true := by
  by_cases hadmits : slot.admits e = true
  · rw [Slot.place_eq_self_iff.2 hadmits]
    exact ⟨hread, h.admits_eq slot ▸ hadmits⟩
  · have hwrapped : slot.place e = .wrapped e := if_neg hadmits
    rw [hwrapped]
    exact ⟨hread.enclosed, rfl⟩

/-- What is built from names and operators is read as itself, at its own level. -/
theorem exists_groups (h : InfixForm e) :
    ∃ g, e.grouping? = some g ∧ Groups e.level e.runTokens g := by
  induction h with
  | name name => exact ⟨_, rfl, .name name⟩
  | binary op hleft hright ih ih' =>
      obtain ⟨l, hl, hreadl⟩ := ih
      obtain ⟨r, hr, hreadr⟩ := ih'
      obtain ⟨hreadl, hlevel⟩ := hleft.groups_place hreadl (.leftOperand op)
      obtain ⟨hreadr, hlevel'⟩ := hright.groups_place hreadr (.rightOperand op)
      refine ⟨.binary op l r, Expr.grouping?_binary.2 ⟨l, r, ?_, ?_, rfl⟩, ?_⟩
      · rw [Slot.grouping?_place, hl]
      · rw [Slot.grouping?_place, hr]
      · exact hreadl.infixed hreadr (.operand (Slot.rank_lt_leftLimit hlevel))
          (Slot.rank_lt_rightLimit hlevel')

end InfixForm

/-! ### A pair of parentheses and what stands around it -/

/-- A step down from an expression to one of its parts: to an operand, past the other one, or through
parentheses. -/
inductive OperandStep where
  | left (op : BinaryOp) (right : Expr)
  | right (left : Expr) (op : BinaryOp)
  | inside

/-- The expression that has a part at the end of these steps. -/
def fillAt : List OperandStep → Expr → Expr
  | [], e => e
  | .left op right :: path, e => .binary op (fillAt path e) right
  | .right left op :: path, e => .binary op left (fillAt path e)
  | .inside :: path, e => .wrapped (fillAt path e)

/-- What is written before the part at the end of these steps. -/
def textBefore : List OperandStep → String
  | [] => ""
  | .left _ _ :: path => textBefore path
  | .right left op :: path => left.text ++ " " ++ op.text ++ " " ++ textBefore path
  | .inside :: path => "(" ++ textBefore path

/-- What is written after the part at the end of these steps. -/
def textAfter : List OperandStep → String
  | [] => ""
  | .left op right :: path => textAfter path ++ " " ++ op.text ++ " " ++ right.text
  | .right _ _ :: path => textAfter path
  | .inside :: path => textAfter path ++ ")"

theorem text_fillAt (path : List OperandStep) (e : Expr) :
    (fillAt path e).text = textBefore path ++ e.text ++ textAfter path := by
  induction path with
  | nil => simp [fillAt, textBefore, textAfter]
  | cons step path ih =>
      cases step <;> simp [fillAt, textBefore, textAfter, Expr.text, ih, String.append_assoc]

/-- A pair of parentheses adds nothing to how names are grouped. -/
theorem grouping?_fillAt_wrapped (path : List OperandStep) (inner : Expr) :
    (fillAt path (.wrapped inner)).grouping? = (fillAt path inner).grouping? := by
  induction path with
  | nil => rfl
  | cons step path ih => cases step <;> simp [fillAt, Expr.grouping?, ih]

/-- A text is read as this grouping, and as no other. -/
def ReadsOnlyAs (text : String) (g : Grouping) : Prop :=
  ∃ tokens l, scan text = some tokens ∧ ∀ l' g', Groups l' tokens g' ↔ l' = l ∧ g' = g

theorem Groups.readsOnlyAs {l : Level} {e : Expr} {f g : Grouping} (h : Groups l e.runTokens g)
    (he : e.grouping? = some f) : ReadsOnlyAs e.text g := by
  refine ⟨e.runTokens, l, (Expr.spelled_runTokens he).spells.scanChars_eq, fun l' g' => ⟨?_, ?_⟩⟩
  · intro h'
    exact h'.unique h
  · rintro ⟨rfl, rfl⟩
    exact h

namespace InfixForm

variable {e : Expr} {g : Grouping} {path : List OperandStep} {inner : Expr}

/-- Without a pair of parentheses that stands in an operand, what is left of the operand is not read as
the operand that it was, at a level that stands there. -/
theorem not_groups_place (h : InfixForm e)
    (hinside : ∀ {path inner}, e = fillAt path (.wrapped inner) →
      ∀ l, ¬ Groups l (fillAt path inner).runTokens g)
    (hg : e.grouping? = some g) {slot : Slot}
    (hpair : slot.place e = fillAt path (.wrapped inner)) {limit : Nat}
    (hlimit : slot.admitsLevel e.level = false → limit ≤ e.level.rank) :
    ¬ ∃ l, Groups l (fillAt path inner).runTokens g ∧ l.rank < limit := by
  rintro ⟨l, hread, hlevel⟩
  by_cases hadmits : slot.admits e = true
  · rw [Slot.place_eq_self_iff.2 hadmits] at hpair
    exact hinside hpair l hread
  have hwrapped : slot.place e = .wrapped e := if_neg hadmits
  rw [hwrapped] at hpair
  cases path with
  | nil =>
      -- The pair is the one around the operand, which is too loose to stand without it.
      obtain rfl := Expr.wrapped.inj hpair
      obtain ⟨g', _, hself⟩ := h.exists_groups
      obtain ⟨rfl, -⟩ := hread.unique hself
      rw [h.admits_eq slot, Bool.not_eq_true] at hadmits
      exact absurd (hlimit hadmits) (Nat.not_le.2 hlevel)
  | cons step path =>
      cases step with
      | left _ _ | right _ _ => cases hpair
      | inside =>
          have hinner := Expr.wrapped.inj hpair
          have hsame : (fillAt path inner).grouping? = some g := by
            rw [← grouping?_fillAt_wrapped, ← hinner, hg]
          obtain ⟨k, j, hread'⟩ := Expr.exists_groups hsame
          obtain ⟨-, rfl⟩ := hread.unique hread'.enclosed
          exact hinside hinner k hread'

/-- Without any one pair of its parentheses, an expression is not read as the tree that it is. -/
theorem not_groups (h : InfixForm e) (hg : e.grouping? = some g)
    (hpair : e = fillAt path (.wrapped inner)) (l : Level) :
    ¬ Groups l (fillAt path inner).runTokens g := by
  induction h generalizing path inner g l with
  | name name =>
      cases path with
      | nil => cases hpair
      | cons step path => cases step <;> cases hpair
  | @binary op left right hleft hright ih ih' =>
      intro hread
      obtain ⟨gl, gr, hgl, hgr, rfl⟩ := Expr.grouping?_binary.1 hg
      have hleft' := (Slot.grouping?_place (.leftOperand op) left).symm.trans hgl
      have hright' := (Slot.grouping?_place (.rightOperand op) right).symm.trans hgr
      cases path with
      | nil => cases hpair
      | cons step path =>
          cases step with
          | inside => cases hpair
          | left op' other =>
              obtain ⟨rfl, hpart, rfl⟩ := Expr.binary.inj hpair
              rw [hpart, grouping?_fillAt_wrapped] at hgl
              obtain ⟨_, _, has⟩ := Expr.exists_groups hgl
              obtain ⟨_, _, hbs⟩ := Expr.exists_groups hgr
              have hoperand := (hread.operands has hbs (Expr.countP_runTokens hgl)).1
              exact hleft.not_groups_place (ih hleft') hleft' hpart Slot.leftLimit_le hoperand
          | right other op' =>
              obtain ⟨rfl, rfl, hpart⟩ := Expr.binary.inj hpair
              rw [hpart, grouping?_fillAt_wrapped] at hgr
              obtain ⟨_, _, has⟩ := Expr.exists_groups hgl
              obtain ⟨_, _, hbs⟩ := Expr.exists_groups hgr
              have hoperand := (hread.operands has hbs (Expr.countP_runTokens hgl)).2
              exact hright.not_groups_place (ih' hright') hright' hpart Slot.rightLimit_le hoperand

/-- An expression of names and binary operators is written so that it is read as the tree that was
built. Each pair of parentheses in it is needed for that: the text without just that pair is read as
another tree. -/
theorem pair_needed (h : InfixForm e) :
    ∃ tree, e.grouping? = some tree ∧ ReadsOnlyAs e.text tree ∧
      ∀ path inner, e = fillAt path (.wrapped inner) →
        e.text = textBefore path ++ "(" ++ inner.text ++ ")" ++ textAfter path ∧
        ∃ other, ReadsOnlyAs (textBefore path ++ inner.text ++ textAfter path) other ∧
          other ≠ tree := by
  obtain ⟨tree, htree, hread⟩ := h.exists_groups
  refine ⟨tree, htree, hread.readsOnlyAs htree, fun path inner hpair => ⟨?_, ?_⟩⟩
  · rw [hpair, text_fillAt, Expr.text]
    simp only [String.append_assoc]
  · have hsame : (fillAt path inner).grouping? = some tree := by
      rw [← grouping?_fillAt_wrapped, ← hpair, htree]
    obtain ⟨l, other, hother⟩ := Expr.exists_groups hsame
    refine ⟨other, ?_, ?_⟩
    · rw [← text_fillAt]
      exact hother.readsOnlyAs hsame
    · rintro rfl
      exact h.not_groups htree hpair l hother

end InfixForm

/-- A comparison within a comparison, below a power, and a difference as the right operand of another. -/
def nestedInfix : Expr :=
  let p : Expr := .identifier ⟨"p", by decide⟩
  let q : Expr := .identifier ⟨"q", by decide⟩
  let r : Expr := .identifier ⟨"r", by decide⟩
  .mkBinary .sub (.mkBinary .pow (.mkBinary .less p (.mkBinary .less q r)) p) (.mkBinary .sub q r)

theorem infixForm_nestedInfix : InfixForm nestedInfix :=
  .binary .sub (.binary .pow (.binary .less (.name _) (.binary .less (.name _) (.name _))) (.name _))
    (.binary .sub (.name _) (.name _))

theorem nestedInfix_pair_needed :
    nestedInfix.text = "(p < (q < r)) ** p - (q - r)" ∧ InfixForm nestedInfix ∧
    ∃ tree, nestedInfix.grouping? = some tree ∧ ReadsOnlyAs nestedInfix.text tree ∧
      ∀ path inner, nestedInfix = fillAt path (.wrapped inner) →
        nestedInfix.text = textBefore path ++ "(" ++ inner.text ++ ")" ++ textAfter path ∧
        ∃ other, ReadsOnlyAs (textBefore path ++ inner.text ++ textAfter path) other ∧
          other ≠ tree :=
  ⟨by decide, infixForm_nestedInfix, InfixForm.pair_needed infixForm_nestedInfix⟩

end Unparse
