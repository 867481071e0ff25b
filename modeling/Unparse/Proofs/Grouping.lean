import Unparse.Proofs.Reader

/-!
How operators group what stands between them when only their levels and their associativity say so.
Comparisons that follow one another form a chain, which is a reading of its own: no comparison in it is
an operand of another one. Names with operators between them always have a reading, whatever their
levels, and never a second one, since the loosest operator outside of all parentheses is the root of
each reading, the last of several that group to the left or form a chain and the first of several that
group to the right.
-/

namespace Unparse

/-! ### Readings -/

/-- How names are grouped, with parentheses left out. A chain is what comes before its last operator,
which is a comparison or a shorter chain, and what that operator goes on with. -/
inductive Grouping where
  | name (name : Identifier)
  | binary (op : BinaryOp) (left right : Grouping)
  | chain (links : Grouping) (op : BinaryOp) (right : Grouping)
  deriving DecidableEq

/-- What an operator makes of what stands before it: an operand, if that is tight enough, and a chain, if
both are comparisons. -/
inductive Joins (op : BinaryOp) (l : Level) (left right : Grouping) : Grouping → Prop where
  | operand (hlevel : l.rank < op.leftLimit) : Joins op l left right (.binary op left right)
  | chain (hchained : op.associativity = .chained) (hlevel : l = op.level) :
    Joins op l left right (.chain left op right)

/-- Tokens are read as this grouping, at exactly this level. -/
inductive Groups : Level → List Token → Grouping → Prop where
  | name (name : Identifier) : Groups .atom [.name name] (.name name)
  | enclosed {l : Level} {ts : List Token} {g : Grouping} (hinner : Groups l ts g) :
    Groups .atom (.mark .openRound :: (ts ++ [.mark .closeRound])) g
  | infixed {op : BinaryOp} {l l' : Level} {ts ts' : List Token} {left right g : Grouping}
    (hleft : Groups l ts left) (hright : Groups l' ts' right) (hjoins : Joins op l left right g)
    (hlevel : l'.rank < op.rightLimit) :
    Groups op.level (ts ++ (op.marks.map .mark ++ ts')) g

namespace Joins

variable {op : BinaryOp} {l : Level} {left right g : Grouping}

theorem unique (h : Joins op l left right g) {g' : Grouping} (h' : Joins op l left right g') :
    g = g' := by
  cases h with
  | operand hlevel =>
      cases h' with
      | operand _ => rfl
      | chain hchained heq =>
          rw [BinaryOp.leftLimit, hchained, heq] at hlevel
          exact absurd hlevel (lt_irrefl _)
  | chain hchained heq =>
      cases h' with
      | operand hlevel =>
          rw [BinaryOp.leftLimit, hchained, heq] at hlevel
          exact absurd hlevel (lt_irrefl _)
      | chain _ _ => rfl

/-- An operator that goes on with something goes on with anything else in the same way. -/
theorem with_right (h : Joins op l left right g) (other : Grouping) :
    ∃ g', Joins op l left other g' := by
  cases h with
  | operand hlevel => exact ⟨_, .operand hlevel⟩
  | chain hchained heq => exact ⟨_, .chain hchained heq⟩

theorem rank_le (h : Joins op l left right g) : l.rank ≤ op.level.rank := by
  cases h with
  | operand hlevel => exact Nat.le_of_lt_succ (lt_of_lt_of_le hlevel op.leftLimit_le)
  | chain _ heq => exact (congrArg Level.rank heq).le

theorem rank_lt (h : Joins op l left right g) (hassoc : op.associativity = .right) :
    l.rank < op.level.rank := by
  cases h with
  | operand hlevel => simpa only [BinaryOp.leftLimit, hassoc] using hlevel
  | chain hchained _ =>
      rw [hassoc] at hchained
      cases hchained

end Joins

/-! ### Marks -/

theorem BinaryOp.marks_ne_nil (op : BinaryOp) : op.marks ≠ [] := by
  cases op <;> simp [marks]

theorem BinaryOp.ne_round_of_mem_marks {op : BinaryOp} {m : Mark} (h : m ∈ op.marks) :
    m ≠ .openRound ∧ m ≠ .closeRound := by
  have hall : ∀ op ∈ all, ∀ m ∈ op.marks, m ≠ .openRound ∧ m ≠ .closeRound := by decide
  exact hall op op.mem_all m h

/-- Operators that share a mark are of one level. -/
theorem BinaryOp.level_eq_of_mem_marks {op op' : BinaryOp} {m : Mark} (h : m ∈ op.marks)
    (h' : m ∈ op'.marks) : op.level = op'.level := by
  have hall : ∀ op ∈ all, ∀ op' ∈ all, ∀ m ∈ op.marks, m ∈ op'.marks → op.level = op'.level := by
    decide +kernel
  exact hall op op.mem_all op' op'.mem_all m h h'

theorem BinaryOp.level_le_leftLimit (op : BinaryOp) : op.level.rank ≤ op.leftLimit := by
  unfold leftLimit
  split <;> omega

theorem BinaryOp.level_le_rightLimit (op : BinaryOp) : op.level.rank ≤ op.rightLimit := by
  unfold rightLimit
  split <;> omega

/-- An operator that neither takes another one on its left nor goes on with it as a chain is tight
enough to stand on the right of that other one. -/
theorem BinaryOp.rank_lt_rightLimit {op op' : BinaryOp} (hlevel : op.leftLimit ≤ op'.level.rank)
    (hchain : ¬ (op.associativity = .chained ∧ op'.level = op.level)) :
    op.level.rank < op'.rightLimit := by
  by_cases hsame : op'.level = op.level
  · have hassoc : op'.associativity = op.associativity := by simp only [associativity, hsame]
    rw [leftLimit, hsame] at hlevel
    rw [rightLimit, hassoc, hsame]
    cases hop : op.associativity with
    | left =>
        simp only [hop] at hlevel
        omega
    | right => exact Nat.lt_succ_self _
    | chained => exact absurd ⟨hop, hsame⟩ hchain
  · have hrank : op'.level.rank ≠ op.level.rank := fun hrank => hsame (Level.rank_injective hrank)
    have hleft := op.level_le_leftLimit
    have hright := op'.level_le_rightLimit
    omega

def Token.isName : Token → Bool
  | .name _ => true
  | _ => false

/-! ### Parentheses -/

def openCount (ts : List Token) : Nat :=
  ts.count (.mark .openRound)

def closeCount (ts : List Token) : Nat :=
  ts.count (.mark .closeRound)

/-- All parentheses are closed, and each of them after it was opened. -/
structure Balanced (ts : List Token) : Prop where
  even : openCount ts = closeCount ts
  nested : ∀ us vs, ts = us ++ vs → closeCount us ≤ openCount us

@[simp] theorem openCount_append (ts us : List Token) :
    openCount (ts ++ us) = openCount ts + openCount us :=
  List.count_append

@[simp] theorem closeCount_append (ts us : List Token) :
    closeCount (ts ++ us) = closeCount ts + closeCount us :=
  List.count_append

/-- Tokens without parentheses. -/
theorem counts_eq_zero {ts : List Token}
    (h : ∀ t ∈ ts, t ≠ .mark .openRound ∧ t ≠ .mark .closeRound) :
    openCount ts = 0 ∧ closeCount ts = 0 :=
  ⟨List.count_eq_zero.2 fun hmem => (h _ hmem).1 rfl, List.count_eq_zero.2 fun hmem => (h _ hmem).2 rfl⟩

theorem BinaryOp.ne_round_of_mem_map (op : BinaryOp) :
    ∀ t ∈ op.marks.map Token.mark, t ≠ .mark .openRound ∧ t ≠ .mark .closeRound := by
  intro t ht
  obtain ⟨m, hm, rfl⟩ := List.mem_map.1 ht
  simpa using ne_round_of_mem_marks hm

theorem BinaryOp.counts_marks (op : BinaryOp) :
    openCount (op.marks.map .mark) = 0 ∧ closeCount (op.marks.map .mark) = 0 :=
  counts_eq_zero op.ne_round_of_mem_map

namespace Balanced

variable {ts us : List Token}

theorem of_round_free (h : ∀ t ∈ ts, t ≠ .mark .openRound ∧ t ≠ .mark .closeRound) : Balanced ts := by
  refine ⟨(counts_eq_zero h).1.trans (counts_eq_zero h).2.symm, fun us vs heq => ?_⟩
  have hus : ∀ t ∈ us, t ≠ .mark .openRound ∧ t ≠ .mark .closeRound :=
    fun t ht => h t (heq ▸ List.mem_append_left vs ht)
  exact (counts_eq_zero hus).2.le.trans (Nat.zero_le _)

theorem append (h : Balanced ts) (h' : Balanced us) : Balanced (ts ++ us) := by
  refine ⟨by simp [h.even, h'.even], fun ws vs heq => ?_⟩
  rcases List.append_eq_append_iff.1 heq with ⟨more, rfl, hus⟩ | ⟨more, hts, -⟩
  · have hmore := h'.nested more vs hus
    have heven := h.even
    simp only [openCount_append, closeCount_append]
    omega
  · exact h.nested ws more hts

theorem openCount_cons_open : openCount (.mark .openRound :: ts) = openCount ts + 1 :=
  List.count_cons_self

theorem closeCount_cons_open : closeCount (.mark .openRound :: ts) = closeCount ts :=
  List.count_cons_of_ne (by simp)

/-- Between the parentheses around balanced tokens, more are open than closed. -/
theorem lt_of_prefix (h : Balanced ts) {ws vs : List Token} (hne : ws ≠ []) (hvs : vs ≠ [])
    (heq : .mark .openRound :: (ts ++ [.mark .closeRound]) = ws ++ vs) :
    closeCount ws < openCount ws := by
  obtain ⟨t, ws, rfl⟩ := List.exists_cons_of_ne_nil hne
  rw [List.cons_append, List.cons.injEq] at heq
  obtain ⟨rfl, heq⟩ := heq
  have hinner : closeCount ws ≤ openCount ws := by
    rcases List.append_eq_append_iff.1 heq with ⟨more, rfl, hmore⟩ | ⟨more, hts, -⟩
    · cases more with
      | nil => simpa using h.even.ge
      | cons t more =>
          obtain ⟨-, hmore⟩ := List.cons.inj hmore
          exact absurd (List.append_eq_nil_iff.1 hmore.symm).2 hvs
    · exact h.nested ws more hts
  rw [openCount_cons_open, closeCount_cons_open]
  exact Nat.lt_succ_of_le hinner

theorem enclosed (h : Balanced ts) : Balanced (.mark .openRound :: (ts ++ [.mark .closeRound])) := by
  have heven : openCount (.mark .openRound :: (ts ++ [.mark .closeRound])) =
      closeCount (.mark .openRound :: (ts ++ [.mark .closeRound])) := by
    rw [openCount_cons_open, closeCount_cons_open, openCount_append, closeCount_append, h.even]
    rfl
  refine ⟨heven, fun ws vs heq => ?_⟩
  by_cases hws : ws = []
  · rw [hws]
    exact le_rfl
  by_cases hvs : vs = []
  · rw [hvs, List.append_nil] at heq
    rw [← heq]
    exact heven.ge
  · exact (h.lt_of_prefix hws hvs heq).le

end Balanced

namespace Groups

variable {l l' : Level} {ts ts' : List Token} {g g' : Grouping}

theorem balanced (h : Groups l ts g) : Balanced ts := by
  induction h with
  | name name => exact .of_round_free (by simp)
  | enclosed _ ih => exact ih.enclosed
  | @infixed op _ _ _ _ _ _ _ _ _ _ _ ih ih' =>
      exact ih.append ((Balanced.of_round_free op.ne_round_of_mem_map).append ih')

/-- A reading begins with a name or a parenthesis. -/
theorem exists_cons (h : Groups l ts g) :
    ∃ t more, ts = t :: more ∧ (t.isName = true ∨ t = .mark .openRound) := by
  induction h with
  | name name => exact ⟨_, _, rfl, Or.inl rfl⟩
  | enclosed _ _ => exact ⟨_, _, rfl, Or.inr rfl⟩
  | infixed _ _ _ _ ih _ =>
      obtain ⟨t, more, rfl, ht⟩ := ih
      exact ⟨t, _, rfl, ht⟩

theorem ne_nil (h : Groups l ts g) : ts ≠ [] := by
  obtain ⟨t, more, rfl, -⟩ := h.exists_cons
  exact List.cons_ne_nil t more

/-- A reading ends with a name or a parenthesis. -/
theorem exists_concat (h : Groups l ts g) :
    ∃ more t, ts = more ++ [t] ∧ (t.isName = true ∨ t = .mark .closeRound) := by
  induction h with
  | name name => exact ⟨[], _, rfl, Or.inl rfl⟩
  | @enclosed _ ts _ _ _ => exact ⟨.mark .openRound :: ts, _, rfl, Or.inr rfl⟩
  | infixed _ _ _ _ _ ih =>
      obtain ⟨more, t, rfl, ht⟩ := ih
      exact ⟨_, t, by rw [← List.append_assoc, ← List.append_assoc], ht⟩

theorem head?_ne (h : Groups l ts g) {op : BinaryOp} {m : Mark} (hm : m ∈ op.marks)
    (rest : List Token) : (ts ++ rest).head? ≠ some (.mark m) := by
  obtain ⟨t, more, rfl, ht⟩ := h.exists_cons
  rw [List.cons_append, List.head?_cons, ne_eq, Option.some.injEq]
  rintro rfl
  rcases ht with ht | ht
  · cases ht
  · exact (BinaryOp.ne_round_of_mem_marks hm).1 (Token.mark.inj ht)

/-! ### The root of a reading -/

/-- Where a mark may stand in a run of tokens that an operator divides. -/
theorem cases_of_append {as ms bs us vs : List Token} {t : Token}
    (h : as ++ (ms ++ bs) = us ++ t :: vs) :
    (∃ ws, as = us ++ t :: ws) ∨ t ∈ ms ∨ ∃ ws, us = as ++ (ms ++ ws) ∧ bs = ws ++ t :: vs := by
  rcases List.append_eq_append_iff.1 h with ⟨more, hus, hrest⟩ | ⟨more, has, hrest⟩
  · rcases List.append_eq_append_iff.1 hrest with ⟨ws, hmore, hbs⟩ | ⟨ws, hms, hws⟩
    · exact Or.inr (Or.inr ⟨ws, by rw [hus, hmore], hbs⟩)
    · cases ws with
      | nil => exact Or.inr (Or.inr ⟨[], by simp [hus, hms], by simpa using hws.symm⟩)
      | cons t' ws =>
          obtain ⟨rfl, -⟩ := List.cons.inj hws
          exact Or.inr (Or.inl (by simp [hms]))
  · cases more with
    | nil =>
        cases ms with
        | nil => exact Or.inr (Or.inr ⟨[], by simpa using has.symm, by simpa using hrest.symm⟩)
        | cons t' ms =>
            obtain ⟨rfl, -⟩ := List.cons.inj hrest
            exact Or.inr (Or.inl List.mem_cons_self)
    | cons t' more =>
        obtain ⟨rfl, -⟩ := List.cons.inj hrest
        exact Or.inl ⟨more, has⟩

theorem rank_le_of_mark (h : Groups l ts g) {us vs : List Token} {m : Mark} (heq : ts = us ++ .mark m :: vs)
    (hbare : openCount us = closeCount us) {op : BinaryOp} (hm : m ∈ op.marks) :
    op.level.rank ≤ l.rank := by
  induction h generalizing us vs with
  | name name =>
      cases us with
      | nil => cases heq
      | cons t us => simp at heq
  | enclosed hinner _ =>
      cases us with
      | nil =>
          obtain ⟨hmark, -⟩ := List.cons.inj heq
          exact absurd (Token.mark.inj hmark).symm (BinaryOp.ne_round_of_mem_marks hm).1
      | cons t us =>
          have hlt := hinner.balanced.lt_of_prefix (List.cons_ne_nil t us)
            (List.cons_ne_nil _ vs) heq
          omega
  | @infixed op' _ _ as bs _ _ _ hleft hright hjoins hlevel ih ih' =>
      rcases cases_of_append heq with ⟨ws, has⟩ | hmarks | ⟨ws, rfl, hbs⟩
      · exact (ih has hbare).trans hjoins.rank_le
      · obtain ⟨m', hm', hmark⟩ := List.mem_map.1 hmarks
        cases hmark
        exact (congrArg Level.rank (BinaryOp.level_eq_of_mem_marks hm hm')).le
      · have hws : openCount ws = closeCount ws := by
          have heven := hleft.balanced.even
          have hmarks := op'.counts_marks
          simp only [openCount_append, closeCount_append] at hbare
          omega
        have hlimit := op'.rightLimit_le
        exact (ih' hbs hws).trans (Nat.le_of_lt_succ (lt_of_lt_of_le hlevel hlimit))

/-- A reading is as loose as any operator in it outside of all parentheses. -/
theorem rank_le (h : Groups l ts g) {us vs : List Token} {op : BinaryOp}
    (heq : ts = us ++ (op.marks.map .mark ++ vs)) (hbare : openCount us = closeCount us) :
    op.level.rank ≤ l.rank := by
  obtain ⟨m, ms, hmarks⟩ := List.exists_cons_of_ne_nil op.marks_ne_nil
  rw [hmarks, List.map_cons, List.cons_append] at heq
  exact h.rank_le_of_mark heq hbare (hmarks ▸ List.mem_cons_self)

/-- Where tokens are divided at two places, a reading of what comes before the second one holds the first
operator and more after it. -/
theorem exists_between {cs : List Token} (h : Groups l cs g) {op op' : BinaryOp}
    {as bs ds : List Token}
    (heq : as ++ (op.marks.map .mark ++ bs) = cs ++ (op'.marks.map .mark ++ ds))
    (hlonger : as.length < cs.length) :
    ∃ others, others ≠ [] ∧ cs = as ++ (op.marks.map .mark ++ others) ∧
      bs = others ++ (op'.marks.map .mark ++ ds) := by
  obtain ⟨more, rfl, hrest⟩ : ∃ more, cs = as ++ more ∧
      op.marks.map Token.mark ++ bs = more ++ (op'.marks.map .mark ++ ds) := by
    rcases List.append_eq_append_iff.1 heq with ⟨more, hcs, hrest⟩ | ⟨more, has, -⟩
    · exact ⟨more, hcs, hrest⟩
    · rw [has, List.length_append] at hlonger
      omega
  have hne : more ≠ [] := by
    rintro rfl
    simp at hlonger
  -- A reading does not end within an operator, so there is something after the first one.
  have hlast : ¬ ∃ m ∈ op.marks, more.getLast? = some (.mark m) := by
    rintro ⟨m, hm, hlast⟩
    obtain ⟨_, t, hconcat, ht⟩ := h.exists_concat
    rw [← List.getLast?_append_of_ne_nil as hne, hconcat, List.getLast?_concat,
      Option.some.injEq] at hlast
    subst hlast
    rcases ht with ht | ht
    · cases ht
    · exact (BinaryOp.ne_round_of_mem_marks hm).2 (Token.mark.inj ht)
  have hwithin : ∀ ts : List Token, op.marks.map Token.mark ≠ more ++ ts := by
    intro ts hmarks
    have hmem := List.mem_append_left ts (List.getLast_mem hne)
    rw [← hmarks] at hmem
    obtain ⟨m, hm, heq⟩ := List.mem_map.1 hmem
    exact hlast ⟨m, hm, by rw [heq, List.getLast?_eq_getLast_of_ne_nil hne]⟩
  rcases List.append_eq_append_iff.1 hrest with ⟨others, hothers, hbs⟩ | ⟨others, hmarks, -⟩
  · refine ⟨others, ?_, by rw [hothers], hbs⟩
    rintro rfl
    exact hwithin [] (by rw [hothers, List.append_nil, List.append_nil])
  · exact absurd hmarks (hwithin others)

end Groups

/-- Tokens to both sides of an operator, each read as what may stand there. -/
structure Divides (op : BinaryOp) (as bs : List Token) : Prop where
  left : ∃ l g, Groups l as g ∧ l.rank ≤ op.level.rank ∧
    (op.associativity = .right → l.rank < op.level.rank)
  right : ∃ l g, Groups l bs g ∧ l.rank < op.rightLimit

namespace Divides

variable {op op' : BinaryOp} {as bs cs ds : List Token}

/-- Of two operators that divide the same tokens, the second one does not come later. -/
theorem length_le (h : Divides op as bs) (h' : Divides op' cs ds)
    (heq : as ++ (op.marks.map .mark ++ bs) = cs ++ (op'.marks.map .mark ++ ds)) :
    cs.length ≤ as.length := by
  by_contra hlonger
  obtain ⟨l, _, has, -, -⟩ := h.left
  obtain ⟨l', _, hbs, hright⟩ := h.right
  obtain ⟨k, _, hcs, hloose, hassoc⟩ := h'.left
  obtain ⟨others, -, hmore, hright'⟩ := hcs.exists_between heq (Nat.not_le.1 hlonger)
  have heven := hbs.balanced.even
  have hfirst : op.level.rank ≤ k.rank := hcs.rank_le hmore has.balanced.even
  have hsecond : op'.level.rank ≤ l'.rank := by
    refine hbs.rank_le hright' ?_
    have hcseven := hcs.balanced.even
    have haseven := has.balanced.even
    have hmarks := op.counts_marks
    rw [hmore] at hcseven
    simp only [openCount_append, closeCount_append] at hcseven
    omega
  have hbound := lt_of_lt_of_le hright op.rightLimit_le
  have hlevel : op.level = op'.level := Level.rank_injective (by omega)
  have hsame : op'.associativity = op.associativity := by
    simp only [BinaryOp.associativity, hlevel]
  rw [BinaryOp.rightLimit] at hright
  cases hop : op.associativity with
  | right =>
      have hlt := hassoc (hsame.trans hop)
      omega
  | left | chained =>
      simp only [hop] at hright
      omega

/-- Tokens are divided in one way only. -/
theorem unique (h : Divides op as bs) (h' : Divides op' cs ds)
    (heq : as ++ (op.marks.map .mark ++ bs) = cs ++ (op'.marks.map .mark ++ ds)) :
    op = op' ∧ as = cs ∧ bs = ds := by
  have hlength : as.length = cs.length :=
    le_antisymm (h'.length_le h heq.symm) (h.length_le h' heq)
  obtain ⟨rfl, hrest⟩ := List.append_inj heq hlength
  obtain ⟨_, _, hbs, -⟩ := h.right
  obtain ⟨_, _, hds, -⟩ := h'.right
  have hnot : Mark.notWord ∈ BinaryOp.notSame.marks := by decide
  have hread := operator?_marks op bs fun _ => by simpa using hbs.head?_ne hnot []
  have hread' := operator?_marks op' ds fun _ => by simpa using hds.head?_ne hnot []
  rw [hrest, hread', Option.some.injEq, Prod.mk.injEq] at hread
  exact ⟨hread.1.symm, rfl, hread.2.symm⟩

end Divides

namespace Groups

variable {l l' : Level} {ts ts' : List Token} {g g' : Grouping}

theorem divides {op : BinaryOp} {left right : Grouping} (hleft : Groups l ts left)
    (hright : Groups l' ts' right) (hjoins : Joins op l left right g)
    (hlevel : l'.rank < op.rightLimit) : Divides op ts ts' :=
  ⟨⟨l, left, hleft, hjoins.rank_le, hjoins.rank_lt⟩, ⟨l', right, hright, hlevel⟩⟩

/-- An operator and what stands to both sides of it are not one pair of parentheses. -/
theorem append_ne_enclosed {us : List Token} (h : Groups l ts g) (h' : Groups l' us g')
    (op : BinaryOp) (vs : List Token) :
    ts ++ (op.marks.map .mark ++ vs) ≠ .mark .openRound :: (us ++ [.mark .closeRound]) := by
  intro heq
  have hne : op.marks.map Token.mark ++ vs ≠ [] := by simp [op.marks_ne_nil]
  have hlt := h'.balanced.lt_of_prefix h.ne_nil hne heq.symm
  have heven := h.balanced.even
  omega

theorem append_ne_singleton (h : Groups l ts g) (op : BinaryOp) (vs : List Token) (t : Token) :
    ts ++ (op.marks.map .mark ++ vs) ≠ [t] := by
  intro heq
  have hlength := congrArg List.length heq
  have hts := List.length_pos_iff.2 h.ne_nil
  have hmarks := List.length_pos_iff.2 op.marks_ne_nil
  simp only [List.length_append, List.length_map, List.length_singleton] at hlength
  omega

/-- No tokens have two readings. -/
theorem unique (h : Groups l ts g) (h' : Groups l' ts g') : l = l' ∧ g = g' := by
  induction h generalizing l' g' with
  | name name =>
      generalize hts : [Token.name name] = us at h'
      cases h' with
      | name _ =>
          cases hts
          exact ⟨rfl, rfl⟩
      | enclosed _ => cases hts
      | infixed hleft _ _ _ => exact absurd hts.symm (hleft.append_ne_singleton _ _ _)
  | @enclosed _ ts _ hinner ih =>
      generalize hts : Token.mark .openRound :: (ts ++ [.mark .closeRound]) = us at h'
      cases h' with
      | name _ => cases hts
      | enclosed hinner' =>
          obtain ⟨rfl, -⟩ := List.append_inj' (List.cons.inj hts).2 rfl
          exact ⟨rfl, (ih hinner').2⟩
      | infixed hleft _ _ _ => exact absurd hts.symm (hleft.append_ne_enclosed hinner _ _)
  | @infixed op _ _ as bs _ _ _ hleft hright hjoins hlevel ih ih' =>
      generalize hts : as ++ (op.marks.map Token.mark ++ bs) = us at h'
      cases h' with
      | name _ => exact absurd hts (hleft.append_ne_singleton _ _ _)
      | enclosed hinner' => exact absurd hts (hleft.append_ne_enclosed hinner' _ _)
      | infixed hleft' hright' hjoins' hlevel' =>
          obtain ⟨rfl, rfl, rfl⟩ := (divides hleft hright hjoins hlevel).unique
            (divides hleft' hright' hjoins' hlevel') hts
          obtain ⟨rfl, rfl⟩ := ih hleft'
          obtain ⟨rfl, rfl⟩ := ih' hright'
          exact ⟨rfl, hjoins.unique hjoins'⟩

/-! ### Every run has a reading -/

/-- An operator and a tight operand go on with a reading, which gets no looser than the operator. -/
theorem exists_snoc (h : Groups l ts g) (op : BinaryOp) (h' : Groups .atom ts' g') :
    ∃ k j, Groups k (ts ++ (op.marks.map .mark ++ ts')) j ∧ k.rank ≤ max l.rank op.level.rank := by
  have hloose : Level.atom.rank < op.level.rank := lt_of_lt_of_le (by decide) op.exponential_le_level
  have htight := lt_of_lt_of_le hloose op.level_le_rightLimit
  have hatom {us : List Token} {f : Grouping} (hus : Groups .atom us f) :
      ∃ k j, Groups k (us ++ (op.marks.map .mark ++ ts')) j ∧
        k.rank ≤ max Level.atom.rank op.level.rank :=
    ⟨_, _, hus.infixed h' (.operand (lt_of_lt_of_le hloose op.level_le_leftLimit)) htight,
      le_max_right _ _⟩
  induction h with
  | name name => exact hatom (.name name)
  | enclosed hinner _ => exact hatom hinner.enclosed
  | @infixed op' _ l' as bs _ _ _ hleft hright hjoins hlevel _ ih =>
      by_cases hoperand : op'.level.rank < op.leftLimit
      · exact ⟨_, _, (hleft.infixed hright hjoins hlevel).infixed h' (.operand hoperand) htight,
          le_max_right _ _⟩
      by_cases hchain : op.associativity = .chained ∧ op'.level = op.level
      · exact ⟨_, _, (hleft.infixed hright hjoins hlevel).infixed h' (.chain hchain.1 hchain.2) htight,
          le_max_right _ _⟩
      -- The operator is too tight for the whole, so it goes on with the right operand.
      obtain ⟨k, j, hread, hrank⟩ := ih
      obtain ⟨g', hjoins'⟩ := hjoins.with_right j
      have hop := BinaryOp.rank_lt_rightLimit (Nat.not_lt.1 hoperand) hchain
      have hlimit : k.rank < op'.rightLimit := lt_of_le_of_lt hrank (max_lt hlevel hop)
      have hwhole := hleft.infixed hread hjoins' hlimit
      refine ⟨op'.level, g', ?_, le_max_left _ _⟩
      simpa only [List.append_assoc] using hwhole

/-- Two readings with an operator between them have a reading together. -/
theorem exists_join (h : Groups l ts g) (op : BinaryOp) (h' : Groups l' ts' g') :
    ∃ k j, Groups k (ts ++ (op.marks.map .mark ++ ts')) j := by
  induction h' generalizing l ts g op with
  | name name =>
      obtain ⟨k, j, hread, -⟩ := h.exists_snoc op (.name name)
      exact ⟨k, j, hread⟩
  | enclosed hinner _ =>
      obtain ⟨k, j, hread, -⟩ := h.exists_snoc op hinner.enclosed
      exact ⟨k, j, hread⟩
  | @infixed op' _ _ as bs _ _ _ _ _ _ _ ih ih' =>
      obtain ⟨_, _, hread⟩ := ih h op
      obtain ⟨k, j, hread'⟩ := ih' hread op'
      refine ⟨k, j, ?_⟩
      rwa [List.append_assoc, List.append_assoc] at hread'

end Groups

end Unparse
