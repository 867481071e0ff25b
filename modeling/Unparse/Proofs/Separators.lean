import Unparse.Proofs.Grammar

/-!
Separators outside of all brackets. A comma or a colon there divides tokens, unless a lambda has a
claim on it: the commas between its parameters and the colon after them are its own. The tokens of
an expression have no separator of their own in this sense, and their brackets are all closed.
-/

namespace Unparse

/-! ### Scopes -/

/-- Where a reader stands: how many brackets are open, and how many lambdas outside of them still
wait for their colon. -/
structure Scope where
  depth : Nat
  lambdas : Nat
  deriving DecidableEq

namespace Scope

/-- Outside of all brackets and of the parameters of any lambda. -/
def outer : Scope :=
  ⟨0, 0⟩

/-- Where a reader stands after a token. Within brackets a lambda and its colon are no concern of
what is outside. -/
def next (scope : Scope) : Token → Scope
  | .mark .openRound | .mark .openSquare => { scope with depth := scope.depth + 1 }
  | .mark .closeRound | .mark .closeSquare => { scope with depth := scope.depth - 1 }
  | .mark .lambdaWord =>
    if scope.depth = 0 then { scope with lambdas := scope.lambdas + 1 } else scope
  | .mark .colon =>
    if scope.depth = 0 then { scope with lambdas := scope.lambdas - 1 } else scope
  | _ => scope

end Scope

/-- The items that commas divide tokens into, each in the parts that colons divide it into. -/
def cutTokens (scope : Scope) (part : List Token) (parts : List (List Token)) :
    List Token → List (List (List Token))
  | [] => [parts ++ [part]]
  | t :: rest =>
    if scope = .outer ∧ t = .mark .comma then (parts ++ [part]) :: cutTokens .outer [] [] rest
    else if scope = .outer ∧ t = .mark .colon then cutTokens .outer [] (parts ++ [part]) rest
    else cutTokens (scope.next t) (part ++ [t]) parts rest

/-- The items of what stands between brackets; between empty ones there is none. -/
def itemsOfTokens (tokens : List Token) : List (List (List Token)) :=
  if tokens = [] then [] else cutTokens .outer [] [] tokens

/-- The tokens before the last square bracket that opens outside of all others, and those from there
on. -/
def cutLastSquare (scope : Scope) (before group : List Token) :
    List Token → List Token × List Token
  | [] => (before, group)
  | t :: rest =>
    if scope.depth = 0 ∧ t = .mark .openSquare then
      cutLastSquare (scope.next t) (before ++ group) [t] rest
    else cutLastSquare (scope.next t) before (group ++ [t]) rest

/-! ### Runs without separators of their own -/

def openMarks : List Mark :=
  [.openRound, .openSquare]

def closeMarks : List Mark :=
  [.closeRound, .closeSquare]

def separators : List Mark :=
  [.comma, .colon]

/-- Tokens that leave a reader where it stands and divide nothing. -/
def Token.isInert : Token → Bool
  | .mark m => !(openMarks ++ closeMarks ++ separators ++ [Mark.lambdaWord]).contains m
  | _ => true

theorem Token.ne_mark_of_isInert {t : Token} (h : t.isInert = true) {m : Mark}
    (hm : (Token.mark m).isInert = false) : t ≠ .mark m := by
  rintro rfl
  cases hm.symm.trans h

/-- Runs of tokens whose brackets are closed and whose separators belong to brackets or lambdas. In
a run that is enclosed in brackets itself a separator may stand anywhere. -/
inductive Nested : Bool → List Token → Prop where
  | nil (enclosed : Bool) : Nested enclosed []
  | append {enclosed : Bool} {ts ts' : List Token} (h : Nested enclosed ts)
    (h' : Nested enclosed ts') : Nested enclosed (ts ++ ts')
  | inert {enclosed : Bool} {t : Token} (h : t.isInert = true) : Nested enclosed [t]
  | separator {m : Mark} (h : m ∈ separators) : Nested true [.mark m]
  | brackets {enclosed : Bool} {left right : Mark} (hleft : left ∈ openMarks)
    (hright : right ∈ closeMarks) {ts : List Token} (h : Nested true ts) :
    Nested enclosed (.mark left :: (ts ++ [.mark right]))
  | binder {enclosed : Bool} (params : List Identifier) :
    Nested enclosed
      (.mark .lambdaWord :: (commaTokens (params.map fun name => [.name name]) ++ [.mark .colon]))

namespace Scope

theorem next_inert {t : Token} (h : t.isInert = true) (scope : Scope) : scope.next t = scope := by
  unfold next
  split <;> simp_all [Token.isInert, openMarks, closeMarks, separators]

theorem next_open {m : Mark} (h : m ∈ openMarks) (scope : Scope) :
    scope.next (.mark m) = { scope with depth := scope.depth + 1 } := by
  simp only [openMarks, List.mem_cons, List.not_mem_nil, or_false] at h
  rcases h with rfl | rfl <;> rfl

theorem next_close {m : Mark} (h : m ∈ closeMarks) (scope : Scope) :
    scope.next (.mark m) = { scope with depth := scope.depth - 1 } := by
  simp only [closeMarks, List.mem_cons, List.not_mem_nil, or_false] at h
  rcases h with rfl | rfl <;> rfl

/-- Within brackets a separator changes nothing. -/
theorem next_separator {m : Mark} (h : m ∈ separators) {scope : Scope} (hdepth : 0 < scope.depth) :
    scope.next (.mark m) = scope := by
  simp only [separators, List.mem_cons, List.not_mem_nil, or_false] at h
  rcases h with rfl | rfl
  · rfl
  · rw [next, if_neg hdepth.ne']

theorem ne_outer_of_depth {scope : Scope} (h : 0 < scope.depth) : scope ≠ .outer := by
  rintro rfl
  exact absurd h (Nat.lt_irrefl 0)

/-- Between a lambda and its colon no separator is without an owner. -/
theorem next_lambdaWord_ne_outer (scope : Scope) : scope.next (.mark .lambdaWord) ≠ .outer := by
  by_cases hdepth : scope.depth = 0
  · simp [next, hdepth, outer]
  · rw [next, if_neg hdepth]
    exact ne_outer_of_depth (Nat.pos_of_ne_zero hdepth)

theorem next_lambdaWord_colon (scope : Scope) :
    (scope.next (.mark .lambdaWord)).next (.mark .colon) = scope := by
  obtain ⟨depth, lambdas⟩ := scope
  by_cases hdepth : depth = 0 <;> simp [next, hdepth]

/-- The parameters of a lambda leave a reader where it stands. -/
theorem next_param (scope : Scope) {params : List Identifier} {t : Token}
    (h : t ∈ commaTokens (params.map fun name => [.name name])) :
    scope.next t = scope ∧ t ≠ .mark .openSquare := by
  induction params with
  | nil => simp at h
  | cons name params ih =>
      cases params with
      | nil =>
          rw [List.map_singleton, commaTokens_singleton, List.mem_singleton] at h
          subst h
          exact ⟨rfl, by simp⟩
      | cons next params =>
          simp only [List.map_cons] at h ih
          rw [commaTokens_cons_cons, List.singleton_append, List.mem_cons, List.mem_cons] at h
          rcases h with rfl | rfl | h
          · exact ⟨rfl, by simp⟩
          · exact ⟨rfl, by simp⟩
          · exact ih h

end Scope

/-! ### Items and parts -/

section Cut

variable {scope : Scope} {part : List Token} {parts : List (List Token)} {rest : List Token}

/-- A token that divides nothing becomes part of the part. -/
theorem cutTokens_step {t : Token}
    (h : scope ≠ .outer ∨ t ≠ .mark .comma ∧ t ≠ .mark .colon) :
    cutTokens scope part parts (t :: rest) =
      cutTokens (scope.next t) (part ++ [t]) parts rest := by
  rw [cutTokens, if_neg, if_neg]
  · rintro ⟨rfl, rfl⟩
    simp at h
  · rintro ⟨rfl, rfl⟩
    simp at h

theorem cutTokens_params (h : scope ≠ .outer) {ts : List Token}
    (hts : ∀ t ∈ ts, scope.next t = scope ∧ t ≠ .mark .openSquare) :
    cutTokens scope part parts (ts ++ rest) = cutTokens scope (part ++ ts) parts rest := by
  induction ts generalizing part with
  | nil => simp
  | cons t ts ih =>
      obtain ⟨ht, hts⟩ := List.forall_mem_cons.1 hts
      rw [List.cons_append, cutTokens_step (Or.inl h), ht.1, ih hts, List.append_assoc,
        List.singleton_append]

/-- A run without separators of its own becomes part of the part as a whole. -/
theorem Nested.cutTokens_append {enclosed : Bool} {ts : List Token} (h : Nested enclosed ts)
    (hscope : enclosed = true → 0 < scope.depth) :
    cutTokens scope part parts (ts ++ rest) = cutTokens scope (part ++ ts) parts rest := by
  induction h generalizing scope part rest with
  | nil enclosed => simp
  | append _ _ ih ih' => rw [List.append_assoc, ih hscope, ih' hscope, List.append_assoc]
  | @inert enclosed t h =>
      have hdivides : t ≠ .mark .comma ∧ t ≠ .mark .colon :=
        ⟨Token.ne_mark_of_isInert h rfl, Token.ne_mark_of_isInert h rfl⟩
      rw [List.singleton_append, cutTokens_step (Or.inr hdivides), Scope.next_inert h]
  | separator h =>
      have hdepth := hscope rfl
      rw [List.singleton_append, cutTokens_step (Or.inl (Scope.ne_outer_of_depth hdepth)),
        Scope.next_separator h hdepth]
  | @brackets enclosed left right hleft hright ts h ih =>
      have hopen : Token.mark left ≠ .mark .comma ∧ Token.mark left ≠ .mark .colon := by
        constructor
        · rintro ⟨⟩
          exact absurd hleft (by decide)
        · rintro ⟨⟩
          exact absurd hleft (by decide)
      have hinside : ({ scope with depth := scope.depth + 1 } : Scope) ≠ .outer :=
        Scope.ne_outer_of_depth (Nat.succ_pos _)
      rw [List.cons_append, cutTokens_step (Or.inr hopen), Scope.next_open hleft, List.append_assoc,
        ih fun _ => Nat.succ_pos _, List.singleton_append, cutTokens_step (Or.inl hinside),
        Scope.next_close hright]
      simp
  | binder params =>
      have hwaiting := scope.next_lambdaWord_ne_outer
      have hparams : ∀ t ∈ commaTokens (params.map fun name => [.name name]),
          (scope.next (.mark .lambdaWord)).next t = scope.next (.mark .lambdaWord) ∧
            t ≠ .mark .openSquare :=
        fun t ht => Scope.next_param _ ht
      rw [List.cons_append, cutTokens_step (Or.inr (by simp)), List.append_assoc,
        List.singleton_append, cutTokens_params hwaiting hparams, cutTokens_step (Or.inl hwaiting),
        Scope.next_lambdaWord_colon]
      simp

def colonTokens (parts : List (List Token)) : List Token :=
  List.intercalate [.mark .colon] parts

theorem colonTokens_singleton (part : List Token) : colonTokens [part] = part :=
  List.intercalate_singleton

theorem colonTokens_cons_cons (part next : List Token) (parts : List (List Token)) :
    colonTokens (part :: next :: parts) = part ++ .mark .colon :: colonTokens (next :: parts) := by
  rw [colonTokens, List.intercalate_cons_cons, List.append_assoc]
  rfl

theorem cutTokens_colon (h : Nested false part) :
    cutTokens .outer [] parts (part ++ .mark .colon :: rest) =
      cutTokens .outer [] (parts ++ [part]) rest := by
  rw [h.cutTokens_append (by simp), cutTokens]
  simp

/-- Parts are cut at the colons between them; what follows goes on with the last one. -/
theorem cutTokens_colonTokens {initial : List (List Token)} {last : List Token}
    (h : ∀ part ∈ initial ++ [last], Nested false part) :
    cutTokens .outer [] parts (colonTokens (initial ++ [last]) ++ rest) =
      cutTokens .outer last (parts ++ initial) rest := by
  induction initial generalizing parts with
  | nil =>
      have hlast := h last List.mem_cons_self
      rw [List.nil_append, colonTokens_singleton, hlast.cutTokens_append (by simp), List.nil_append,
        List.append_nil]
  | cons part initial ih =>
      obtain ⟨hpart, hrest⟩ := List.forall_mem_cons.1 h
      have hcolon : colonTokens (part :: (initial ++ [last])) =
          part ++ .mark .colon :: colonTokens (initial ++ [last]) := by
        cases initial <;> exact colonTokens_cons_cons part _ _
      rw [List.cons_append, hcolon, List.append_assoc, List.cons_append, cutTokens_colon hpart,
        ih hrest, List.append_assoc, List.singleton_append]

/-- Items are cut at the commas between them, and each of them at its colons. -/
theorem cutTokens_commaTokens {items : List (List (List Token))} (hne : items ≠ [])
    (h : ∀ item ∈ items, item ≠ [] ∧ ∀ part ∈ item, Nested false part) :
    cutTokens .outer [] [] (commaTokens (items.map colonTokens)) = items := by
  induction items with
  | nil => exact absurd rfl hne
  | cons item items ih =>
      obtain ⟨⟨hitem, hparts⟩, hitems⟩ := List.forall_mem_cons.1 h
      have hconcat := item.dropLast_append_getLast hitem
      generalize item.dropLast = initial, item.getLast hitem = last at hconcat
      subst hconcat
      cases items with
      | nil =>
          have hcut : cutTokens .outer [] [] (colonTokens (initial ++ [last]) ++ []) = _ :=
            cutTokens_colonTokens hparts
          rw [List.append_nil] at hcut
          rw [List.map_singleton, commaTokens_singleton, hcut, cutTokens, List.nil_append]
      | cons next items =>
          have hrest := ih (by simp) hitems
          rw [List.map_cons] at hrest
          rw [List.map_cons, List.map_cons, commaTokens_cons_cons, cutTokens_colonTokens hparts,
            cutTokens, if_pos ⟨rfl, rfl⟩, hrest, List.nil_append]

end Cut

/-! ### The last brackets -/

section LastSquare

variable {scope : Scope} {before group rest : List Token}

theorem cutLastSquare_step {t : Token} (h : 0 < scope.depth ∨ t ≠ .mark .openSquare) :
    cutLastSquare scope before group (t :: rest) =
      cutLastSquare (scope.next t) before (group ++ [t]) rest := by
  rw [cutLastSquare, if_neg]
  rintro ⟨hdepth, rfl⟩
  rcases h with h | h
  · exact absurd hdepth h.ne'
  · exact h rfl

theorem cutLastSquare_params {ts : List Token}
    (hts : ∀ t ∈ ts, scope.next t = scope ∧ t ≠ .mark .openSquare) :
    cutLastSquare scope before group (ts ++ rest) =
      cutLastSquare scope before (group ++ ts) rest := by
  induction ts generalizing group with
  | nil => simp
  | cons t ts ih =>
      obtain ⟨ht, hts⟩ := List.forall_mem_cons.1 hts
      rw [List.cons_append, cutLastSquare_step (Or.inr ht.2), ht.1, ih hts, List.append_assoc,
        List.singleton_append]

/-- A run without separators of its own is kept in one piece within brackets; outside of them it may
begin another group, but nothing of it is lost. -/
theorem Nested.cutLastSquare_append {enclosed : Bool} {ts : List Token} (h : Nested enclosed ts)
    (scope : Scope) (hscope : enclosed = true → 0 < scope.depth) (before group rest : List Token) :
    ∃ before' group', before' ++ group' = before ++ group ++ ts ∧
      (0 < scope.depth → before' = before) ∧
      cutLastSquare scope before group (ts ++ rest) = cutLastSquare scope before' group' rest := by
  induction h generalizing scope before group rest with
  | nil enclosed => exact ⟨before, group, by simp, fun _ => rfl, rfl⟩
  | @append enclosed ts ts' _ _ ih ih' =>
      obtain ⟨before', group', heq, hkept, hcut⟩ := ih scope hscope before group (ts' ++ rest)
      obtain ⟨before'', group'', heq', hkept', hcut'⟩ := ih' scope hscope before' group' rest
      refine ⟨before'', group'', ?_, fun hdepth => (hkept' hdepth).trans (hkept hdepth), ?_⟩
      · rw [heq', heq, List.append_assoc]
      · rw [List.append_assoc, hcut, hcut']
  | @inert enclosed t h =>
      have hsquare : t ≠ .mark .openSquare := Token.ne_mark_of_isInert h rfl
      refine ⟨before, group ++ [t], by simp, fun _ => rfl, ?_⟩
      rw [List.singleton_append, cutLastSquare_step (Or.inr hsquare), Scope.next_inert h]
  | @separator m h =>
      have hdepth := hscope rfl
      refine ⟨before, group ++ [.mark m], by simp, fun _ => rfl, ?_⟩
      rw [List.singleton_append, cutLastSquare_step (Or.inl hdepth), Scope.next_separator h hdepth]
  | @brackets enclosed left right hleft hright ts h ih =>
      have hinner (before group : List Token) :
          cutLastSquare { scope with depth := scope.depth + 1 } before group
            (ts ++ .mark right :: rest) =
            cutLastSquare scope before (group ++ ts ++ [.mark right]) rest := by
        obtain ⟨before', group', heq, hkept, hcut⟩ :=
          ih { scope with depth := scope.depth + 1 } (fun _ => Nat.succ_pos _) before group
            (.mark right :: rest)
        obtain rfl := hkept (Nat.succ_pos _)
        obtain rfl : group' = group ++ ts := by
          rw [List.append_assoc] at heq
          exact List.append_cancel_left heq
        rw [hcut, cutLastSquare_step (Or.inl (Nat.succ_pos _)), Scope.next_close hright]
        rfl
      by_cases hbegins : scope.depth = 0 ∧ Token.mark left = .mark .openSquare
      · refine ⟨before ++ group, .mark left :: (ts ++ [.mark right]), rfl,
          fun hdepth => absurd hbegins.1 hdepth.ne', ?_⟩
        rw [List.cons_append, cutLastSquare, if_pos hbegins, Scope.next_open hleft,
          List.append_assoc, List.singleton_append, hinner]
        rfl
      · refine ⟨before, group ++ .mark left :: (ts ++ [.mark right]), by simp, fun _ => rfl, ?_⟩
        rw [List.cons_append, cutLastSquare, if_neg hbegins, Scope.next_open hleft,
          List.append_assoc, List.singleton_append, hinner]
        simp
  | binder params =>
      refine ⟨before, _, (List.append_assoc _ _ _).symm, fun _ => rfl, ?_⟩
      rw [List.cons_append, cutLastSquare_step (Or.inr (by simp)), List.append_assoc,
        List.singleton_append, cutLastSquare_params fun t ht => Scope.next_param _ ht,
        cutLastSquare_step (Or.inr (by simp)), Scope.next_lambdaWord_colon]
      simp

/-- After a run without separators of its own, enclosed square brackets are the last ones. -/
theorem cutLastSquare_eq {target content : List Token} (h : Nested false target)
    (hcontent : Nested true content) :
    cutLastSquare .outer [] [] (target ++ .mark .openSquare :: (content ++ [.mark .closeSquare])) =
      (target, .mark .openSquare :: (content ++ [.mark .closeSquare])) := by
  obtain ⟨before, group, heq, -, hcut⟩ := h.cutLastSquare_append .outer (by simp) [] []
    (.mark .openSquare :: (content ++ [.mark .closeSquare]))
  have hbegins : Scope.outer.depth = 0 ∧ Token.mark .openSquare = .mark .openSquare := ⟨rfl, rfl⟩
  have hopen : Scope.outer.next (.mark .openSquare) = ⟨1, 0⟩ := rfl
  obtain ⟨before', group', heq', hkept, hcut'⟩ := hcontent.cutLastSquare_append ⟨1, 0⟩
    (fun _ => Nat.one_pos) (before ++ group) [.mark .openSquare] [.mark .closeSquare]
  obtain rfl := hkept Nat.one_pos
  obtain rfl : group' = .mark .openSquare :: content := by
    rw [List.append_assoc _ _ content, List.singleton_append] at heq'
    exact List.append_cancel_left heq'
  rw [hcut, cutLastSquare, if_pos hbegins, hopen, hcut', cutLastSquare_step (Or.inl Nat.one_pos),
    cutLastSquare, heq]
  rfl

end LastSquare

/-! ### Expressions -/

theorem Mark.isInert_of_mem_marks {op : BinaryOp} {m : Mark} (h : m ∈ op.marks) :
    (Token.mark m).isInert = true := by
  have hall : ∀ op ∈ BinaryOp.all, ∀ m ∈ op.marks, (Token.mark m).isInert = true := by decide
  exact hall op op.mem_all m h

theorem Mark.isInert_of_mem_standaloneMarks {op : UnaryOp} {m : Mark} (h : m ∈ op.standaloneMarks) :
    (Token.mark m).isInert = true := by
  have hall : ∀ op ∈ UnaryOp.all, ∀ m ∈ op.standaloneMarks, (Token.mark m).isInert = true := by
    decide
  exact hall op op.mem_all m h

theorem Mark.isInert_of_prefixOp? {m : Mark} {op : UnaryOp} (h : m.prefixOp? = some op) :
    (Token.mark m).isInert = true := by
  cases m <;> first | rfl | cases h

namespace Nested

variable {enclosed : Bool} {ts : List Token}

theorem cons {t : Token} (ht : t.isInert = true) (h : Nested enclosed ts) :
    Nested enclosed (t :: ts) :=
  (inert ht).append h

theorem marks {marks : List Mark} (hmarks : ∀ m ∈ marks, (Token.mark m).isInert = true)
    (h : Nested enclosed ts) : Nested enclosed (marks.map .mark ++ ts) := by
  induction marks with
  | nil => exact h
  | cons m marks ih =>
      obtain ⟨hm, hmarks⟩ := List.forall_mem_cons.1 hmarks
      exact cons hm (ih hmarks)

/-- Runs with separators between them. -/
theorem intercalate {m : Mark} (hm : m ∈ separators) {runs : List (List Token)}
    (h : ∀ run ∈ runs, Nested true run) : Nested true (List.intercalate [.mark m] runs) := by
  induction runs with
  | nil => exact nil true
  | cons run runs ih =>
      obtain ⟨hrun, hruns⟩ := List.forall_mem_cons.1 h
      cases runs with
      | nil => rwa [List.intercalate_singleton]
      | cons next runs =>
          rw [List.intercalate_cons_cons]
          exact (hrun.append (separator hm)).append (ih hruns)

theorem commaTokens {runs : List (List Token)} (h : ∀ run ∈ runs, Nested true run) :
    Nested true (commaTokens runs) :=
  intercalate (by decide) h

theorem tupleTokens {runs : List (List Token)} (h : ∀ run ∈ runs, Nested true run) :
    Nested true (tupleTokens runs) := by
  match runs, h with
  | [], _ => exact nil true
  | [only], h => exact (h only List.mem_cons_self).append (separator (by decide))
  | first :: second :: rest, h => exact commaTokens h

/-- Runs of phrases, between brackets. -/
theorem phrases {parts : List Phrase} (h : ∀ p ∈ parts, ∀ enclosed, Nested enclosed p.tokens) :
    ∀ run ∈ parts.map Phrase.tokens, Nested true run := by
  intro run hrun
  obtain ⟨p, hp, rfl⟩ := List.mem_map.1 hrun
  exact h p hp true

end Nested

/-- The tokens of an expression have no separator of their own, wherever they stand. The induction is
on the derivation, and every rule but that of a lambda has its separators between brackets. -/
theorem Reads.nested {l : Level} {ts : List Token} {e : Expr} (h : Reads l ts e)
    (enclosed : Bool) : Nested enclosed ts := by
  induction h generalizing enclosed with
  | identifier _ | natural _ | negative _ => exact .inert rfl
  | group _ ih => exact .brackets (by decide) (by decide) (ih true)
  | list parts _ ih =>
      exact .brackets (by decide) (by decide) (.commaTokens (.phrases ih))
  | tuple parts _ ih =>
      exact .brackets (by decide) (by decide) (.tupleTokens (.phrases ih))
  | call args named _ _ _ _ ih ihargs ihnamed =>
      refine (ih enclosed).append (.brackets (by decide) (by decide) (.commaTokens ?_))
      intro run hrun
      rcases List.mem_append.1 hrun with hrun | hrun
      · exact Nested.phrases ihargs run hrun
      · obtain ⟨p, hp, rfl⟩ := List.mem_map.1 hrun
        exact .cons rfl (.cons rfl (ihnamed p hp true))
  | access name _ _ ih => exact (ih enclosed).append (.cons rfl (.inert rfl))
  | subscript items _ _ _ ih ihitems =>
      exact (ih enclosed).append
        (.brackets (by decide) (by decide) (.commaTokens (.phrases ihitems)))
  | prefixed hop _ _ ih => exact .cons (Mark.isInert_of_prefixOp? hop) (ih enclosed)
  | standalone _ _ _ ih =>
      exact .marks (fun m hm => Mark.isInert_of_mem_standaloneMarks hm) (ih enclosed)
  | infixed _ _ _ _ ih ih' =>
      exact (ih enclosed).append (.marks (fun m hm => Mark.isInert_of_mem_marks hm) (ih' enclosed))
  | conditional _ _ _ _ _ _ ih ih' ih'' =>
      exact (ih enclosed).append
        (.cons rfl ((ih' enclosed).append (.cons rfl (ih'' enclosed))))
  | lambda params _ _ ih =>
      have hjoined := (Nested.binder params).append (ih enclosed)
      simpa using hjoined
  | named target _ _ ih => exact .cons rfl (.cons rfl (ih enclosed))

end Unparse
