import Mathlib.Data.List.TakeWhile
import Unparse.Proofs.FormatFields
import Unparse.Proofs.Layout

/-!
What the text of an expression begins with. It is never the word `as`, so where an expression may
stand behind a word of the grammar, what stands there is told from a name that is given to it. It is
nothing or a gap only where an empty expression stands first.
-/

namespace Unparse

/-! ### Words -/

/-- The word that a text begins with, if it begins with one. -/
def leadingWord (text : String) : List Char :=
  text.toList.takeWhile isWordChar

theorem takeWhile_append_of_not {cs ds : List Char} (h : ∀ c ∈ ds.head?, isWordChar c = false) :
    (cs ++ ds).takeWhile isWordChar = cs.takeWhile isWordChar := by
  induction cs with
  | nil =>
      cases ds with
      | nil => rfl
      | cons d ds => exact List.takeWhile_cons_of_neg (by simp [h d rfl])
  | cons c cs ih => rw [List.cons_append, List.takeWhile_cons, List.takeWhile_cons, ih]

/-- A word ends where something follows that is no part of words. -/
theorem leadingWord_append {text more : String} (h : ∀ c ∈ more.toList.head?, isWordChar c = false) :
    leadingWord (text ++ more) = leadingWord text := by
  rw [leadingWord, String.toList_append, takeWhile_append_of_not h, leadingWord]

theorem leadingWord_name (name : Identifier) : leadingWord name.text = name.text.toList :=
  List.takeWhile_eq_self_iff.2 name.isWordChar_of_mem.2

/-- The word `as`, which no text of an expression begins with. -/
def asWord : List Char :=
  ['a', 's']

theorem leadingWord_ne_of_head {text : String} (h : text.toList.head? ≠ some 'a') :
    leadingWord text ≠ asWord := by
  intro hword
  unfold leadingWord at hword
  cases htext : text.toList with
  | nil => simp [htext, asWord] at hword
  | cons c cs =>
      rw [htext, List.takeWhile_cons] at hword
      split at hword
      · rw [asWord, List.cons.injEq] at hword
        exact h (by rw [htext, hword.1]; rfl)
      · cases hword

/-- A text that begins with another character than the `a` of the word. -/
theorem leadingWord_ne_of_plain (text : String) {c : Char} {cs : List Char} (h : text.toList = c :: cs)
    (hc : c ≠ 'a') (more : String) : leadingWord (text ++ more) ≠ asWord :=
  leadingWord_ne_of_head (by simp [h, hc])

/-- A text that goes on with a sign begins with the same word. -/
theorem leadingWord_ne_append {text : String} (h : leadingWord text ≠ asWord) (sign : String)
    {c : Char} {cs : List Char} (hsign : sign.toList = c :: cs) (hc : isWordChar c = false)
    (more : String) : leadingWord (text ++ (sign ++ more)) ≠ asWord := by
  rwa [leadingWord_append]
  simp [hsign, hc]

theorem Identifier.leadingWord_ne (name : Identifier) : leadingWord name.text ≠ asWord := by
  intro hword
  rw [leadingWord_name] at hword
  have htext : name.text = "as" := String.toList_injective hword
  have hreserved := name.valid.2
  rw [htext] at hreserved
  exact absurd hreserved (by decide)

theorem ModulePath.text_of_name (name : Identifier) (names : List Identifier) :
    ModulePath.text ⟨0, name :: names⟩ =
      name.text ++ String.join ((names.map Identifier.text).map ("." ++ ·)) := by
  rw [ModulePath.text, List.map_cons, intercalate_cons_eq_join]
  simp

theorem ModulePath.leadingWord_ne (path : ModulePath) : leadingWord path.text ≠ asWord := by
  obtain ⟨dots, names⟩ := path
  cases dots with
  | succ dots => exact leadingWord_ne_of_head (by simp [ModulePath.text, List.replicate_succ])
  | zero =>
      cases names with
      | nil => decide
      | cons name names =>
          rw [text_of_name, leadingWord_append]
          · exact name.leadingWord_ne
          · cases names with
            | nil => simp
            | cons next names => simp [isWordChar_sign '.' (by decide)]

/-! ### Constants -/

theorem exists_head_of_isDigit {cs : List Char} (h : ∃ c ds, cs = c :: ds ∧ c.isDigit = true) :
    ∃ c ds, cs = c :: ds ∧ c ≠ ' ' ∧ c ≠ 'a' := by
  obtain ⟨c, ds, hcs, hdigit⟩ := h
  refine ⟨c, ds, hcs, ?_, ?_⟩
  · rintro rfl
    cases hdigit
  · rintro rfl
    cases hdigit

theorem exists_head_decimalDigits (n : Nat) :
    ∃ c cs, decimalDigits n = c :: cs ∧ c.isDigit = true := by
  obtain ⟨c, cs, hcs⟩ := List.exists_cons_of_ne_nil (decimalDigits_ne_nil n)
  exact ⟨c, cs, hcs, isDigit_of_mem_decimalDigits (hcs ▸ List.mem_cons_self)⟩

/-- A decimal begins with a digit. -/
theorem Decimal.exists_head_text (style : DecimalStyle) (d : Decimal) :
    ∃ c cs, d.text style = c :: cs ∧ c.isDigit = true := by
  obtain ⟨c, cs, hcs, hdigit⟩ := exists_head_decimalDigits d.digits
  unfold Decimal.text Decimal.positionalText Decimal.scientificText
  split_ifs
  · simp [hcs, hdigit]
  · simp [hcs, hdigit]
  · simp
  · simp [hcs, hdigit]

theorem exists_head_magnitudeText (significand : Nat) (exponent : Int) :
    ∃ c cs, magnitudeText significand exponent = c :: cs ∧ c.isDigit = true := by
  unfold magnitudeText
  split
  · exact ⟨'0', _, rfl, rfl⟩
  · exact Decimal.exists_head_text doubleStyle _

/-- A constant begins with a digit, a sign, a quote, a point, a capital letter or the `f` of a call. -/
theorem Literal.exists_head_text (value : Literal) :
    ∃ c cs, value.text.toList = c :: cs ∧ c ≠ ' ' ∧ c ≠ 'a' := by
  cases value with
  | int value =>
      rw [Literal.text]
      rcases integerText_cases value with ⟨-, htext⟩ | ⟨-, htext⟩
      · rw [htext]
        exact exists_head_of_isDigit (exists_head_decimalDigits _)
      · exact ⟨'-', _, htext, by decide, by decide⟩
  | double value =>
      rw [Literal.text]
      unfold doubleText
      split
      · exact ⟨'f', _, rfl, by decide, by decide⟩
      · exact ⟨'f', _, rfl, by decide, by decide⟩
      · exact ⟨'f', _, rfl, by decide, by decide⟩
      · rw [String.toList_ofList]
        exact exists_head_of_isDigit (exists_head_magnitudeText _ _)
      · exact ⟨'-', _, String.toList_ofList, by decide, by decide⟩
  | str value =>
      refine ⟨quoteMark value.toList, _, String.toList_ofList, ?_⟩
      unfold quoteMark
      split <;> decide
  | bool value => cases value <;> exact ⟨_, _, rfl, by decide, by decide⟩
  | nothing => exact ⟨'N', _, rfl, by decide, by decide⟩
  | ellipsis => exact ⟨'.', _, rfl, by decide, by decide⟩
  | wildcard => exact ⟨'_', _, rfl, by decide, by decide⟩

theorem Literal.leadingWord_ne (value : Literal) : leadingWord value.text ≠ asWord := by
  obtain ⟨c, cs, htext, -, hc⟩ := value.exists_head_text
  exact leadingWord_ne_of_head (by simpa [htext] using hc)

/-! ### Expressions -/

theorem UnaryOp.leadingWord_ne (op : UnaryOp) : leadingWord op.text ≠ asWord := by
  cases op <;> decide +kernel

theorem DisplayForm.leadingWord_ne (form : DisplayForm) (texts : List String) :
    leadingWord (form.text texts) ≠ asWord := by
  refine leadingWord_ne_of_head ?_
  match form, texts with
  | .list, _ | .set, _ :: _ | .dict, _ | .tuple, _ => simp [DisplayForm.text]
  | .set, [] => simp [DisplayForm.text]

theorem ComprehensionForm.leadingWord_ne (form : ComprehensionForm) (content : String) :
    leadingWord (form.text content) ≠ asWord := by
  refine leadingWord_ne_of_head ?_
  cases form <;> simp [ComprehensionForm.text]

theorem leadingWord_lambdaHead (params : List Identifier) (more : String) :
    leadingWord (lambdaHead params ++ more) ≠ asWord := by
  refine leadingWord_ne_of_head ?_
  cases params <;> simp [lambdaHead]

/-- No text of an expression begins with the word `as`: what an expression begins with is a name, a
number, another word of the grammar, or no word at all. -/
theorem Expr.leadingWord_ne : ∀ e : Expr, leadingWord e.text ≠ asWord
  | .identifier name => name.leadingWord_ne
  | .literal value => value.leadingWord_ne
  | .unary op operand => by
      rw [Expr.text, String.append_assoc]
      exact leadingWord_ne_append op.leadingWord_ne " " rfl (isWordChar_sign ' ' (by decide)) _
  | .binary op left right => by
      simp only [Expr.text, String.append_assoc]
      exact leadingWord_ne_append left.leadingWord_ne " " rfl (isWordChar_sign ' ' (by decide)) _
  | .call target args keywords => by
      simp only [Expr.text, String.append_assoc]
      exact leadingWord_ne_append target.leadingWord_ne "(" rfl (isWordChar_sign '(' (by decide)) _
  | .attribute target name => by
      simp only [Expr.text, String.append_assoc]
      exact leadingWord_ne_append target.leadingWord_ne "." rfl (isWordChar_sign '.' (by decide)) _
  | .subscript target items => by
      simp only [Expr.text, String.append_assoc]
      exact leadingWord_ne_append target.leadingWord_ne "[" rfl (isWordChar_sign '[' (by decide)) _
  | .display form elements => form.leadingWord_ne _
  | .comprehension form element clauses => form.leadingWord_ne _
  | .pair key value => by
      simp only [Expr.text, String.append_assoc]
      exact leadingWord_ne_append key.leadingWord_ne ": " rfl (isWordChar_sign ':' (by decide)) _
  | .lambda params body => by
      simp only [Expr.text, String.append_assoc]
      exact leadingWord_lambdaHead params _
  | .conditional body test orElse => by
      simp only [Expr.text, String.append_assoc]
      exact leadingWord_ne_append body.leadingWord_ne " if " rfl (isWordChar_sign ' ' (by decide)) _
  | .named target value => by
      simp only [Expr.text, String.append_assoc]
      exact leadingWord_ne_append target.leadingWord_ne " := " rfl (isWordChar_sign ' ' (by decide)) _
  | .formatString parts => by
      simp only [Expr.text, String.append_assoc]
      exact leadingWord_ne_of_plain "f\x22" rfl (by decide) _
  | .wrapped inner => by
      simp only [Expr.text, String.append_assoc]
      exact leadingWord_ne_of_plain "(" rfl (by decide) _
  | .alias target name => by
      simp only [Expr.text, String.append_assoc]
      exact leadingWord_ne_append target.leadingWord_ne " as " rfl (isWordChar_sign ' ' (by decide)) _
  | .pathAlias path name => by
      simp only [Expr.text, String.append_assoc]
      exact leadingWord_ne_append path.leadingWord_ne " as " rfl (isWordChar_sign ' ' (by decide)) _
  | .empty => by decide

/-! ### Gaps -/

/-- What follows a text that is there has no part in how it begins. -/
theorem begins_append_iff {text : String} (h : text ≠ "") (more : String) :
    Begins (text ++ more) ↔ Begins text := by
  obtain ⟨c, cs, hcs⟩ := List.exists_cons_of_ne_nil (mt String.toList_eq_nil_iff.1 h)
  simp [Begins, String.toList_append, hcs]

/-- Nor has a gap, which is no beginning. -/
theorem begins_append_gap_iff {text gap : String} {cs : List Char} (hgap : gap.toList = ' ' :: cs)
    (more : String) : Begins (text ++ (gap ++ more)) ↔ Begins text := by
  by_cases h : text = ""
  · simp [Begins, h, hgap]
  · exact begins_append_iff h _

theorem ModulePath.begins_text_iff (path : ModulePath) :
    Begins path.text ↔ (path.dots == 0 && path.names.isEmpty) = false := by
  obtain ⟨dots, names⟩ := path
  cases dots with
  | succ dots => exact iff_of_true (by simp [Begins, text, List.replicate_succ]) rfl
  | zero =>
      cases names with
      | nil => exact iff_of_false (by simp [Begins, text]) (by decide)
      | cons name names =>
          rw [text_of_name]
          exact iff_of_true ((Readable.identifier name).begins.append _) rfl

namespace Expr

/-- The expression that nothing is written for. -/
def isEmpty : Expr → Bool
  | .empty => true
  | _ => false

theorem text_ne_empty {e : Expr} (h : e.isEmpty = false) : e.text ≠ "" := by
  match e with
  | .identifier name => exact mt String.toList_eq_nil_iff.2 name.isWordChar_of_mem.1
  | .literal value =>
      obtain ⟨c, cs, htext, -⟩ := value.exists_head_text
      exact mt String.toList_eq_nil_iff.2 (by simp [Expr.text, htext])
  | .display form elements =>
      obtain ⟨c, cs, htext, -⟩ := Begins.display form (exprTexts elements)
      exact mt String.toList_eq_nil_iff.2 (by simp [Expr.text, htext])
  | .comprehension form element clauses => cases form <;> simp [Expr.text, ComprehensionForm.text]
  | .unary _ _ | .binary _ _ _ | .call _ _ _ | .attribute _ _ | .subscript _ _ | .pair _ _
  | .lambda _ _ | .conditional _ _ _ | .named _ _ | .formatString _ | .wrapped _ | .alias _ _
  | .pathAlias _ _ => simp [Expr.text]
  | .empty => cases h

/-- The text of an expression begins with nothing, or with the gap behind it: an empty expression
stands first, and no bracket, point or colon comes right behind that. -/
def opensEmpty : Expr → Bool
  | .empty => true
  | .binary _ left _ => left.opensEmpty
  | .conditional body _ _ => body.opensEmpty
  | .alias target _ => target.opensEmpty
  | .pathAlias path _ => path.dots == 0 && path.names.isEmpty
  | .call target _ _ | .attribute target _ | .subscript target _ | .pair target _ =>
    !target.isEmpty && target.opensEmpty
  | _ => false

theorem begins_access_iff {target : Expr} (ih : Begins target.text ↔ target.opensEmpty = false)
    {sign : String} {c : Char} {cs : List Char} (hsign : sign.toList = c :: cs) (hc : c ≠ ' ')
    (more : String) :
    Begins (target.text ++ (sign ++ more)) ↔ (!target.isEmpty && target.opensEmpty) = false := by
  cases hempty : target.isEmpty with
  | false => simpa [hempty] using (begins_append_iff (text_ne_empty hempty) _).trans ih
  | true =>
      have htext : target.text = "" := by
        match target with
        | .empty => rfl
      rw [htext, String.empty_append]
      exact iff_of_true (begins_of_plain sign hsign hc more) rfl

/-- The text of an expression begins, and not with a gap, unless the expression opens with an empty
one. -/
theorem begins_text_iff : ∀ e : Expr, Begins e.text ↔ e.opensEmpty = false
  | .identifier name => iff_of_true (Readable.identifier name).begins rfl
  | .literal value => by
      obtain ⟨c, cs, htext, hc, -⟩ := value.exists_head_text
      exact iff_of_true ⟨c, cs, htext, hc⟩ rfl
  | .unary op operand => by
      have hop : Begins op.text := by cases op <;> exact ⟨_, _, rfl, by decide⟩
      exact iff_of_true ((hop.append _).append _) rfl
  | .binary op left right => by
      simp only [Expr.text, String.append_assoc]
      exact (begins_append_gap_iff rfl _).trans left.begins_text_iff
  | .call target args keywords => by
      simp only [Expr.text, String.append_assoc]
      exact begins_access_iff target.begins_text_iff rfl (by decide) _
  | .attribute target name => by
      simp only [Expr.text, String.append_assoc]
      exact begins_access_iff target.begins_text_iff rfl (by decide) _
  | .subscript target items => by
      simp only [Expr.text, String.append_assoc]
      exact begins_access_iff target.begins_text_iff rfl (by decide) _
  | .display form elements => iff_of_true (Begins.display form _) rfl
  | .comprehension form element clauses => by
      refine iff_of_true ?_ rfl
      cases form <;> exact (begins_of_plain _ rfl (by decide) _).append _
  | .pair key value => by
      simp only [Expr.text, String.append_assoc]
      exact begins_access_iff key.begins_text_iff rfl (by decide) _
  | .lambda params body => by
      refine iff_of_true ((Begins.append ?_ _).append _) rfl
      cases params with
      | nil => exact ⟨_, _, rfl, by decide⟩
      | cons param params => exact begins_of_plain "lambda " rfl (by decide) _
  | .conditional body test orElse => by
      simp only [Expr.text, String.append_assoc]
      exact (begins_append_gap_iff rfl _).trans body.begins_text_iff
  | .named target value =>
      iff_of_true (((Readable.identifier target).begins.append _).append _) rfl
  | .formatString parts => iff_of_true ((begins_of_plain "f\x22" rfl (by decide) _).append _) rfl
  | .wrapped inner => iff_of_true ((begins_of_plain "(" rfl (by decide) _).append _) rfl
  | .alias target name => by
      simp only [Expr.text, String.append_assoc]
      exact (begins_append_gap_iff rfl _).trans target.begins_text_iff
  | .pathAlias path name => by
      simp only [Expr.text, String.append_assoc]
      exact (begins_append_gap_iff rfl _).trans path.begins_text_iff
  | .empty => by simp [Begins, Expr.text, opensEmpty]

end Expr

end Unparse
