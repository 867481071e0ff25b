import Unparse.Proofs.Charset

/-!
Which texts are identifiers. Text of plain characters alone is held against a pattern of its own, and
the pattern for all scripts would decide the same, so one rule holds for every text. What the rule keeps
out of identifiers (quotes, brackets, signs, blanks and control characters) is what a reader of source
tells them apart by.
-/

namespace Unparse

/-! ### Plain characters -/

theorem forall_isPlain {P : Char → Prop} (h : ∀ code < 128, P (Char.ofNat code)) {c : Char}
    (hc : isPlain c = true) : P c := by
  have hcode := h c.toNat (of_decide_eq_true hc)
  rwa [Char.ofNat_toNat] at hcode

/-- Of a table in ascending order, only the ranges that begin below the other characters matter for a
plain one. -/
theorem CodeRanges.holds_of_isPlain {ranges : CodeRanges} (count : Nat)
    (hbeyond : ((ranges.drop count).all fun range => decide (128 ≤ range.1)) = true) {c : Char}
    (hc : isPlain c = true) : ranges.holds c = CodeRanges.holds (ranges.take count) c := by
  have hplain : c.toNat < 128 := of_decide_eq_true hc
  have hnone : CodeRanges.holds (ranges.drop count) c = false := by
    rw [← Bool.not_eq_true, CodeRanges.holds_iff]
    rintro ⟨range, hrange, hlow, -⟩
    have hbound := of_decide_eq_true (List.all_eq_true.1 hbeyond range hrange)
    omega
  rw [holds] at hnone
  conv_lhs => rw [holds, ← ranges.take_append_drop count, List.any_append, hnone, Bool.or_false]
  rfl

/-- Among the plain characters the table of beginnings has the letters, and no others. -/
theorem isWordStart_of_isPlain {c : Char} (hc : isPlain c = true) :
    isWordStart c = isPlainWordStart c := by
  rw [isWordStart, CodeRanges.holds_of_isPlain 2 (by decide +kernel) hc]
  exact forall_isPlain (P := fun c => (c == '_' || CodeRanges.holds (xidStart.take 2) c) =
    isPlainWordStart c) (by decide +kernel) hc

/-- Among the plain characters a word goes on with letters, digits and the underscore in all scripts. -/
theorem isWordContinue_of_isPlain {c : Char} (hc : isPlain c = true) :
    isWordContinue c = isPlainWordContinue c := by
  rw [isWordContinue, CodeRanges.holds_of_isPlain 4 (by decide +kernel) hc]
  exact forall_isPlain (P := fun c => CodeRanges.holds (xidContinue.take 4) c =
    isPlainWordContinue c) (by decide +kernel) hc

/-! ### One rule -/

theorem formsWord_eq_true_iff {start continues : Char → Bool} {cs : List Char} :
    formsWord start continues cs = true ↔
      ∃ first rest, cs = first :: rest ∧ start first = true ∧ ∀ c ∈ rest, continues c = true := by
  cases cs with
  | nil => simp [formsWord]
  | cons first rest => simp [formsWord]

/-- On plain text the plain pattern and the one for all scripts agree. -/
theorem formsWord_of_isPlain {cs : List Char} (h : cs.all isPlain = true) :
    formsWord isPlainWordStart isPlainWordContinue cs = formsWord isWordStart isWordContinue cs := by
  cases cs with
  | nil => rfl
  | cons first rest =>
      rw [List.all_cons, Bool.and_eq_true, List.all_eq_true] at h
      have hrest : rest.all isPlainWordContinue = rest.all isWordContinue := by
        rw [Bool.eq_iff_iff, List.all_eq_true, List.all_eq_true]
        refine forall_congr' fun c => forall_congr' fun hc => ?_
        rw [isWordContinue_of_isPlain (h.2 c hc)]
      rw [formsWord, formsWord, isWordStart_of_isPlain h.1, hrest]

namespace Identifier

theorem hasShape_eq_formsWord (cs : List Char) :
    hasShape cs = formsWord isWordStart isWordContinue cs := by
  unfold hasShape
  split
  · next hplain => exact formsWord_of_isPlain hplain
  · rfl

/-- The rule for all texts: a word by the tables for all scripts, and none of the reserved ones. -/
theorem valid_iff (text : String) :
    Valid text ↔ (∃ first rest, text.toList = first :: rest ∧
        (first = '_' ∨ xidStart.holds first = true) ∧ ∀ c ∈ rest, xidContinue.holds c = true) ∧
      text ∉ reservedWords := by
  have hreserved : isReserved text = false ↔ text ∉ reservedWords := by
    rw [isReserved, ← Bool.not_eq_true, List.contains_iff_mem]
  rw [Valid, hasShape_eq_formsWord, formsWord_eq_true_iff, hreserved]
  simp only [isWordStart, isWordContinue, Bool.or_eq_true, beq_iff_eq]

theorem exists_ofText_iff (text : String) : (∃ name, ofText text = .ok name) ↔ Valid text := by
  constructor
  · rintro ⟨name, hname⟩
    rw [← ofText_eq_ok_iff.1 hname]
    exact name.valid
  · exact fun h => ⟨⟨text, h⟩, ofText_eq_ok_iff.2 rfl⟩

end Identifier

/-! ### What identifiers are free of -/

/-- The quotes, and the sign that escapes in quotes. -/
def quoteChars : List Char :=
  ['\x27', '\x22', '\x60', '\\']

def bracketChars : List Char :=
  ['(', ')', '[', ']', '\x7b', '\x7d']

/-- The characters of operators, other than the letters of those that are words. -/
def operatorChars : List Char :=
  ((BinaryOp.all.map BinaryOp.text ++ UnaryOp.all.map UnaryOp.text).flatMap String.toList).filter
    (!isPlainWordContinue ·)

/-- The signs between and around expressions. -/
def punctuationChars : List Char :=
  ['.', ',', ':', ';', '=', '#', '!', '$', '?', ' ', '\t', '\n', '\r']

/-- All characters that are told from those of words by what they are for. -/
def signChars : List Char :=
  quoteChars ++ bracketChars ++ operatorChars ++ punctuationChars

theorem isBlank_of_isWordChar {c : Char} (h : isWordChar c = true) : isBlank c = false :=
  CodeRanges.holds_of_isWordChar (by decide +kernel) (by decide) h

theorem not_mem_signChars {c : Char} (h : isPlain c = true → isPlainWordContinue c = true) :
    c ∉ signChars := by
  have hsigns : signChars.all fun sign => isPlain sign && !isPlainWordContinue sign := by
    decide +kernel
  intro hmem
  have hsign := List.all_eq_true.1 hsigns c hmem
  rw [Bool.and_eq_true, Bool.not_eq_true'] at hsign
  rw [h hsign.1] at hsign
  cases hsign.2

namespace Identifier

/-- Of the plain characters an identifier has only letters, digits and underscores. -/
theorem isPlainWordContinue_of_mem (name : Identifier) {c : Char} (hc : c ∈ name.text.toList)
    (hplain : isPlain c = true) : isPlainWordContinue c = true := by
  have hword := name.isWordChar_of_mem.2 c hc
  rw [isWordChar, isWordStart_of_isPlain hplain, isWordContinue_of_isPlain hplain,
    Bool.or_eq_true] at hword
  exact hword.elim isPlainWordContinue_of_start id

theorem isDigit_of_mem_head? (name : Identifier) {c : Char} (hc : c ∈ name.text.toList.head?) :
    c.isDigit = false := by
  have hshape := name.valid.1
  rw [hasShape_eq_formsWord, formsWord_eq_true_iff] at hshape
  obtain ⟨first, rest, htext, hstart, -⟩ := hshape
  obtain rfl : first = c := by simpa [htext] using hc
  by_contra hdigit
  rw [Bool.not_eq_false] at hdigit
  rw [isWordStart_of_isPlain (isPlain_of_isDigit hdigit),
    not_isPlainWordStart_of_isDigit hdigit] at hstart
  cases hstart

/-- A text is an identifier by one rule, whether it is plain or not, and on plain text the pattern that
is used there says the same as the general one. The identifier is the text as it was given, and so is
what a refusal carries. No identifier has a quote, a bracket, a sign, a blank or a control character in
it or begins with a digit. -/
theorem ofText_by_one_rule (text : String) :
    ((∃ name, ofText text = .ok name) ↔
      (∃ first rest, text.toList = first :: rest ∧
        (first = '_' ∨ xidStart.holds first = true) ∧ ∀ c ∈ rest, xidContinue.holds c = true) ∧
      text ∉ reservedWords) ∧
    (text.toList.all isPlain = true →
      formsWord isPlainWordStart isPlainWordContinue text.toList =
        formsWord isWordStart isWordContinue text.toList) ∧
    (∀ name, ofText text = .ok name → name.text = text ∧
      (∀ c ∈ text.toList, (isPlain c = true → c.isAlphanum = true ∨ c = '_') ∧ c ∉ signChars ∧
        isBlank c = false ∧ isControl c = false) ∧
      ∀ c ∈ text.toList.head?, c.isDigit = false) ∧
    ∀ refusal, ofText text = .error refusal → refusal = .invalidIdentifier text := by
  refine ⟨(exists_ofText_iff text).trans (valid_iff text), formsWord_of_isPlain, ?_,
    fun refusal hrefusal => (ofText_eq_error_iff.1 hrefusal).2⟩
  intro name hname
  obtain rfl := ofText_eq_ok_iff.1 hname
  refine ⟨rfl, fun c hc => ?_, fun c hc => name.isDigit_of_mem_head? hc⟩
  have hword := name.isWordChar_of_mem.2 c hc
  have hplain : isPlain c = true → isPlainWordContinue c = true := name.isPlainWordContinue_of_mem hc
  refine ⟨fun h => ?_, not_mem_signChars hplain, isBlank_of_isWordChar hword,
    isControl_of_isWordChar hword⟩
  simpa [isPlainWordContinue] using hplain h

end Identifier

/-- A combining mark goes on with a word, a digit of another script begins none, and a word that is
reserved in some places only is an identifier. -/
example : Identifier.Valid "\u00dcni\u0301" ∧ ¬ Identifier.Valid "\u0663x" ∧
    Identifier.Valid "match" ∧ ¬ Identifier.Valid "None" := by
  decide +kernel

end Unparse
