import Unparse.BuildError
import Unparse.Reserved
import Unparse.Text.WordChar

/-!
Identifiers: words that may name a variable. Most are made of plain characters alone, and those are
told without a look at the tables for all scripts.
-/

namespace Unparse

/-- A plain character has a code point below 128. -/
def isPlain (c : Char) : Bool :=
  c.toNat < 128

/-- Characters that form a word: the first begins one, the others go on with it. -/
def formsWord (start continues : Char → Bool) : List Char → Bool
  | [] => false
  | c :: rest => start c && rest.all continues

namespace Identifier

/-- The shape of an identifier. Text of plain characters alone is held against the plain pattern and
any other text against the pattern for all scripts. -/
def hasShape (cs : List Char) : Bool :=
  if cs.all isPlain then formsWord isPlainWordStart isPlainWordContinue cs
  else formsWord isWordStart isWordContinue cs

/-- An identifier is a word that is not reserved. -/
def Valid (text : String) : Prop :=
  hasShape text.toList = true ∧ isReserved text = false

instance (text : String) : Decidable (Valid text) :=
  inferInstanceAs (Decidable (_ ∧ _))

end Identifier

/-- An identifier: a text together with the fact that it is one. -/
structure Identifier where
  text : String
  valid : Identifier.Valid text
  deriving DecidableEq

namespace Identifier

/-- The identifier with the given text; the refusal carries that text. -/
def ofText (text : String) : Except BuildError Identifier :=
  if valid : Valid text then .ok ⟨text, valid⟩ else .error (.invalidIdentifier text)

/-- Identifiers in the order of their texts, code point by code point. -/
def sort (names : List Identifier) : List Identifier :=
  names.mergeSort fun a b => decide (a.text ≤ b.text)

theorem ext_text {a b : Identifier} (h : a.text = b.text) : a = b := by
  cases a; cases b; simp_all

theorem ofText_eq_ok_iff {text : String} {name : Identifier} :
    ofText text = .ok name ↔ name.text = text := by
  constructor
  · intro h
    unfold ofText at h
    split at h
    · cases h; rfl
    · cases h
  · rintro rfl
    simp [ofText, name.valid]

theorem ofText_eq_error_iff {text : String} {e : BuildError} :
    ofText text = .error e ↔ ¬ Valid text ∧ e = .invalidIdentifier text := by
  unfold ofText
  split <;> simp_all [eq_comm]

end Identifier

end Unparse
