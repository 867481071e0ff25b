import Mathlib.Algebra.Group.Nat.Defs
import Unparse.Literal
import Unparse.Proofs.FormatReader

/-!
A reader of quoted strings. It goes through the characters once, and after a backslash it waits for a
letter and perhaps for hexadecimal digits, as many as the letter says. A quoted text is read as the
text itself, and no further than its last quote, whatever stands after it.
-/

namespace Unparse

/-! ### The reader -/

def stringMarks : List Char :=
  ['\x27', '\x22']

def hexDigit? (c : Char) : Option Nat :=
  if '0' ≤ c ∧ c ≤ '9' then some (c.toNat - '0'.toNat)
  else if 'a' ≤ c ∧ c ≤ 'f' then some (c.toNat - 'a'.toNat + 10)
  else if 'A' ≤ c ∧ c ≤ 'F' then some (c.toNat - 'A'.toNat + 10)
  else none

/-- How many digits there are after the first one, where a letter announces a code point. -/
def moreDigits? (c : Char) : Option Nat :=
  if c = 'x' then some 1
  else if c = 'u' then some 3
  else if c = 'U' then some 7
  else none

/-- The character with a code point; surrogates are none, and neither is what lies beyond all
characters. -/
def charOfCode? (code : Nat) : Option Char :=
  if code.isValidChar then some (Char.ofNat code) else none

/-- Where the reader of a string stands: before a character of the text, after a backslash, or before
a digit of a code point, when so many are still to come after it and those before it have a value. -/
inductive QuoteState where
  | plain
  | escape
  | digit (more value : Nat)

/-- What has been read, behind a character. -/
def behindChar (c : Char) (result : Option (List Char × List Char)) :
    Option (List Char × List Char) :=
  result.map fun read => (c :: read.1, read.2)

/-- The text up to the mark that ends it, and what follows the mark. A line does not end inside of a
string. -/
def readQuoted (mark : Char) : QuoteState → List Char → Option (List Char × List Char)
  | _, [] => none
  | .plain, c :: cs =>
    if c = mark then some ([], cs)
    else if c = '\\' then readQuoted mark .escape cs
    else if c = '\n' ∨ c = '\r' then none
    else behindChar c (readQuoted mark .plain cs)
  | .escape, c :: cs =>
    match moreDigits? c with
    | some more => readQuoted mark (.digit more 0) cs
    | none => (unescaped? c).bind fun d => behindChar d (readQuoted mark .plain cs)
  | .digit more value, c :: cs =>
    (hexDigit? c).bind fun digit =>
      match more with
      | more + 1 => readQuoted mark (.digit more (value * 16 + digit)) cs
      | 0 =>
        (charOfCode? (value * 16 + digit)).bind fun d => behindChar d (readQuoted mark .plain cs)

theorem readQuoted_plain (mark c : Char) (cs : List Char) :
    readQuoted mark .plain (c :: cs) =
      if c = mark then some ([], cs)
      else if c = '\\' then readQuoted mark .escape cs
      else if c = '\n' ∨ c = '\r' then none
      else behindChar c (readQuoted mark .plain cs) :=
  rfl

theorem readQuoted_escape (mark c : Char) (cs : List Char) :
    readQuoted mark .escape (c :: cs) =
      match moreDigits? c with
      | some more => readQuoted mark (.digit more 0) cs
      | none => (unescaped? c).bind fun d => behindChar d (readQuoted mark .plain cs) :=
  rfl

theorem readQuoted_digit (mark c : Char) (more value : Nat) (cs : List Char) :
    readQuoted mark (.digit more value) (c :: cs) =
      (hexDigit? c).bind fun digit =>
        match more with
        | more + 1 => readQuoted mark (.digit more (value * 16 + digit)) cs
        | 0 =>
          (charOfCode? (value * 16 + digit)).bind fun d => behindChar d (readQuoted mark .plain cs) :=
  rfl

/-- The string that a line begins with, and the rest of the line. Three marks in a row begin a string
of another kind. -/
def readString (line : String) : Option (String × String) :=
  match line.toList with
  | [] => none
  | mark :: cs =>
    if mark ∈ stringMarks ∧ cs.take 2 ≠ [mark, mark] then
      (readQuoted mark .plain cs).map fun read => (String.ofList read.1, String.ofList read.2)
    else none

/-! ### Code points -/

theorem hexDigit?_digitChar {d : Nat} (h : d < 16) : hexDigit? (Nat.digitChar d) = some d := by
  have hall : ∀ d < 16, hexDigit? (Nat.digitChar d) = some d := by decide
  exact hall d h

theorem charOfCode?_toNat (c : Char) : charOfCode? c.toNat = some c := by
  have hvalid : c.toNat.isValidChar := c.valid
  rw [charOfCode?, if_pos hvalid, Char.ofNat_toNat]

/-- Digits with others after them are added to the value that has been read. -/
theorem readQuoted_fixedHex (mark : Char) (width more value n : Nat) (rest : List Char) :
    readQuoted mark (.digit (width + more) value) (fixedHex width n ++ rest) =
      readQuoted mark (.digit more (value * 16 ^ width + n % 16 ^ width)) rest := by
  induction width generalizing more n rest with
  | zero => simp [fixedHex, Nat.mod_one]
  | succ width ih =>
      have hdigit := hexDigit?_digitChar (Nat.mod_lt n (show 0 < 16 by decide))
      have hvalue : (value * 16 ^ width + n / 16 % 16 ^ width) * 16 + n % 16 =
          value * 16 ^ (width + 1) + n % 16 ^ (width + 1) := by
        rw [Nat.pow_succ', Nat.mod_mul, Nat.mul_left_comm value 16]
        omega
      calc readQuoted mark (.digit (width + 1 + more) value) (fixedHex (width + 1) n ++ rest)
          = readQuoted mark (.digit (width + (more + 1)) value)
              (fixedHex width (n / 16) ++ Nat.digitChar (n % 16) :: rest) := by
            rw [fixedHex, List.append_assoc, List.singleton_append, Nat.add_assoc,
              Nat.add_comm 1 more]
        _ = readQuoted mark (.digit (more + 1) (value * 16 ^ width + n / 16 % 16 ^ width))
              (Nat.digitChar (n % 16) :: rest) := ih _ _ _
        _ = readQuoted mark (.digit more (value * 16 ^ (width + 1) + n % 16 ^ (width + 1)))
              rest := by
            rw [readQuoted_digit, hdigit, Option.bind_some, hvalue]

/-- All digits of a code point, the last of which completes the character. -/
theorem readQuoted_code (mark : Char) {c : Char} {more : Nat} (h : c.toNat < 16 ^ (more + 1))
    (rest : List Char) :
    readQuoted mark (.digit more 0) (fixedHex (more + 1) c.toNat ++ rest) =
      behindChar c (readQuoted mark .plain rest) := by
  have hlead := readQuoted_fixedHex mark more 0 0 (c.toNat / 16)
    (Nat.digitChar (c.toNat % 16) :: rest)
  have hvalue : (0 * 16 ^ more + c.toNat / 16 % 16 ^ more) * 16 + c.toNat % 16 = c.toNat := by
    rw [Nat.mod_eq_of_lt (Nat.div_lt_of_lt_mul (by rwa [Nat.pow_succ'] at h))]
    omega
  rw [fixedHex, List.append_assoc, List.singleton_append]
  rw [Nat.add_zero] at hlead
  rw [hlead, readQuoted_digit, hexDigit?_digitChar (Nat.mod_lt _ (by decide)), Option.bind_some]
  simp only [hvalue, charOfCode?_toNat, Option.bind_some]

theorem readQuoted_codeEscape {mark : Char} (hmark : mark ∈ stringMarks) (c : Char)
    (rest : List Char) :
    readQuoted mark .plain (codeEscape c ++ rest) = behindChar c (readQuoted mark .plain rest) := by
  have hslash : '\\' ≠ mark := by
    rintro rfl
    exact absurd hmark (by decide)
  have hletter {letter : Char} {more : Nat} (hmore : moreDigits? letter = some more)
      (h : c.toNat < 16 ^ (more + 1)) :
      readQuoted mark .plain ('\\' :: letter :: (fixedHex (more + 1) c.toNat ++ rest)) =
        behindChar c (readQuoted mark .plain rest) := by
    rw [readQuoted_plain, if_neg hslash, if_pos rfl, readQuoted_escape, hmore]
    exact readQuoted_code mark h rest
  have hlast : c.toNat < 16 ^ 8 := c.val.toNat_lt
  unfold codeEscape
  split
  · exact hletter rfl (by assumption)
  split
  · exact hletter rfl (by assumption)
  · exact hletter rfl hlast

/-! ### Texts -/

theorem readQuoted_quotedChar {mark : Char} (hmark : mark ∈ stringMarks) (c : Char)
    (rest : List Char) :
    readQuoted mark .plain (quotedChar mark c ++ rest) =
      behindChar c (readQuoted mark .plain rest) := by
  have hslash : '\\' ≠ mark := by
    rintro rfl
    exact absurd hmark (by decide)
  have hescape {letter d : Char} (hmore : moreDigits? letter = none)
      (hletter : unescaped? letter = some d) :
      readQuoted mark .plain (['\\', letter] ++ rest) =
        behindChar d (readQuoted mark .plain rest) := by
    rw [List.cons_append, List.singleton_append, readQuoted_plain, if_neg hslash, if_pos rfl,
      readQuoted_escape, hmore]
    simp only [hletter, Option.bind_some]
  unfold quotedChar
  split
  · next hself =>
      have hsame : moreDigits? c = none ∧ unescaped? c = some c := by
        rcases hself with rfl | rfl
        · exact ⟨rfl, rfl⟩
        · simp only [stringMarks, List.mem_cons, List.not_mem_nil, or_false] at hmark
          rcases hmark with rfl | rfl <;> exact ⟨rfl, rfl⟩
      exact hescape hsame.1 hsame.2
  split
  · next htab => exact htab ▸ hescape rfl rfl
  split
  · next hbreak => exact hbreak ▸ hescape rfl rfl
  split
  · next hreturn => exact hreturn ▸ hescape rfl rfl
  split
  · exact readQuoted_codeEscape hmark c rest
  · next hself _ hbreak hreturn _ =>
      rw [not_or] at hself
      rw [List.singleton_append, readQuoted_plain, if_neg hself.2, if_neg hself.1,
        if_neg (not_or.2 ⟨hbreak, hreturn⟩)]

/-- A text before the mark that ends it. -/
theorem readQuoted_flatMap {mark : Char} (hmark : mark ∈ stringMarks) (cs rest : List Char) :
    readQuoted mark .plain (cs.flatMap (quotedChar mark) ++ mark :: rest) = some (cs, rest) := by
  induction cs with
  | nil => rw [List.flatMap_nil, List.nil_append, readQuoted_plain, if_pos rfl]
  | cons c cs ih =>
      rw [List.flatMap_cons, List.append_assoc, readQuoted_quotedChar hmark, ih]
      rfl

theorem quoteMark_mem (cs : List Char) : quoteMark cs ∈ stringMarks := by
  unfold quoteMark
  split
  · decide
  · decide

/-- Nothing in a quoted text begins with the mark itself. -/
theorem head?_quotedChar_ne {mark : Char} (hmark : mark ∈ stringMarks) (c : Char)
    (rest : List Char) : (quotedChar mark c ++ rest).head? ≠ some mark := by
  have hread := readQuoted_quotedChar hmark c rest
  intro hhead
  obtain ⟨tail, htail⟩ := List.head?_eq_some_iff.1 hhead
  rw [htail, readQuoted_plain, if_pos rfl] at hread
  cases hrest : readQuoted mark .plain rest with
  | none => simp [behindChar, hrest] at hread
  | some read => simp [behindChar, hrest] at hread

/-- The literal of a string begins with its mark. -/
theorem toList_text_str (value : String) :
    (Literal.str value).text.toList = quoteMark value.toList ::
      (value.toList.flatMap (quotedChar (quoteMark value.toList)) ++ [quoteMark value.toList]) := by
  simp [Literal.text, quotedString]

/-- A string literal is read as the string it was made of, and the reader stops right after it, before
any text that does not begin with the mark of the literal. -/
theorem Literal.readString_text (value : String) {rest : String}
    (h : rest.toList.head? ≠ (Literal.str value).text.toList.head?) :
    readString ((Literal.str value).text ++ rest) = some (value, rest) := by
  rw [toList_text_str, List.head?_cons] at h
  have hmark := quoteMark_mem value.toList
  generalize hquote : quoteMark value.toList = mark at h hmark
  have hline : ((Literal.str value).text ++ rest).toList =
      mark :: (value.toList.flatMap (quotedChar mark) ++ mark :: rest.toList) := by
    simp [toList_text_str, hquote]
  have hsingle : (value.toList.flatMap (quotedChar mark) ++ mark :: rest.toList).take 2 ≠
      [mark, mark] := by
    intro htake
    cases hvalue : value.toList with
    | nil =>
        -- The two marks around the empty text would be three with another one after them.
        rw [hvalue, List.flatMap_nil, List.nil_append, List.take_succ_cons] at htake
        cases hrest : rest.toList with
        | nil => simp [hrest] at htake
        | cons c cs =>
            rw [hrest] at htake h
            simp only [List.take_succ_cons, List.take_zero, List.cons.injEq, and_true,
              true_and] at htake
            exact h (by rw [htake, List.head?_cons])
    | cons c cs =>
        rw [hvalue, List.flatMap_cons, List.append_assoc] at htake
        apply head?_quotedChar_ne hmark c (cs.flatMap (quotedChar mark) ++ mark :: rest.toList)
        have hhead := congrArg List.head? htake
        simpa [List.head?_take] using hhead
  rw [readString, hline]
  simp only [if_pos (And.intro hmark hsingle), readQuoted_flatMap hmark, Option.map_some,
    String.ofList_toList]

/-- Both marks, a backslash, a control character before a digit, a separator of lines and a character
beyond the first plane. -/
def crowdedString : String :=
  "it's \"\\\x071\u2028𝔸"

theorem crowdedString_readString_text :
    (Literal.str crowdedString).text = "'it\\'s \"\\\\\\x071\\u2028𝔸'" ∧
    "0\x27".toList.head? ≠ (Literal.str crowdedString).text.toList.head? ∧
    readString ((Literal.str crowdedString).text ++ "0\x27") = some (crowdedString, "0\x27") := by
  have htext : (Literal.str crowdedString).text = "'it\\'s \"\\\\\\x071\\u2028𝔸'" := by
    decide
  have hrest : "0\x27".toList.head? ≠ (Literal.str crowdedString).text.toList.head? := by
    rw [htext]
    decide
  exact ⟨htext, hrest, Literal.readString_text crowdedString hrest⟩

end Unparse
