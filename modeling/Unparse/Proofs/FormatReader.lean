import Unparse.Expr.Text

/-!
A reader of format strings. It goes through the characters once, in one of three states: in the text
around the fields, in the value of a field, where it counts brackets, or in a specification. It
knows nothing of expressions, so the values come back as the characters that they were written in.
-/

namespace Unparse

/-! ### Pieces -/

/-- What a reader finds in a format string: text, or a field. -/
inductive Piece where
  | text (content : List Char)
  | field (value : List Char) (conversion : Conversion) (spec : List Char)
  deriving DecidableEq

/-- Text before pieces. It becomes one with text that they begin with, and no text at all is no
piece. -/
def pushText (content : List Char) (pieces : List Piece) : List Piece :=
  match content, pieces with
  | [], pieces => pieces
  | content, .text more :: pieces => .text (content ++ more) :: pieces
  | content, pieces => .text content :: pieces

@[simp] theorem pushText_nil (pieces : List Piece) : pushText [] pieces = pieces := by
  cases pieces <;> rfl

theorem pushText_cons (c : Char) (cs : List Char) (pieces : List Piece) :
    pushText (c :: cs) pieces = pushText [c] (pushText cs pieces) := by
  cases cs with
  | nil => simp
  | cons d cs =>
      cases pieces with
      | nil => rfl
      | cons piece pieces => cases piece <;> rfl

/-- Pieces with neighbouring texts merged and empty ones left out. -/
def normalForm : List Piece → List Piece
  | [] => []
  | .text content :: pieces => pushText content (normalForm pieces)
  | .field value conversion spec :: pieces => .field value conversion spec :: normalForm pieces

/-! ### The reader -/

/-- The character that a backslash and the given one stand for. -/
def unescaped? (c : Char) : Option Char :=
  if c ∈ ['\\', '\x22', '\x27'] then some c
  else if c = 'n' then some '\n'
  else if c = 'r' then some '\r'
  else if c = 't' then some '\t'
  else none

def openBrackets : List Char :=
  ['(', '[', '\x7b']

def closeBrackets : List Char :=
  [')', ']', '\x7d']

/-- What begins a string or an escape. -/
def quoteMarks : List Char :=
  ['\x22', '\x27', '\\']

/-- The characters that a specification is not made of. -/
def specStops : List Char :=
  ['\x7b', '\x7d', '\x22', '\\', '\n', '\r']

def conversion? (c : Char) : Option Conversion :=
  if c = 'a' then some .ascii
  else if c = 'r' then some .repr
  else if c = 's' then some .str
  else none

/-- What has been read, behind something else. -/
def behind (push : List Piece → List Piece) (result : Option (List Piece × List Char)) :
    Option (List Piece × List Char) :=
  result.map fun read => (push read.1, read.2)

/-- A field and what has been read after it; a field without a value is refused. -/
def closeField (value : List Char) (conversion : Conversion) (spec : List Char)
    (result : Option (List Piece × List Char)) : Option (List Piece × List Char) :=
  if value = [] then none else behind (.field value conversion spec :: ·) result

mutual

/-- The pieces up to the quote that ends the string, and what follows it. Two braces stand for one,
and a brace that opens a field may have a space after it. -/
def readText : List Char → Option (List Piece × List Char)
  | [] => none
  | c :: cs =>
    if c = '\x22' then some ([], cs)
    else if c = '\\' then
      match cs with
      | [] => none
      | d :: cs => (unescaped? d).bind fun e => behind (pushText [e]) (readText cs)
    else if c = '\x7b' then
      match cs with
      | [] => none
      | d :: after =>
        if d = '\x7b' then behind (pushText ['\x7b']) (readText after)
        else if d = ' ' then readValue 0 [] after
        else readValue 0 [] (d :: after)
    else if c = '\x7d' then
      match cs with
      | [] => none
      | d :: after => if d = '\x7d' then behind (pushText ['\x7d']) (readText after) else none
    else if c = '\n' ∨ c = '\r' then none
    else behind (pushText [c]) (readText cs)

/-- The rest of a value at a depth of brackets. Outside of all brackets it goes up to a closing
brace, a colon or an exclamation mark that is no part of an operator. Strings have characters of
their own, so they are refused. -/
def readValue (depth : Nat) (value : List Char) : List Char → Option (List Piece × List Char)
  | [] => none
  | c :: cs =>
    if c ∈ quoteMarks then none
    else if c ∈ openBrackets then readValue (depth + 1) (value ++ [c]) cs
    else
      match depth with
      | depth + 1 =>
        if c ∈ closeBrackets then readValue depth (value ++ [c]) cs
        else readValue (depth + 1) (value ++ [c]) cs
      | 0 =>
        if c = '\x7d' then closeField value .none [] (readText cs)
        else if c ∈ closeBrackets then none
        else if c = ':' then readSpec value .none [] cs
        else if c = '!' then
          match cs with
          | [] => none
          | d :: cs =>
            if d = '=' then readValue 0 (value ++ [c, d]) cs
            else
              match conversion? d, cs with
              | some conversion, e :: cs =>
                if e = '\x7d' then closeField value conversion [] (readText cs)
                else if e = ':' then readSpec value conversion [] cs
                else none
              | _, _ => none
        else readValue 0 (value ++ [c]) cs

/-- The rest of a specification, up to the closing brace. -/
def readSpec (value : List Char) (conversion : Conversion) (spec : List Char) :
    List Char → Option (List Piece × List Char)
  | [] => none
  | c :: cs =>
    if c = '\x7d' then closeField value conversion spec (readText cs)
    else if c ∈ specStops then none
    else readSpec value conversion (spec ++ [c]) cs

end

/-- The pieces of a format string at the beginning of a line, and what follows it. Three quotes
begin a string of another kind. -/
def readFormat : List Char → Option (List Piece × List Char)
  | 'f' :: '\x22' :: '\x22' :: '\x22' :: _ => none
  | 'f' :: '\x22' :: cs => readText cs
  | _ => none

/-! ### One character -/

theorem readText_cons (c : Char) (cs : List Char) :
    readText (c :: cs) =
      if c = '\x22' then some ([], cs)
      else if c = '\\' then
        match cs with
        | [] => none
        | d :: cs => (unescaped? d).bind fun e => behind (pushText [e]) (readText cs)
      else if c = '\x7b' then
        match cs with
        | [] => none
        | d :: after =>
          if d = '\x7b' then behind (pushText ['\x7b']) (readText after)
          else if d = ' ' then readValue 0 [] after
          else readValue 0 [] (d :: after)
      else if c = '\x7d' then
        match cs with
        | [] => none
        | d :: after => if d = '\x7d' then behind (pushText ['\x7d']) (readText after) else none
      else if c = '\n' ∨ c = '\r' then none
      else behind (pushText [c]) (readText cs) := by
  rw [readText.eq_def]

/-- Within brackets only brackets and the beginning of a string mean something. -/
theorem readValue_succ (depth : Nat) (value : List Char) (c : Char) (cs : List Char) :
    readValue (depth + 1) value (c :: cs) =
      if c ∈ quoteMarks then none
      else if c ∈ openBrackets then readValue (depth + 2) (value ++ [c]) cs
      else if c ∈ closeBrackets then readValue depth (value ++ [c]) cs
      else readValue (depth + 1) (value ++ [c]) cs := by
  rw [readValue.eq_def]

theorem readValue_zero (value : List Char) (c : Char) (cs : List Char) :
    readValue 0 value (c :: cs) =
      if c ∈ quoteMarks then none
      else if c ∈ openBrackets then readValue 1 (value ++ [c]) cs
      else if c = '\x7d' then closeField value .none [] (readText cs)
      else if c ∈ closeBrackets then none
      else if c = ':' then readSpec value .none [] cs
      else if c = '!' then
        match cs with
        | [] => none
        | d :: cs =>
          if d = '=' then readValue 0 (value ++ [c, d]) cs
          else
            match conversion? d, cs with
            | some conversion, e :: cs =>
              if e = '\x7d' then closeField value conversion [] (readText cs)
              else if e = ':' then readSpec value conversion [] cs
              else none
            | _, _ => none
      else readValue 0 (value ++ [c]) cs := by
  rw [readValue.eq_def]

theorem readSpec_cons (value : List Char) (conversion : Conversion) (spec : List Char) (c : Char)
    (cs : List Char) :
    readSpec value conversion spec (c :: cs) =
      if c = '\x7d' then closeField value conversion spec (readText cs)
      else if c ∈ specStops then none
      else readSpec value conversion (spec ++ [c]) cs := by
  rw [readSpec.eq_def]

/-! ### Text -/

theorem behind_behind (push push' : List Piece → List Piece)
    (result : Option (List Piece × List Char)) :
    behind push (behind push' result) = behind (push ∘ push') result := by
  cases result <;> rfl

theorem readText_quote (rest : List Char) : readText ('\x22' :: rest) = some ([], rest) := by
  rw [readText_cons]
  simp

theorem readText_formatTextChar (c : Char) (rest : List Char) :
    readText (formatTextChar c ++ rest) = behind (pushText [c]) (readText rest) := by
  unfold formatTextChar
  split
  · next hbrace =>
      rcases hbrace with rfl | rfl <;> simp [readText_cons]
  split
  · next hescaped =>
      rcases hescaped with rfl | rfl <;> simp [readText_cons, unescaped?]
  split
  · next hbreak => simp [hbreak, readText_cons, unescaped?]
  split
  · next hbreak => simp [hbreak, readText_cons, unescaped?]
  split
  · next htab => simp [htab, readText_cons, unescaped?]
  · next hbrace hescaped hbreak hbreak' _ =>
      rw [not_or] at hbrace hescaped
      rw [List.singleton_append, readText_cons]
      simp [hbrace, hescaped, hbreak, hbreak']

/-- The text of a format string is read back as it was before its braces were doubled and its quotes
were escaped. -/
theorem readText_formatText (content : String) (rest : List Char) :
    readText ((formatText content).toList ++ rest) =
      behind (pushText content.toList) (readText rest) := by
  rw [formatText, String.toList_ofList]
  induction content.toList with
  | nil => cases h : readText rest <;> simp [behind, h]
  | cons c cs ih =>
      have hpush : pushText [c] ∘ pushText cs = pushText (c :: cs) :=
        funext fun pieces => (pushText_cons c cs pieces).symm
      rw [List.flatMap_cons, List.append_assoc, readText_formatTextChar, ih, behind_behind, hpush]

/-! ### Values -/

/-- The reader of values goes over these characters at this depth, and all of them become part of
the value. -/
def Passes (depth : Nat) (cs : List Char) : Prop :=
  ∀ value rest, readValue depth value (cs ++ rest) = readValue depth (value ++ cs) rest

/-- The characters that mean something to the reader of values. -/
def fieldMarks : List Char :=
  quoteMarks ++ openBrackets ++ closeBrackets ++ [':', '!']

/-- All other characters. -/
def isFieldPlain (c : Char) : Bool :=
  !fieldMarks.contains c

namespace Passes

variable {depth : Nat} {cs ds : List Char}

theorem nil : Passes depth [] := by
  intro value rest
  simp

theorem append (h : Passes depth cs) (h' : Passes depth ds) : Passes depth (cs ++ ds) := by
  intro value rest
  rw [List.append_assoc, h, h', List.append_assoc]

theorem plain {c : Char} (hc : isFieldPlain c = true) : Passes depth [c] := by
  intro value rest
  have hmarks : c ∉ fieldMarks := by simpa [isFieldPlain] using hc
  simp only [fieldMarks, List.mem_append, not_or, List.mem_cons, List.not_mem_nil,
    or_false] at hmarks
  obtain ⟨⟨⟨hquote, hopen⟩, hclose⟩, hcolon, hmark⟩ := hmarks
  have hbrace : c ≠ '\x7d' := by
    rintro rfl
    exact hclose (by decide)
  rw [List.singleton_append]
  cases depth with
  | zero => simp [readValue_zero, hquote, hopen, hclose, hcolon, hmark, hbrace]
  | succ depth => simp [readValue_succ, hquote, hopen, hclose]

theorem of_plain (h : cs.all isFieldPlain = true) : Passes depth cs := by
  rw [List.all_eq_true] at h
  induction cs with
  | nil => exact nil
  | cons c cs ih =>
      obtain ⟨hc, hcs⟩ := List.forall_mem_cons.1 h
      exact (plain hc).append (ih hcs)

/-- Inside brackets a colon means nothing. -/
theorem colon : Passes (depth + 1) [':'] := by
  intro value rest
  simp [readValue_succ, quoteMarks, openBrackets, closeBrackets]

/-- An exclamation mark before an equals sign is an operator. -/
theorem notEqual : Passes depth ['!', '='] := by
  intro value rest
  cases depth with
  | zero => simp [readValue_zero, quoteMarks, openBrackets, closeBrackets]
  | succ depth => simp [readValue_succ, quoteMarks, openBrackets, closeBrackets]

theorem bracketed {o c : Char} (ho : o ∈ openBrackets) (hc : c ∈ closeBrackets)
    (h : Passes (depth + 1) cs) : Passes depth (o :: (cs ++ [c])) := by
  intro value rest
  -- A quote or a backslash would be refused before any bracket is looked at.
  have hopen : o ∉ quoteMarks := by
    simp only [openBrackets, List.mem_cons, List.not_mem_nil, or_false] at ho
    rcases ho with rfl | rfl | rfl <;> decide
  have hclose : c ∉ quoteMarks ∧ c ∉ openBrackets := by
    simp only [closeBrackets, List.mem_cons, List.not_mem_nil, or_false] at hc
    rcases hc with rfl | rfl | rfl <;> decide
  have hstep : readValue depth value (o :: (cs ++ c :: rest)) =
      readValue (depth + 1) (value ++ [o]) (cs ++ c :: rest) := by
    cases depth with
    | zero => rw [readValue_zero, if_neg hopen, if_pos ho]
    | succ depth => rw [readValue_succ, if_neg hopen, if_pos ho]
  have hback : readValue (depth + 1) (value ++ [o] ++ cs) (c :: rest) =
      readValue depth (value ++ [o] ++ cs ++ [c]) rest := by
    rw [readValue_succ, if_neg hclose.1, if_neg hclose.2, if_pos hc]
  calc readValue depth value (o :: (cs ++ [c]) ++ rest)
      = readValue depth value (o :: (cs ++ c :: rest)) := by simp
    _ = readValue (depth + 1) (value ++ [o] ++ cs) (c :: rest) := by rw [hstep, h]
    _ = readValue depth (value ++ o :: (cs ++ [c])) rest := by rw [hback]; simp

end Passes

/-! ### Fields -/

theorem readSpec_spec (value : List Char) (conversion : Conversion) {spec : List Char}
    (hspec : ∀ c ∈ spec, c ∉ specStops) (read rest : List Char) :
    readSpec value conversion read (spec ++ '\x7d' :: rest) =
      closeField value conversion (read ++ spec) (readText rest) := by
  induction spec generalizing read with
  | nil => simp [readSpec_cons]
  | cons c spec ih =>
      obtain ⟨hc, hspec⟩ := List.forall_mem_cons.1 hspec
      have hbrace : c ≠ '\x7d' := by
        rintro rfl
        exact hc (by decide)
      simp [readSpec_cons, hbrace, hc, ih hspec]

theorem readValue_brace (value rest : List Char) :
    readValue 0 value ('\x7d' :: rest) = closeField value .none [] (readText rest) := by
  rw [readValue_zero]
  simp [quoteMarks, openBrackets]

theorem readValue_colon (value rest : List Char) :
    readValue 0 value (':' :: rest) = readSpec value .none [] rest := by
  rw [readValue_zero]
  simp [quoteMarks, openBrackets, closeBrackets]

/-- After a value come the conversion, the specification and the closing brace of the field. -/
theorem readValue_tail (value : List Char) (conversion : Conversion) {spec : String}
    (hspec : ∀ c ∈ spec.toList, c ∉ specStops) (rest : List Char) :
    readValue 0 value (conversion.text.toList ++
      ((if spec = "" then "" else ":" ++ spec).toList ++ '\x7d' :: rest)) =
      closeField value conversion spec.toList (readText rest) := by
  have hread := readSpec_spec value conversion hspec [] rest
  by_cases hempty : spec = ""
  · subst hempty
    cases conversion with
    | none => exact readValue_brace value rest
    | ascii | repr | str =>
        simp [Conversion.text, Conversion.letter, readValue_zero, conversion?, quoteMarks,
          openBrackets, closeBrackets]
  · rw [if_neg hempty, String.toList_append, List.append_assoc]
    cases conversion with
    | none => exact (readValue_colon value _).trans hread
    | ascii | repr | str =>
        simpa [Conversion.text, Conversion.letter, readValue_zero, conversion?, quoteMarks,
          openBrackets, closeBrackets] using hread

/-- A field is read back if its value does not begin with a space and goes over outside of all
brackets. -/
theorem readText_fieldText {value : String} {c : Char} {cs : List Char}
    (hvalue : value.toList = c :: cs) (hc : c ≠ ' ') (hpasses : Passes 0 value.toList)
    (conversion : Conversion) {spec : String} (hspec : ∀ c ∈ spec.toList, c ∉ specStops)
    (rest : List Char) :
    readText ((fieldText value conversion spec).toList ++ rest) =
      behind (.field value.toList conversion spec.toList :: ·) (readText rest) := by
  have htail := readValue_tail value.toList conversion hspec rest
  have hclosed : closeField value.toList conversion spec.toList (readText rest) =
      behind (.field value.toList conversion spec.toList :: ·) (readText rest) := by
    simp [closeField, hvalue]
  have hstart : readValue 0 [] (value.toList ++ (conversion.text.toList ++
      ((if spec = "" then "" else ":" ++ spec).toList ++ '\x7d' :: rest))) =
      behind (.field value.toList conversion spec.toList :: ·) (readText rest) := by
    rw [hpasses, List.nil_append, htail, hclosed]
  -- Only a value that begins with a brace has a space before it, and the reader skips that one.
  by_cases hbrace : c = '\x7b'
  · subst hbrace
    rw [hvalue] at hstart
    simpa [fieldText, hvalue, readText_cons] using hstart
  · rw [hvalue] at hstart
    simpa [fieldText, hvalue, hbrace, readText_cons, hc] using hstart

end Unparse
