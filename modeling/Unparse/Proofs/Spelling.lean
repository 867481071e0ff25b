import Unparse.Expr.Text
import Unparse.Proofs.Grammar

/-!
How tokens are spelled. A spelling is a run of characters that is read as the same tokens whatever
stands after it, as long as the cut between the two is a cut between tokens; spellings can then be
put together piece by piece.
-/

namespace Unparse

/-! ### Cuts -/

/-- A cut between two runs of characters is a cut between tokens. -/
def Apart (cs ds : List Char) : Prop :=
  ∀ x ∈ cs.getLast?, ∀ y ∈ ds.head?, glued x y = false

/-- The characters that hold together with no neighbour. -/
def loneSigns : List Char :=
  [' ', '(', ')', '[', ']', ',', '.']

theorem isWordChar_sign : ∀ c ∈ loneSigns ++ ['<', '>', '=', '!', ':'], isWordChar c = false := by
  have hall : (loneSigns ++ ['<', '>', '=', '!', ':']).all (fun c => !isWordChar c) = true := by
    decide +kernel
  intro c hc
  simpa using List.all_eq_true.1 hall c hc

theorem isWordChar_of_mem_loneSigns {c : Char} (h : c ∈ loneSigns) : isWordChar c = false :=
  isWordChar_sign c (List.mem_append_left _ h)

theorem glued_lone_left {x : Char} (hx : x ∈ loneSigns) (y : Char) : glued x y = false := by
  have hword := isWordChar_of_mem_loneSigns hx
  simp only [loneSigns, List.mem_cons, List.not_mem_nil, or_false] at hx
  rcases hx with rfl | rfl | rfl | rfl | rfl | rfl | rfl <;> simp [glued, pairedSigns, hword]

theorem glued_lone_right (x : Char) {y : Char} (hy : y ∈ loneSigns) : glued x y = false := by
  have hword := isWordChar_of_mem_loneSigns hy
  simp only [loneSigns, List.mem_cons, List.not_mem_nil, or_false] at hy
  rcases hy with rfl | rfl | rfl | rfl | rfl | rfl | rfl <;>
    simp [glued, pairedSigns, hword, Char.isDigit]

theorem apart_lone_right (cs : List Char) {y : Char} (hy : y ∈ loneSigns) (ds : List Char) :
    Apart cs (y :: ds) := by
  intro x _ y' hy'
  simp only [List.head?_cons, Option.mem_def, Option.some.injEq] at hy'
  subst hy'
  exact glued_lone_right x hy

theorem apart_lone_left {x : Char} (hx : x ∈ loneSigns) (ds : List Char) : Apart [x] ds := by
  intro x' hx' y _
  simp only [List.getLast?_singleton, Option.mem_def, Option.some.injEq] at hx'
  subst hx'
  exact glued_lone_left hx y

theorem apart_nil_right (cs : List Char) : Apart cs [] := by
  intro x _ y hy
  simp at hy

theorem Apart.append_right {cs ds : List Char} (hds : ds ≠ []) (h : Apart cs ds) (es : List Char) :
    Apart cs (ds ++ es) := by
  intro x hx y hy
  rw [List.head?_append_of_ne_nil _ hds] at hy
  exact h x hx y hy

/-! ### Spellings -/

/-- The last token is no number, or no point follows. -/
def Whole (tokens : List Token) (rest : List Char) : Prop :=
  ∀ t ∈ tokens.getLast?, t.isNumber = true → rest.head? ≠ some '.'

/-- Characters are read as these tokens whatever is read after them. -/
def Spells (cs : List Char) (tokens : List Token) : Prop :=
  ∀ rest, Apart cs rest → Whole tokens rest →
    scanChars (cs ++ rest) = (scanChars rest).map (tokens ++ ·)

theorem Spells.scanChars_eq {cs : List Char} {tokens : List Token} (h : Spells cs tokens) :
    scanChars cs = some tokens := by
  have hread := h [] (apart_nil_right cs) (by intro t _ _; simp)
  simpa [scanChars, Token.ofPieces] using hread

theorem head?_splitBy {rest : List Char} {c : Char}
    (h : (rest.splitBy glued).head? = some [c]) : rest.head? = some c := by
  have hflat := List.flatten_splitBy glued rest
  cases hpieces : rest.splitBy glued with
  | nil => rw [hpieces] at h; simp at h
  | cons piece pieces =>
      rw [hpieces] at h hflat
      simp only [List.head?_cons, Option.some.injEq] at h
      subst h
      rw [← hflat]
      rfl

/-- What holds together is one piece before a cut. -/
theorem splitBy_piece {cs rest : List Char} (hne : cs ≠ [])
    (hchain : cs.IsChain fun a b => glued a b = true) (hapart : Apart cs rest) :
    (cs ++ rest).splitBy glued = cs :: rest.splitBy glued := by
  rw [List.splitBy_append hapart, List.splitBy_of_isChain hne hchain, List.singleton_append]

theorem splitBy_space (cs : List Char) :
    (' ' :: cs).splitBy glued = [' '] :: cs.splitBy glued :=
  splitBy_piece (by simp) (List.isChain_singleton _) (apart_lone_left (by decide) cs)

/-- A piece that holds together and is a token spells that token. -/
theorem spells_piece {cs : List Char} {token : Token} (hne : cs ≠ []) (hblank : cs ≠ [' '])
    (hchain : cs.IsChain fun a b => glued a b = true) (htoken : Token.ofPiece? cs = some token) :
    Spells cs [token] := by
  intro rest hapart hwhole
  have hpoint : (token.isNumber && (rest.splitBy glued).head? == some ['.']) = false := by
    by_contra h
    simp only [Bool.not_eq_false, Bool.and_eq_true, beq_iff_eq] at h
    exact hwhole token rfl h.1 (head?_splitBy h.2)
  simp only [scanChars, splitBy_piece hne hchain hapart, Token.ofPieces, hblank, if_false, htoken, hpoint,
    List.singleton_append]
  rfl

/-- A space before a spelling adds nothing to it. -/
theorem Spells.after_space {cs : List Char} {tokens : List Token} (h : Spells cs tokens) :
    Spells (' ' :: cs) tokens := by
  intro rest hapart hwhole
  have happ : Apart cs rest := by
    intro x hx y hy
    refine hapart x ?_ y hy
    rw [List.getLast?_cons, Option.mem_def] at *
    simp [hx]
  rw [← h rest happ hwhole]
  simp only [scanChars, List.cons_append, splitBy_space, Token.ofPieces, if_true]

/-- Spellings are put together at a cut between tokens. -/
theorem Spells.append {cs ds : List Char} {tokens others : List Token} (hcs : Spells cs tokens)
    (hds : Spells ds others) (hne : ds ≠ []) (hothers : others ≠ []) (hapart : Apart cs ds)
    (hwhole : Whole tokens ds) : Spells (cs ++ ds) (tokens ++ others) := by
  intro rest hrest hlast
  have hfirst : Whole tokens (ds ++ rest) := by
    intro t ht hnumber
    rw [List.head?_append_of_ne_nil _ hne]
    exact hwhole t ht hnumber
  have hsecond : Apart ds rest := by
    intro x hx y hy
    refine hrest x ?_ y hy
    rw [List.getLast?_append_of_ne_nil _ hne]
    exact hx
  have hafter : Whole others rest := by
    intro t ht
    refine hlast t ?_
    rw [List.getLast?_append_of_ne_nil _ hothers]
    exact ht
  rw [List.append_assoc, hcs _ (hapart.append_right hne rest) hfirst, hds rest hsecond hafter,
    Option.map_map]
  congr 1
  funext ts
  simp

/-! ### Marks, numbers and names -/

theorem isWordChar_of_isDigit {c : Char} (h : c.isDigit = true) : isWordChar c = true := by
  have hrange : xidContinue.holds c = true := by
    rw [CodeRanges.holds_iff]
    refine ⟨(0x30, 0x39), by decide, ?_⟩
    simpa [Char.isDigit, UInt32.le_iff_toNat_le] using h
  simp [isWordChar, isWordContinue, hrange]

theorem isPlainWordStart_iff_toNat {c : Char} :
    isPlainWordStart c = true ↔ 0x41 ≤ c.toNat ∧ c.toNat ≤ 0x5A ∨
      0x61 ≤ c.toNat ∧ c.toNat ≤ 0x7A ∨ c.toNat = 0x5F := by
  have hparts : isPlainWordStart c = (decide ('A'.val ≤ c.val ∧ c.val ≤ 'Z'.val) ||
      (decide ('a'.val ≤ c.val) && decide (c.val ≤ 'z'.val)) || c == '_') := rfl
  rw [hparts]
  simp [UInt32.le_iff_toNat_le, ← Char.toNat_inj, or_assoc]

theorem isPlainWordContinue_eq (c : Char) :
    isPlainWordContinue c = (isPlainWordStart c || c.isDigit) := by
  show (c.isAlpha || c.isDigit || c == '_') = (c.isAlpha || c == '_' || c.isDigit)
  rw [Bool.or_assoc, Bool.or_comm c.isDigit, ← Bool.or_assoc]

theorem isWordChar_of_isPlainWordContinue {c : Char} (h : isPlainWordContinue c = true) :
    isWordChar c = true := by
  rw [isPlainWordContinue_eq, Bool.or_eq_true] at h
  rcases h with h | h
  · have hrange : xidContinue.holds c = true := by
      rw [CodeRanges.holds_iff]
      rcases isPlainWordStart_iff_toNat.1 h with h | h | h
      · exact ⟨(0x41, 0x5A), by decide, h⟩
      · exact ⟨(0x61, 0x7A), by decide, h⟩
      · exact ⟨(0x5F, 0x5F), by decide, h.ge, h.le⟩
    simp [isWordChar, isWordContinue, hrange]
  · exact isWordChar_of_isDigit h

theorem isPlainWordContinue_of_start {c : Char} (h : isPlainWordStart c = true) :
    isPlainWordContinue c = true := by
  rw [isPlainWordContinue_eq, h, Bool.true_or]

/-- An identifier is made of word characters, and of one at least. -/
theorem Identifier.isWordChar_of_mem (name : Identifier) :
    name.text.toList ≠ [] ∧ ∀ c ∈ name.text.toList, isWordChar c = true := by
  have hshape := name.valid.1
  unfold hasShape at hshape
  cases hcs : name.text.toList with
  | nil => simp [hcs, formsWord] at hshape
  | cons c cs =>
      refine ⟨by simp, ?_⟩
      rw [hcs] at hshape
      split at hshape
      · simp only [formsWord, Bool.and_eq_true, List.all_eq_true] at hshape
        intro d hd
        rcases List.mem_cons.1 hd with rfl | hd
        · exact isWordChar_of_isPlainWordContinue (isPlainWordContinue_of_start hshape.1)
        · exact isWordChar_of_isPlainWordContinue (hshape.2 d hd)
      · simp only [formsWord, Bool.and_eq_true, List.all_eq_true] at hshape
        intro d hd
        rcases List.mem_cons.1 hd with rfl | hd
        · simp [isWordChar, hshape.1]
        · simp [isWordChar, hshape.2 d hd]

theorem isChain_of_isWordChar {cs : List Char} (h : ∀ c ∈ cs, isWordChar c = true) :
    cs.IsChain fun a b => glued a b = true := by
  induction cs with
  | nil => exact List.isChain_nil
  | cons c cs ih =>
      refine List.isChain_cons.2 ⟨?_, ih fun d hd => h d (List.mem_cons_of_mem c hd)⟩
      intro d hd
      have hc := h c List.mem_cons_self
      have hd := h d (List.mem_cons_of_mem c (List.mem_of_mem_head? hd))
      simp [glued, hc, hd]

theorem spells_name (name : Identifier) : Spells name.text.toList [.name name] := by
  obtain ⟨hne, hword⟩ := name.isWordChar_of_mem
  refine spells_piece hne ?_ (isChain_of_isWordChar hword) ?_
  · intro hblank
    have := hword ' ' (by simp [hblank])
    rw [isWordChar_sign ' ' (by decide)] at this
    cases this
  · have hread : Identifier.ofText name.text = .ok name := Identifier.ofText_eq_ok_iff.2 rfl
    simp only [Token.ofPiece?, String.ofList_toList, hread]

theorem ofPiece?_chars (m : Mark) : Token.ofPiece? m.chars = some (.mark m) := by
  cases m <;> rfl

theorem spells_mark (m : Mark) : Spells m.chars [.mark m] := by
  refine spells_piece ?_ ?_ ?_ (ofPiece?_chars m)
  · cases m <;> simp [Mark.chars]
  · cases m <;> simp [Mark.chars]
  · cases m <;> decide

theorem isDigit_of_mem_decimalDigits {n : Nat} {c : Char} (h : c ∈ decimalDigits n) :
    c.isDigit = true :=
  Nat.isDigit_of_mem_toDigits (by decide) (by decide) h

theorem decimalDigits_ne_nil (n : Nat) : decimalDigits n ≠ [] :=
  Nat.toDigits_ne_nil

/-- Whatever begins with neither letter nor underscore but with a plain character is no
identifier, if it is plain throughout. -/
theorem ofText_eq_error {c : Char} {cs : List Char} (hplain : (c :: cs).all isPlain = true)
    (hstart : isPlainWordStart c = false) :
    Identifier.ofText (String.ofList (c :: cs)) =
      .error (.invalidIdentifier (String.ofList (c :: cs))) := by
  rw [Identifier.ofText_eq_error_iff]
  refine ⟨?_, rfl⟩
  intro hvalid
  have hshape := hvalid.1
  rw [String.toList_ofList, Identifier.hasShape, if_pos hplain] at hshape
  simp [formsWord, hstart] at hshape

theorem isPlain_of_isDigit {c : Char} (h : c.isDigit = true) : isPlain c = true := by
  have hcode := (Char.isDigit_iff_toNat.1 h).2
  have hnine : '9'.toNat = 57 := rfl
  simp only [isPlain, decide_eq_true_eq]
  omega

theorem not_isPlainWordStart_of_isDigit {c : Char} (h : c.isDigit = true) :
    isPlainWordStart c = false := by
  have hcode := Char.isDigit_iff_toNat.1 h
  have hzero : '0'.toNat = 48 := rfl
  have hnine : '9'.toNat = 57 := rfl
  by_contra hstart
  rw [Bool.not_eq_false, isPlainWordStart_iff_toNat] at hstart
  omega

/-- The pieces that an integer's text may be: digits, or a minus sign before digits. -/
theorem integerText_cases (value : Int) :
    (0 ≤ value ∧ (integerText value).toList = decimalDigits value.toNat) ∨
      (value < 0 ∧ (integerText value).toList = '-' :: decimalDigits (-value).toNat) := by
  cases value with
  | ofNat n => exact Or.inl ⟨Int.natCast_nonneg n, by simp [integerText]⟩
  | negSucc n =>
      refine Or.inr ⟨Int.negSucc_lt_zero n, ?_⟩
      have hn : (-Int.negSucc n).toNat = n + 1 := rfl
      rw [hn, integerText, String.toList_ofList]

theorem integer?_integerText (value : Int) : integer? (integerText value).toList = some value := by
  have hvalue (n : Nat) : Nat.ofDigitChars 10 (decimalDigits n) 0 = n :=
    Nat.ofDigitChars_ten_toDigits
  rcases integerText_cases value with ⟨hsign, htext⟩ | ⟨hsign, htext⟩
  · have hhead : (decimalDigits value.toNat).head? ≠ some '-' := by
      intro h
      have := isDigit_of_mem_decimalDigits (List.mem_of_head? h)
      simp [Char.isDigit] at this
    have hnat : (value.toNat : Int) = value := Int.toNat_of_nonneg hsign
    rw [htext]
    simp only [integer?, if_neg hhead, hvalue, hnat, htext, if_true]
  · have hnat : -((-value).toNat : Int) = value := by omega
    rw [htext]
    simp only [integer?, List.head?_cons, List.tail_cons, if_true, hvalue, hnat, htext]

theorem spells_number (value : Int) : Spells (integerText value).toList [.number value] := by
  have hdigit (n : Nat) : ∀ c ∈ decimalDigits n, c.isDigit = true :=
    fun c hc => isDigit_of_mem_decimalDigits hc
  have hdigitChain (n : Nat) : (decimalDigits n).IsChain fun a b => glued a b = true :=
    isChain_of_isWordChar fun c hc => isWordChar_of_isDigit (hdigit n c hc)
  have hread := integer?_integerText value
  rcases integerText_cases value with ⟨hsign, htext⟩ | ⟨hsign, htext⟩
  · obtain ⟨c, digits, hdigits⟩ := List.exists_cons_of_ne_nil (decimalDigits_ne_nil value.toNat)
    have hall := hdigit value.toNat
    have hchain := hdigitChain value.toNat
    rw [htext] at hread ⊢
    rw [hdigits] at hread hall hchain ⊢
    have hplain : (c :: digits).all isPlain = true :=
      List.all_eq_true.2 fun d hd => isPlain_of_isDigit (hall d hd)
    have herror := ofText_eq_error hplain (not_isPlainWordStart_of_isDigit (hall c List.mem_cons_self))
    refine spells_piece (by simp) ?_ hchain ?_
    · rintro hblank
      have := hall ' ' (by simp [hblank])
      simp [Char.isDigit] at this
    · simp only [Token.ofPiece?, herror, hread, Option.map_some, Option.some_or]
  · have hplain : ('-' :: decimalDigits (-value).toNat).all isPlain = true := by
      rw [List.all_cons, Bool.and_eq_true, List.all_eq_true]
      exact ⟨by decide, fun d hd => isPlain_of_isDigit (hdigit _ d hd)⟩
    have herror := ofText_eq_error hplain (by decide)
    rw [htext] at hread ⊢
    refine spells_piece (by simp) (by simp) ?_ ?_
    · refine List.isChain_cons.2 ⟨fun d hd => ?_, hdigitChain _⟩
      simp [glued, hdigit _ d (List.mem_of_mem_head? hd)]
    · simp only [Token.ofPiece?, herror, hread, Option.map_some, Option.some_or]

/-! ### Putting spellings together -/

/-- Characters that spell tokens, and of both at least one. -/
structure Spelled (cs : List Char) (tokens : List Token) : Prop where
  spells : Spells cs tokens
  ne_nil : cs ≠ []
  tokens_ne_nil : tokens ≠ []

theorem spelled_name (name : Identifier) : Spelled name.text.toList [.name name] :=
  ⟨spells_name name, name.isWordChar_of_mem.1, by simp⟩

theorem spelled_number (value : Int) : Spelled (integerText value).toList [.number value] := by
  refine ⟨spells_number value, ?_, by simp⟩
  rcases integerText_cases value with ⟨_, htext⟩ | ⟨_, htext⟩
  · rw [htext]
    exact decimalDigits_ne_nil _
  · simp [htext]

theorem spelled_mark (m : Mark) : Spelled m.chars [.mark m] :=
  ⟨spells_mark m, by cases m <;> simp [Mark.chars], by simp⟩

theorem whole_of_head {tokens : List Token} {cs : List Char} (h : cs.head? ≠ some '.') :
    Whole tokens cs :=
  fun _ _ _ => h

theorem whole_mark (m : Mark) (cs : List Char) : Whole [.mark m] cs := by
  intro t ht hnumber
  simp only [List.getLast?_singleton, Option.mem_def, Option.some.injEq] at ht
  subst ht
  cases hnumber

namespace Spelled

variable {cs ds : List Char} {tokens others : List Token}

/-- With a space in between, spellings follow one another. -/
theorem spaced (h : Spelled cs tokens) (h' : Spelled ds others) :
    Spelled (cs ++ ' ' :: ds) (tokens ++ others) := by
  refine ⟨?_, by simp, by simp [h.tokens_ne_nil]⟩
  exact h.spells.append h'.spells.after_space (by simp) h'.tokens_ne_nil
    (apart_lone_right cs (by decide) ds) (whole_of_head (by simp))

/-- A space in front of a spelling adds nothing to it. -/
theorem after_space (h : Spelled cs tokens) : Spelled (' ' :: cs) tokens :=
  ⟨h.spells.after_space, by simp, h.tokens_ne_nil⟩

/-- A sign goes before a spelling that it does not hold together with. -/
theorem after_sign {m : Mark} {x : Char} (hm : m.chars = [x]) (h : Spelled cs tokens)
    (hapart : Apart [x] cs) : Spelled (x :: cs) (.mark m :: tokens) := by
  have hmark := spells_mark m
  rw [hm] at hmark
  refine ⟨?_, by simp, by simp⟩
  exact hmark.append h.spells h.ne_nil h.tokens_ne_nil hapart (whole_mark m cs)

/-- A sign that holds together with no neighbour goes before a spelling. -/
theorem after_lone {m : Mark} {x : Char} (hm : m.chars = [x]) (hx : x ∈ loneSigns)
    (h : Spelled cs tokens) : Spelled (x :: cs) (.mark m :: tokens) :=
  h.after_sign hm (apart_lone_left hx cs)

/-- A spelling goes before what begins with a sign that holds together with no neighbour; before a
point it must not end in a number. -/
theorem before_lone {y : Char} (h : Spelled cs tokens) (h' : Spelled (y :: ds) others)
    (hy : y ∈ loneSigns) (hwhole : Whole tokens (y :: ds)) :
    Spelled (cs ++ y :: ds) (tokens ++ others) := by
  refine ⟨?_, by simp, by simp [h.tokens_ne_nil]⟩
  exact h.spells.append h'.spells h'.ne_nil h'.tokens_ne_nil (apart_lone_right cs hy ds) hwhole

end Spelled

/-- What stands after the characters that come first is the rest. -/
theorem dropPrefix?_append (lead cs : List Char) : (lead ++ cs).dropPrefix? lead = some cs :=
  List.dropPrefix?_eq_some_iff.2 ⟨lead, rfl, BEq.rfl⟩

/-- The characters of items with a comma and a space between them. -/
def commaChars (items : List (List Char)) : List Char :=
  List.intercalate [',', ' '] items

theorem toList_commaSeparated (texts : List String) :
    (commaSeparated texts).toList = commaChars (texts.map String.toList) :=
  String.toList_intercalate

/-- Items between commas. -/
theorem spelled_items (items : List (List Char × List Token)) (hne : items ≠ [])
    (hitems : ∀ item ∈ items, Spelled item.1 item.2) :
    Spelled (commaChars (items.map Prod.fst)) (commaTokens (items.map Prod.snd)) := by
  induction items with
  | nil => exact absurd rfl hne
  | cons item items ih =>
      have hitem := hitems item List.mem_cons_self
      cases items with
      | nil => simpa [commaChars] using hitem
      | cons next items =>
          have hrest := ih (by simp) fun item h => hitems item (List.mem_cons_of_mem _ h)
          have hcomma := hrest.after_space.after_lone (m := .comma) rfl (by decide)
          have hjoined := hitem.before_lone hcomma (by decide) (whole_of_head (by simp))
          simpa [commaChars, commaTokens_cons_cons] using hjoined

/-- Names between commas. -/
theorem spelled_names {names : List Identifier} (hne : names ≠ []) :
    Spelled (commaSeparated (names.map Identifier.text)).toList
      (commaTokens (names.map fun name => [.name name])) := by
  have hnames := spelled_items (names.map fun name => (name.text.toList, [.name name]))
    (by simpa using hne) (by
      intro item hitem
      obtain ⟨name, -, rfl⟩ := List.mem_map.1 hitem
      exact spelled_name name)
  simpa [toList_commaSeparated, Function.comp_def] using hnames

/-- Items between brackets. -/
theorem spelled_brackets (items : List (List Char × List Token))
    (hitems : ∀ item ∈ items, Spelled item.1 item.2) (left right : Mark) {x y : Char}
    (hleft : left.chars = [x]) (hright : right.chars = [y]) (hx : x ∈ loneSigns)
    (hy : y ∈ loneSigns) (hpoint : y ≠ '.') :
    Spelled (x :: (commaChars (items.map Prod.fst) ++ [y]))
      (.mark left :: (commaTokens (items.map Prod.snd) ++ [.mark right])) := by
  have hclose := spelled_mark right
  rw [hright] at hclose
  by_cases hne : items = []
  · subst hne
    exact hclose.after_lone hleft hx
  · have hinner := (spelled_items items hne hitems).before_lone hclose hy
      (whole_of_head (by simpa using hpoint))
    exact hinner.after_lone hleft hx

/-! ### Colons and equals signs -/

theorem glued_colon_right (x : Char) : glued x ':' = false := by
  have hword := isWordChar_sign ':' (by decide)
  simp [glued, pairedSigns, hword, Char.isDigit]

theorem glued_colon_left {y : Char} (h : y ≠ '=') : glued ':' y = false := by
  have hword := isWordChar_sign ':' (by decide)
  simp [glued, pairedSigns, hword, h]

/-- A spelling goes before what begins with a colon. -/
theorem Spelled.before_colon {cs ds : List Char} {tokens others : List Token}
    (h : Spelled cs tokens) (h' : Spelled (':' :: ds) others) :
    Spelled (cs ++ ':' :: ds) (tokens ++ others) := by
  refine ⟨?_, by simp, by simp [h.tokens_ne_nil]⟩
  refine h.spells.append h'.spells h'.ne_nil h'.tokens_ne_nil ?_ (whole_of_head (by simp))
  intro x _ y hy
  simp only [List.head?_cons, Option.mem_def, Option.some.injEq] at hy
  subst hy
  exact glued_colon_right x

/-- A colon goes before a spelling that does not begin with an equals sign. -/
theorem Spelled.after_colon {cs : List Char} {tokens : List Token} (h : Spelled cs tokens)
    (hhead : cs.head? ≠ some '=') : Spelled (':' :: cs) (.mark .colon :: tokens) := by
  refine h.after_sign rfl fun x hx y hy => ?_
  simp only [List.getLast?_singleton, Option.mem_def, Option.some.injEq] at hx
  subst hx
  exact glued_colon_left fun h => hhead (h ▸ hy)

/-- A colon and a space go between spellings. -/
theorem Spelled.colon {cs ds : List Char} {tokens others : List Token} (h : Spelled cs tokens)
    (h' : Spelled ds others) :
    Spelled (cs ++ ':' :: ' ' :: ds) (tokens ++ .mark .colon :: others) :=
  h.before_colon ((spelled_mark .colon).spaced h')

theorem glued_equals_left {y : Char} (h : y ≠ '=') : glued '=' y = false := by
  have hword := isWordChar_sign '=' (by decide)
  simp [glued, pairedSigns, hword, h]

theorem glued_equals_right {x : Char} (h : isWordChar x = true) : glued x '=' = false := by
  have hword := isWordChar_sign '=' (by decide)
  have hsigns : ∀ sign ∈ ['<', '>', '=', '!', ':'], x ≠ sign := by
    rintro sign hsign rfl
    rw [isWordChar_sign x (List.mem_append_right _ hsign)] at h
    cases h
  simp only [List.mem_cons, List.not_mem_nil, or_false, forall_eq_or_imp, forall_eq] at hsigns
  simp [glued, pairedSigns, hword, hsigns, Char.isDigit]

/-- A name and an equals sign go before a spelling that does not begin with one. -/
theorem Spelled.named {cs : List Char} {tokens : List Token} (h : Spelled cs tokens)
    (hhead : cs.head? ≠ some '=') (name : Identifier) :
    Spelled (name.text.toList ++ '=' :: cs) (.name name :: .mark .equals :: tokens) := by
  obtain ⟨hne, hword⟩ := name.isWordChar_of_mem
  have hvalue : Spelled ('=' :: cs) (.mark .equals :: tokens) := by
    refine h.after_sign rfl fun x hx y hy => ?_
    simp only [List.getLast?_singleton, Option.mem_def, Option.some.injEq] at hx
    subst hx
    exact glued_equals_left fun h => hhead (h ▸ hy)
  refine ⟨?_, by simp, by simp⟩
  refine (spells_name name).append hvalue.spells (by simp) (by simp) ?_ (whole_of_head (by simp))
  intro x hx y hy
  simp only [List.head?_cons, Option.mem_def, Option.some.injEq] at hy
  subst hy
  exact glued_equals_right (hword x (List.mem_of_getLast? hx))

/-! ### Operators -/

theorem spelled_binaryOp (op : BinaryOp) : Spelled op.text.toList (op.marks.map .mark) := by
  by_cases hmember : op = .notMember
  · subst hmember
    exact (spelled_mark .notWord).spaced (spelled_mark .inWord)
  by_cases hsame : op = .notSame
  · subst hsame
    exact (spelled_mark .isWord).spaced (spelled_mark .notWord)
  have hmark : ∃ m, op.marks = [m] ∧ op.text.toList = m.chars := by
    cases op <;> first | exact ⟨_, rfl, rfl⟩ | contradiction
  obtain ⟨m, hmarks, htext⟩ := hmark
  rw [hmarks, htext]
  exact spelled_mark m

theorem spelled_standaloneOp {op : UnaryOp} (h : op.isStandalone = true) :
    Spelled op.text.toList (op.standaloneMarks.map .mark) := by
  cases op with
  | starred => exact spelled_mark .star
  | doubleStarred => exact spelled_mark .doubleStar
  | yield => exact spelled_mark .yieldWord
  | yieldFrom => exact (spelled_mark .yieldWord).spaced (spelled_mark .fromWord)
  | await | positive | negative | bitNot | boolNot => cases h

/-- The text of an operator that does not stand alone is the spelling of a mark. -/
theorem UnaryOp.exists_mark {op : UnaryOp} (h : op.isStandalone = false) :
    ∃ m : Mark, m.prefixOp? = some op ∧ op.text.toList = m.chars := by
  cases op with
  | await => exact ⟨.awaitWord, rfl, rfl⟩
  | positive => exact ⟨.plus, rfl, rfl⟩
  | negative => exact ⟨.minus, rfl, rfl⟩
  | bitNot => exact ⟨.tilde, rfl, rfl⟩
  | boolNot => exact ⟨.notWord, rfl, rfl⟩
  | _ => cases h

end Unparse
