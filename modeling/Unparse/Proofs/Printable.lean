import Unparse.Literal
import Unparse.Text.Visible

/-!
String literals and `repr`. Both choose the quotes and the escapes in the same way, but `repr` asks
which characters are printable, while a literal escapes those that would disturb its line. They part
on the characters without a shape that neither control a line nor leave a blank on it.
-/

namespace Unparse

/-! ### Printable characters -/

/-- A set of characters is part of another when each of its ranges is part of one range there. -/
def CodeRanges.Within (inner outer : CodeRanges) : Prop :=
  ∀ range ∈ inner, ∃ wider ∈ outer, wider.1 ≤ range.1 ∧ range.2 ≤ wider.2

instance (inner outer : CodeRanges) : Decidable (inner.Within outer) :=
  inferInstanceAs (Decidable (∀ range ∈ inner, ∃ wider ∈ outer, _))

theorem CodeRanges.Within.holds {inner outer : CodeRanges} (h : inner.Within outer) {c : Char}
    (hc : inner.holds c = true) : outer.holds c = true := by
  obtain ⟨range, hrange, hlow, hhigh⟩ := holds_iff.1 hc
  obtain ⟨wider, hwider, hfrom, hto⟩ := h range hrange
  exact holds_iff.2 ⟨wider, hwider, Nat.le_trans hfrom hlow, Nat.le_trans hhigh hto⟩

/-- The characters that Unicode 15.1, 16.0 and 17.0 added. No older character became printable with
them, and none ceased to be. -/
def addedSince15 : CodeRanges := [
  (0x88F, 0x88F), (0x897, 0x897), (0xC5C, 0xC5C), (0xCDC, 0xCDC), (0x1ACF, 0x1ADD),
  (0x1AE0, 0x1AEB), (0x1B4E, 0x1B4F), (0x1B7F, 0x1B7F), (0x1C89, 0x1C8A), (0x20C1, 0x20C1),
  (0x2427, 0x2429), (0x2B96, 0x2B96), (0x2FFC, 0x2FFF), (0x31E4, 0x31E5), (0x31EF, 0x31EF),
  (0xA7CB, 0xA7CF), (0xA7D2, 0xA7D2), (0xA7D4, 0xA7D4), (0xA7DA, 0xA7DC), (0xA7F1, 0xA7F1),
  (0xFBC3, 0xFBD2), (0xFD90, 0xFD91), (0xFDC8, 0xFDCE), (0x105C0, 0x105F3), (0x10940, 0x10959),
  (0x10D40, 0x10D65), (0x10D69, 0x10D85), (0x10D8E, 0x10D8F), (0x10EC2, 0x10EC7),
  (0x10ED0, 0x10ED8), (0x10EFA, 0x10EFC), (0x11380, 0x11389), (0x1138B, 0x1138B),
  (0x1138E, 0x1138E), (0x11390, 0x113B5), (0x113B7, 0x113C0), (0x113C2, 0x113C2),
  (0x113C5, 0x113C5), (0x113C7, 0x113CA), (0x113CC, 0x113D5), (0x113D7, 0x113D8),
  (0x113E1, 0x113E2), (0x116D0, 0x116E3), (0x11B60, 0x11B67), (0x11BC0, 0x11BE1),
  (0x11BF0, 0x11BF9), (0x11DB0, 0x11DDB), (0x11DE0, 0x11DE9), (0x11F5A, 0x11F5A),
  (0x13460, 0x143FA), (0x16100, 0x16139), (0x16D40, 0x16D79), (0x16EA0, 0x16EB8),
  (0x16EBB, 0x16ED3), (0x16FF2, 0x16FF6), (0x187F8, 0x187FF), (0x18CFF, 0x18CFF),
  (0x18D09, 0x18D1E), (0x18D80, 0x18DF2), (0x1CC00, 0x1CCFC), (0x1CD00, 0x1CEB3),
  (0x1CEBA, 0x1CED0), (0x1CEE0, 0x1CEF0), (0x1E5D0, 0x1E5FA), (0x1E5FF, 0x1E5FF),
  (0x1E6C0, 0x1E6DE), (0x1E6E0, 0x1E6F5), (0x1E6FE, 0x1E6FF), (0x1F6D8, 0x1F6D8),
  (0x1F777, 0x1F77A), (0x1F8B2, 0x1F8BB), (0x1F8C0, 0x1F8C1), (0x1F8D0, 0x1F8D8),
  (0x1FA54, 0x1FA57), (0x1FA89, 0x1FA8A), (0x1FA8E, 0x1FA8F), (0x1FABE, 0x1FABE),
  (0x1FAC6, 0x1FAC6), (0x1FAC8, 0x1FAC8), (0x1FACD, 0x1FACD), (0x1FADC, 0x1FADC),
  (0x1FADF, 0x1FADF), (0x1FAE9, 0x1FAEA), (0x1FAEF, 0x1FAEF), (0x1FBCB, 0x1FBEF),
  (0x1FBFA, 0x1FBFA), (0x2B73A, 0x2B73F), (0x2CEA2, 0x2CEAD), (0x2EBF0, 0x2EE5D),
  (0x323B0, 0x33479)]

-- The three versions added 627, 5185 and 4803 characters.
example : (addedSince15.map fun range => range.2 + 1 - range.1).sum = 627 + 5185 + 4803 := by
  decide +kernel

/-- The characters that `str.isprintable` rejects under Unicode 15.0: the categories `Cc`, `Cf`, `Cs`,
`Co`, `Cn`, `Zl`, `Zp` and `Zs`, without the plain space. -/
def isUnprintable (c : Char) : Bool :=
  unprintable.holds c || addedSince15.holds c

theorem isUnprintable_of_isControl {c : Char} (h : isControl c = true) : isUnprintable c = true := by
  have hwithin : control.Within unprintable := by decide +kernel
  exact Bool.or_eq_true_iff.2 (Or.inl (hwithin.holds h))

/-- The plain space is the only blank that is printable. -/
theorem isUnprintable_of_isBlank {c : Char} (h : isBlank c = true) (hc : c ≠ ' ') :
    isUnprintable c = true := by
  have hwithin : CodeRanges.Within (whiteSpace.erase (0x20, 0x20)) unprintable := by decide +kernel
  have hcode : c.toNat ≠ 0x20 := fun hcode => hc (Char.toNat_inj.1 hcode)
  refine Bool.or_eq_true_iff.2 (Or.inl (hwithin.holds ?_))
  obtain ⟨range, hrange, hlow, hhigh⟩ := CodeRanges.holds_iff.1 h
  refine CodeRanges.holds_iff.2 ⟨range, (List.mem_erase_of_ne ?_).2 hrange, hlow, hhigh⟩
  rintro rfl
  exact hcode (Nat.le_antisymm hhigh hlow)

theorem isUnprintable_space : isUnprintable ' ' = false := by
  decide +kernel

/-! ### Escapes by code point -/

/-- The forms of an escape by code point, the shortest first: the letter behind the backslash and the
number of hexadecimal digits. -/
def escapeForms : List (Char × Nat) :=
  [('x', 2), ('u', 4), ('U', 8)]

/-- The escape of a code point in the first form that has room for its digits. -/
def shortestEscape (code : Nat) : List Char :=
  let digits := Nat.toDigits 16 code
  match escapeForms.find? fun form => digits.length ≤ form.2 with
  | some (letter, width) => '\\' :: letter :: digits.leftpad width '0'
  | none => digits

theorem fixedHex_zero (width : Nat) : fixedHex width 0 = List.replicate width '0' := by
  induction width with
  | zero => rfl
  | succ width ih => rw [fixedHex, Nat.zero_div, ih, List.replicate_succ']; rfl

/-- Digits of a fixed width are the digits of the number behind zeros. -/
theorem fixedHex_eq_leftpad {width n : Nat} (h : (Nat.toDigits 16 n).length ≤ width) :
    fixedHex width n = (Nat.toDigits 16 n).leftpad width '0' := by
  induction width generalizing n with
  | zero => exact absurd h (Nat.not_le.2 Nat.length_toDigits_pos)
  | succ width ih =>
      rw [fixedHex]
      by_cases hn : n < 16
      · rw [Nat.toDigits_of_lt_base hn, Nat.div_eq_of_lt hn, Nat.mod_eq_of_lt hn, fixedHex_zero]
        rfl
      · rw [Nat.toDigits_of_base_le (by decide) (Nat.not_lt.1 hn)] at h ⊢
        rw [List.length_append, List.length_singleton, Nat.add_le_add_iff_right] at h
        rw [ih h, List.leftpad, List.leftpad, List.length_append, List.length_singleton,
          Nat.add_sub_add_right, List.append_assoc]

/-- The bounds of the three widths are those of the digits. -/
theorem codeEscape_eq_shortestEscape (c : Char) : codeEscape c = shortestEscape c.toNat := by
  have hfits {width : Nat} (hwidth : 0 < width) :
      (Nat.toDigits 16 c.toNat).length ≤ width ↔ c.toNat < 16 ^ width :=
    Nat.length_toDigits_le_iff (by decide) hwidth
  have hlong : (Nat.toDigits 16 c.toNat).length ≤ 8 :=
    (hfits (by decide)).2 c.val.toNat_lt
  unfold codeEscape shortestEscape escapeForms
  split
  next hbyte =>
    have hshort : (Nat.toDigits 16 c.toNat).length ≤ 2 := (hfits (by decide)).2 hbyte
    simp [hshort, fixedHex_eq_leftpad]
  next hbyte =>
    have hmore : ¬(Nat.toDigits 16 c.toNat).length ≤ 2 := fun h => hbyte ((hfits (by decide)).1 h)
    split
    next hword =>
      have hshort : (Nat.toDigits 16 c.toNat).length ≤ 4 := (hfits (by decide)).2 hword
      simp [hmore, hshort, fixedHex_eq_leftpad]
    next hword =>
      have hmost : ¬(Nat.toDigits 16 c.toNat).length ≤ 4 := fun h => hword ((hfits (by decide)).1 h)
      simp [hmore, hmost, hlong, fixedHex_eq_leftpad]

/-! ### Quoted texts -/

def escapeLetter? : Char → Option Char
  | '\t' => some 't'
  | '\n' => some 'n'
  | '\r' => some 'r'
  | _ => none

theorem isControl_of_escapeLetter? {c letter : Char} (h : escapeLetter? c = some letter) :
    isControl c = true := by
  unfold escapeLetter? at h
  split at h
  · rfl
  · rfl
  · rfl
  · cases h

/-- One character of a `repr` between quotes of the given mark, where `rejects` tells what is not
printable. -/
def reprChar (rejects : Char → Bool) (mark c : Char) : List Char :=
  if c = '\\' ∨ c = mark then ['\\', c]
  else match escapeLetter? c with
    | some letter => ['\\', letter]
    | none => if rejects c then shortestEscape c.toNat else [c]

/-- The mark of a `repr`: single quotes, unless the text has single quotes and no double ones. -/
def reprMark (text : String) : Char :=
  if '\x27' ∈ text.toList ∧ '\x22' ∉ text.toList then '\x22' else '\x27'

/-- The `repr` of a text, where `rejects` tells what is not printable. -/
def reprText (rejects : Char → Bool) (text : String) : String :=
  let mark := reprMark text
  String.ofList (mark :: text.toList.flatMap (reprChar rejects mark) ++ [mark])

theorem quoteMark_eq_reprMark (text : String) : quoteMark text.toList = reprMark text := by
  simp [quoteMark, reprMark]

/-- The characters that a literal escapes by their code points, unless they have a shorter escape. -/
def isDisturbing (c : Char) : Bool :=
  isUnprintable c && (isControl c || isBlank c)

theorem isDisturbing_eq (c : Char) :
    isDisturbing c = (isControl c || isBlank c && c != ' ') := by
  cases hcontrol : isControl c with
  | true => simp [isDisturbing, hcontrol, isUnprintable_of_isControl hcontrol]
  | false =>
      cases hblank : isBlank c with
      | false => simp [isDisturbing, hcontrol, hblank]
      | true =>
          by_cases hspace : c = ' '
          · simp [isDisturbing, hspace, isUnprintable_space]
          · simp [isDisturbing, hblank, hspace, isUnprintable_of_isBlank hblank hspace]

theorem quotedChar_eq_reprChar (mark c : Char) :
    quotedChar mark c = reprChar isDisturbing mark c := by
  unfold quotedChar reprChar
  rw [isDisturbing_eq, codeEscape_eq_shortestEscape]
  by_cases htab : c = '\t'
  · simp [htab, escapeLetter?]
  by_cases hfeed : c = '\n'
  · simp [hfeed, escapeLetter?]
  by_cases hreturn : c = '\r'
  · simp [hreturn, escapeLetter?]
  simp [htab, hfeed, hreturn, escapeLetter?]

theorem text_str_eq_reprText (value : String) :
    (Literal.str value).text = reprText isDisturbing value := by
  have hchar : quotedChar (reprMark value) = reprChar isDisturbing (reprMark value) :=
    funext (quotedChar_eq_reprChar _)
  simp only [Literal.text, quotedString, reprText, quoteMark_eq_reprMark, hchar]

/-! ### Which escapes are missing -/

theorem length_flatMap_le {f g : Char → List Char} {cs : List Char}
    (h : ∀ c ∈ cs, f c = g c ∨ (f c).length < (g c).length) :
    (cs.flatMap f).length ≤ (cs.flatMap g).length := by
  induction cs with
  | nil => exact Nat.le_refl 0
  | cons c cs ih =>
      obtain ⟨hc, hcs⟩ := List.forall_mem_cons.1 h
      have hhead : (f c).length ≤ (g c).length := hc.elim (fun h => h ▸ Nat.le_refl _) Nat.le_of_lt
      simpa using Nat.add_le_add hhead (ih hcs)

/-- Where a shorter piece stands for a character, the whole is shorter and nothing makes up for it. -/
theorem flatMap_eq_flatMap_iff {f g : Char → List Char} {cs : List Char}
    (h : ∀ c ∈ cs, f c = g c ∨ (f c).length < (g c).length) :
    cs.flatMap f = cs.flatMap g ↔ ∀ c ∈ cs, f c = g c := by
  induction cs with
  | nil => simp
  | cons c cs ih =>
      obtain ⟨hc, hcs⟩ := List.forall_mem_cons.1 h
      rw [List.flatMap_cons, List.flatMap_cons, List.forall_mem_cons, ← ih hcs]
      constructor
      · intro heq
        have hlength := congrArg List.length heq
        rw [List.length_append, List.length_append] at hlength
        have hrest := length_flatMap_le hcs
        have hhead : f c = g c := hc.resolve_right (by omega)
        exact ⟨hhead, List.append_cancel_left (hhead ▸ heq)⟩
      · rintro ⟨hhead, hrest⟩
        rw [hhead, hrest]

theorem length_shortestEscape (c : Char) : 1 < (shortestEscape c.toNat).length := by
  rw [← codeEscape_eq_shortestEscape]
  unfold codeEscape
  split
  · simp
  · split <;> simp

/-- A character that is escaped only in one of two ways is shorter in the other. -/
theorem reprChar_eq_or_length_lt {rejects stricter : Char → Bool} (mark : Char) {c : Char}
    (h : rejects c = true → stricter c = true) :
    reprChar rejects mark c = reprChar stricter mark c ∨
      (reprChar rejects mark c).length < (reprChar stricter mark c).length := by
  unfold reprChar
  split
  · exact Or.inl rfl
  split
  · exact Or.inl rfl
  cases hrejects : rejects c with
  | true => simp [h hrejects]
  | false =>
      cases hstricter : stricter c with
      | true => exact Or.inr (length_shortestEscape c)
      | false => exact Or.inl rfl

theorem reprText_eq_reprText_iff {rejects stricter : Char → Bool} {text : String}
    (h : ∀ c, rejects c = true → stricter c = true) :
    reprText rejects text = reprText stricter text ↔
      ∀ c ∈ text.toList, reprChar rejects (reprMark text) c = reprChar stricter (reprMark text) c := by
  rw [← flatMap_eq_flatMap_iff fun c _ => reprChar_eq_or_length_lt _ (h c)]
  simp [reprText, String.ofList_inj]

theorem isUnprintable_backslash : isUnprintable '\\' = false := by
  decide +kernel

theorem isUnprintable_reprMark (text : String) : isUnprintable (reprMark text) = false := by
  unfold reprMark
  split
  · decide +kernel
  · decide +kernel

/-- What is escaped by its code point only in `repr` is neither a quote nor a backslash and has no
letter. -/
theorem reprChar_of_undisturbing (text : String) {c : Char} (hc : isUnprintable c = true)
    (hcontrol : isControl c = false) (hblank : isBlank c = false) :
    reprChar isDisturbing (reprMark text) c = [c] ∧
      reprChar isUnprintable (reprMark text) c = shortestEscape c.toNat := by
  have hquoted : ¬(c = '\\' ∨ c = reprMark text) := by
    rintro (rfl | rfl)
    · rw [isUnprintable_backslash] at hc
      cases hc
    · rw [isUnprintable_reprMark] at hc
      cases hc
  have hletter : escapeLetter? c = none := by
    cases hletter : escapeLetter? c with
    | none => rfl
    | some letter =>
        rw [isControl_of_escapeLetter? hletter] at hcontrol
        cases hcontrol
  simp [reprChar, hquoted, hletter, isDisturbing, hc, hcontrol, hblank]

theorem reprChar_eq_reprChar_iff {text : String} {c : Char} :
    reprChar isDisturbing (reprMark text) c = reprChar isUnprintable (reprMark text) c ↔
      (isUnprintable c = true → isControl c = true ∨ isBlank c = true) := by
  constructor
  · intro heq hc
    refine Decidable.byContradiction fun hundisturbing => ?_
    obtain ⟨hcontrol, hblank⟩ := not_or.1 hundisturbing
    obtain ⟨hplain, hescape⟩ := reprChar_of_undisturbing text hc
      (Bool.eq_false_iff.2 hcontrol) (Bool.eq_false_iff.2 hblank)
    have hlength := length_shortestEscape c
    rw [← hescape, ← heq, hplain] at hlength
    exact absurd hlength (Nat.lt_irrefl 1)
  · intro h
    have hagree : isDisturbing c = isUnprintable c := by
      cases hc : isUnprintable c with
      | true => simpa [isDisturbing, hc] using h hc
      | false => simp [isDisturbing, hc]
    rw [reprChar, reprChar, hagree]

/-- A string literal has the quotes of `repr` and its escapes, but for the characters that are not
printable and neither control characters nor blanks: those stand for themselves. So it is what `repr`
gives exactly when the string has none of them. -/
theorem Literal.text_str_eq_repr_iff (value : String) :
    (Literal.str value).text = reprText isDisturbing value ∧
    ((Literal.str value).text = reprText isUnprintable value ↔
      ∀ c ∈ value.toList, isUnprintable c = true → isControl c = true ∨ isBlank c = true) := by
  have hstricter (c : Char) (hc : isDisturbing c = true) : isUnprintable c = true :=
    (Bool.and_eq_true_iff.1 hc).1
  refine ⟨text_str_eq_reprText value, ?_⟩
  rw [text_str_eq_reprText, reprText_eq_reprText_iff hstricter]
  exact forall₂_congr fun c _ => reprChar_eq_reprChar_iff

example : reprText isUnprintable "it's\t\u00a0" = "\"it's\\t\\xa0\"" := by
  decide +kernel

/-- Not every literal is what `repr` gives: the soft hyphen, a format character, stands for itself. -/
theorem not_forall_text_str_eq_repr :
    (Literal.str "\u00ad").text = "'\u00ad'" ∧ reprText isUnprintable "\u00ad" = "'\\xad'" ∧
    ¬ ∀ value : String, (Literal.str value).text = reprText isUnprintable value := by
  have htext : (Literal.str "\u00ad").text = "'\u00ad'" := by decide +kernel
  have hrepr : reprText isUnprintable "\u00ad" = "'\\xad'" := by decide +kernel
  refine ⟨htext, hrepr, fun hall => ?_⟩
  have hequal := hall "\u00ad"
  rw [htext, hrepr] at hequal
  exact absurd hequal (by decide)

end Unparse
