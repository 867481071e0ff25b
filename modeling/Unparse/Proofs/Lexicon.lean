import Unparse.Proofs.Reader
import Unparse.Proofs.Spelling

/-!
Lexicons. Around expressions stand words that are in none of them, so a text with such words has more
tokens than an expression has. What spells an expression spells it there too, and the expressions are
read one by one from the runs of their tokens between those words.
-/

namespace Unparse

/-- Tokens that those of expressions are among, and what pieces of a line are such tokens. -/
structure Lexicon (τ : Type) where
  plain : Token → τ
  plain? : τ → Option Token
  plain?_eq_some_iff : ∀ {t : τ} {u : Token}, plain? t = some u ↔ t = plain u
  ofPiece? : List Char → Option τ
  ofPiece?_of_token : ∀ {piece : List Char} {u : Token}, Token.ofPiece? piece = some u →
    ofPiece? piece = some (plain u)

/-- A piece that is one of these words, or a token of an expression. -/
def wordOrToken {τ : Type} (plain : Token → τ) (words : List (List Char × τ)) (piece : List Char) :
    Option τ :=
  (words.lookup piece).or ((Token.ofPiece? piece).map plain)

theorem wordOrToken_of_token {τ : Type} {plain : Token → τ} {words : List (List Char × τ)}
    (h : ∀ word ∈ words, Token.ofPiece? word.1 = none) {piece : List Char} {u : Token}
    (hpiece : Token.ofPiece? piece = some u) : wordOrToken plain words piece = some (plain u) := by
  have hword : words.lookup piece = none := by
    rw [List.lookup_eq_none_iff]
    intro word hmem
    rw [bne_iff_ne]
    rintro rfl
    cases (h word hmem).symm.trans hpiece
  rw [wordOrToken, hword, Option.none_or, hpiece, Option.map_some]

namespace Lexicon

variable {τ : Type} (lex : Lexicon τ)

/-! ### Tokens -/

theorem plain?_plain (u : Token) : lex.plain? (lex.plain u) = some u :=
  lex.plain?_eq_some_iff.2 rfl

def isNumber (t : τ) : Bool :=
  (lex.plain? t).any Token.isNumber

theorem isNumber_plain (u : Token) : lex.isNumber (lex.plain u) = u.isNumber := by
  rw [isNumber, plain?_plain, Option.any_some]

/-- The tokens of a line in pieces; there are none where a point stands right after a number. -/
def ofPieces : List (List Char) → Option (List τ)
  | [] => some []
  | piece :: rest =>
    if piece = [' '] then ofPieces rest
    else
      match lex.ofPiece? piece with
      | none => none
      | some token =>
        if lex.isNumber token && rest.head? == some ['.'] then none
        else (ofPieces rest).map (token :: ·)

def scanChars (cs : List Char) : Option (List τ) :=
  lex.ofPieces (cs.splitBy glued)

def scan (text : String) : Option (List τ) :=
  lex.scanChars text.toList

/-- Pieces that are tokens of expressions are the same tokens here, whatever is read after them but a
point. -/
theorem ofPieces_append {pieces more : List (List Char)} (hmore : more.head? ≠ some ['.'])
    {tokens : List Token} (h : Token.ofPieces pieces = some tokens) :
    lex.ofPieces (pieces ++ more) = (lex.ofPieces more).map (tokens.map lex.plain ++ ·) := by
  induction pieces generalizing tokens with
  | nil =>
      cases h
      simp
  | cons piece pieces ih =>
      rw [Token.ofPieces] at h
      rw [List.cons_append, ofPieces]
      by_cases hblank : piece = [' ']
      · rw [if_pos hblank] at h ⊢
        exact ih h
      · rw [if_neg hblank] at h ⊢
        cases hpiece : Token.ofPiece? piece with
        | none => simp [hpiece] at h
        | some u =>
            simp only [hpiece] at h
            simp only [lex.ofPiece?_of_token hpiece, lex.isNumber_plain]
            by_cases hpoint : (u.isNumber && pieces.head? == some ['.']) = true
            · rw [if_pos hpoint] at h
              cases h
            · rw [if_neg hpoint] at h
              obtain ⟨others, hothers, rfl⟩ := Option.map_eq_some_iff.1 h
              have hpoint' : ¬ (u.isNumber && (pieces ++ more).head? == some ['.']) = true := by
                cases pieces with
                | nil => simp [hmore]
                | cons next pieces => exact hpoint
              rw [if_neg hpoint', ih hothers, Option.map_map]
              rfl

/-! ### Spellings -/

/-- The signs that a run of tokens is complete before. -/
def stops : List Char :=
  [' ', ',', ':']

/-- Characters are read as these tokens wherever such a sign follows, or nothing. -/
def Spells (cs : List Char) (tokens : List τ) : Prop :=
  ∀ rest, (∀ c ∈ rest.head?, c ∈ stops) →
    lex.scanChars (cs ++ rest) = (lex.scanChars rest).map (tokens ++ ·)

theorem apart_stop {rest : List Char} (hrest : ∀ c ∈ rest.head?, c ∈ stops) (cs : List Char) :
    Apart cs rest := by
  intro x _ y hy
  have hstop := hrest y hy
  simp only [stops, List.mem_cons, List.not_mem_nil, or_false] at hstop
  rcases hstop with rfl | rfl | rfl
  · exact glued_lone_right x (by decide)
  · exact glued_lone_right x (by decide)
  · exact glued_colon_right x

theorem scanChars_space (cs : List Char) : lex.scanChars (' ' :: cs) = lex.scanChars cs := by
  rw [scanChars, splitBy_space, ofPieces, if_pos rfl, scanChars]

variable {lex}

/-- What spells tokens of an expression spells them here. -/
theorem spells_plain {cs : List Char} {tokens : List Token} (h : Unparse.Spells cs tokens) :
    lex.Spells cs (tokens.map lex.plain) := by
  intro rest hrest
  have hmore : (rest.splitBy glued).head? ≠ some ['.'] := by
    intro hpoint
    exact absurd (hrest '.' (head?_splitBy hpoint)) (by decide)
  rw [scanChars, List.splitBy_append (apart_stop hrest cs)]
  exact lex.ofPieces_append hmore h.scanChars_eq

theorem spells_mark (m : Mark) : lex.Spells m.chars [lex.plain (.mark m)] :=
  spells_plain (Unparse.spells_mark m)

/-- A piece that is a token by itself spells it, unless it is a number. -/
theorem spells_word {cs : List Char} {token : τ} (hne : cs ≠ []) (hblank : cs ≠ [' '])
    (hchain : cs.IsChain fun a b => glued a b = true) (htoken : lex.ofPiece? cs = some token)
    (hnumber : lex.isNumber token = false) : lex.Spells cs [token] := by
  intro rest hrest
  rw [scanChars, splitBy_piece hne hchain (apart_stop hrest cs), ofPieces, if_neg hblank]
  simp only [htoken, hnumber, Bool.false_and, Bool.false_eq_true, if_false]
  rfl

namespace Spells

variable {cs ds : List Char} {tokens others : List τ}

theorem after_space (h : lex.Spells cs tokens) : lex.Spells (' ' :: cs) tokens := by
  intro rest hrest
  rw [List.cons_append, scanChars_space, h rest hrest]

/-- A spelling goes before one that begins with such a sign. -/
theorem append (h : lex.Spells cs tokens) (h' : lex.Spells ds others)
    (hhead : ∀ c ∈ ds.head?, c ∈ stops) : lex.Spells (cs ++ ds) (tokens ++ others) := by
  intro rest hrest
  have hstop : ∀ c ∈ (ds ++ rest).head?, c ∈ stops := by
    cases ds with
    | nil => exact hrest
    | cons d ds => exact hhead
  rw [List.append_assoc, h _ hstop, h' rest hrest, Option.map_map]
  congr 1
  funext ts
  simp

/-- With a space in between, spellings follow one another. -/
theorem spaced (h : lex.Spells cs tokens) (h' : lex.Spells ds others) :
    lex.Spells (cs ++ ' ' :: ds) (tokens ++ others) :=
  h.append h'.after_space (by simp [stops])

/-- A comma and a space go between spellings. -/
theorem comma (h : lex.Spells cs tokens) (h' : lex.Spells ds others) :
    lex.Spells (cs ++ ',' :: ' ' :: ds) (tokens ++ lex.plain (.mark .comma) :: others) :=
  h.append ((spells_mark .comma).spaced h') (by simp [stops])

theorem scanChars_eq (h : lex.Spells cs tokens) : lex.scanChars cs = some tokens := by
  have hread := h [] (by simp)
  simpa [scanChars, ofPieces] using hread

end Spells

/-! ### Expressions in between -/

variable (lex)

/-- The tokens of expressions that come first, and all tokens after them. -/
def span : List τ → List Token × List τ
  | [] => ([], [])
  | t :: rest =>
    match lex.plain? t with
    | some u => (u :: (span rest).1, (span rest).2)
    | none => ([], t :: rest)

/-- An expression whose rank is below the limit, and the tokens after it. -/
def readPart (limit : Nat) (tokens : List τ) : Option (Expr × List τ) := do
  let (ts, rest) := lex.span tokens
  let (e, unread) ← readExpr (3 * ts.length + 1) limit ts
  return (e, unread.map lex.plain ++ rest)

theorem span_plain_cons (u : Token) (rest : List τ) :
    lex.span (lex.plain u :: rest) = (u :: (lex.span rest).1, (lex.span rest).2) := by
  simp only [span, plain?_plain]

theorem span_append (ts : List Token) (rest : List τ) :
    lex.span (ts.map lex.plain ++ rest) = (ts ++ (lex.span rest).1, (lex.span rest).2) := by
  induction ts with
  | nil => rfl
  | cons t ts ih => rw [List.map_cons, List.cons_append, span_plain_cons, ih, List.cons_append]

theorem map_span (tokens : List τ) :
    (lex.span tokens).1.map lex.plain ++ (lex.span tokens).2 = tokens := by
  induction tokens with
  | nil => rfl
  | cons t tokens ih =>
      cases ht : lex.plain? t with
      | some u =>
          obtain rfl := lex.plain?_eq_some_iff.1 ht
          rw [span_plain_cons, List.map_cons, List.cons_append, ih]
      | none =>
          simp only [span, ht]
          rfl

/-- What the grammar derives is read as far as it goes when what follows binds no more tightly than
the limit. -/
theorem readPart_eq {l : Level} {ts : List Token} {e : Expr} (h : Reads l ts e) {limit : Nat}
    (hlevel : l.rank < limit) {rest : List τ} (hstop : limit ≤ followRank (lex.span rest).1) :
    lex.readPart limit (ts.map lex.plain ++ rest) = some (e, rest) := by
  have hread := h.readsFully limit (lex.span rest).1 (3 * (ts ++ (lex.span rest).1).length + 1)
    hlevel hstop (by rw [List.length_append]; omega)
  rw [readPart, span_append]
  simp only [hread, Option.bind_eq_bind, Option.bind_some, map_span]
  rfl

end Lexicon

end Unparse
