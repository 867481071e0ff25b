import Unparse.Proofs.Lexicon

/-!
Tokens of comprehensions. Two words stand between the expressions of a comprehension and in none of
them; all other tokens are those of expressions. So what spells an expression spells it here too, as
far as the next space.
-/

namespace Unparse

/-! ### Tokens -/

/-- A token of an expression, or a word that a clause begins with. -/
inductive ClauseToken where
  | plain (token : Token)
  | forWord
  | asyncWord
  deriving DecidableEq

namespace ClauseToken

/-- The characters of the word before the targets of a clause. -/
def forChars : List Char :=
  ['f', 'o', 'r']

/-- The characters of the word before a clause that waits. -/
def asyncChars : List Char :=
  ['a', 's', 'y', 'n', 'c']

/-- The token that a piece of a line is. -/
def ofPiece? (cs : List Char) : Option ClauseToken :=
  if cs = forChars then some .forWord
  else if cs = asyncChars then some .asyncWord
  else (Token.ofPiece? cs).map .plain

def isNumber : ClauseToken → Bool
  | .plain token => token.isNumber
  | .forWord | .asyncWord => false

/-- The tokens of a line in pieces; there are none where a point stands right after a number. -/
def ofPieces : List (List Char) → Option (List ClauseToken)
  | [] => some []
  | piece :: rest =>
    if piece = [' '] then ofPieces rest
    else
      match ofPiece? piece with
      | none => none
      | some token =>
        if token.isNumber && rest.head? == some ['.'] then none
        else (ofPieces rest).map (token :: ·)

def scanChars (cs : List Char) : Option (List ClauseToken) :=
  ofPieces (cs.splitBy glued)

def scan (text : String) : Option (List ClauseToken) :=
  scanChars text.toList

/-! ### Pieces of expressions -/

theorem ofPiece?_of_token {piece : List Char} {t : Token} (h : Token.ofPiece? piece = some t) :
    ofPiece? piece = some (.plain t) := by
  have hfor : Token.ofPiece? forChars = none := by decide
  have hasync : Token.ofPiece? asyncChars = none := by decide
  rw [ofPiece?, if_neg, if_neg, h, Option.map_some]
  · rintro rfl
    cases hasync.symm.trans h
  · rintro rfl
    cases hfor.symm.trans h

/-- The tokens of expressions among those of comprehensions. -/
def lexicon : Lexicon ClauseToken where
  plain := .plain
  plain?
    | .plain token => some token
    | .forWord | .asyncWord => none
  plain?_eq_some_iff {t u} := by cases t <;> simp
  ofPiece? := ofPiece?
  ofPiece?_of_token := ofPiece?_of_token

theorem ofPieces_eq_lexicon (pieces : List (List Char)) :
    ofPieces pieces = lexicon.ofPieces pieces := by
  have hnumber (t : ClauseToken) : t.isNumber = lexicon.isNumber t := by cases t <;> rfl
  induction pieces with
  | nil => rfl
  | cons piece pieces ih =>
      have hpiece : lexicon.ofPiece? piece = ofPiece? piece := rfl
      rw [ofPieces, Lexicon.ofPieces, ih, hpiece]
      cases ofPiece? piece with
      | none => rfl
      | some t => simp only [hnumber]

/-! ### Spellings -/

/-- A space in front adds nothing. -/
theorem scanChars_space (cs : List Char) : scanChars (' ' :: cs) = scanChars cs := by
  rw [scanChars, splitBy_space, ofPieces, if_pos rfl, scanChars]

/-- Characters are read as these tokens wherever a space follows, or nothing. -/
def Spells (cs : List Char) (tokens : List ClauseToken) : Prop :=
  ∀ rest, (∀ c ∈ rest.head?, c = ' ') →
    scanChars (cs ++ rest) = (scanChars rest).map (tokens ++ ·)

theorem apart_space {rest : List Char} (hrest : ∀ c ∈ rest.head?, c = ' ') (cs : List Char) :
    Apart cs rest := by
  intro x _ y hy
  rw [hrest y hy]
  exact glued_lone_right x (by decide)

/-- What spells tokens of an expression spells them here. -/
theorem spells_plain {cs : List Char} {tokens : List Token} (h : Unparse.Spells cs tokens) :
    Spells cs (tokens.map .plain) := by
  intro rest hrest
  have hmore : (rest.splitBy glued).head? ≠ some ['.'] := by
    intro hpoint
    exact absurd (hrest '.' (head?_splitBy hpoint)) (by decide)
  rw [scanChars, scanChars, ofPieces_eq_lexicon, ofPieces_eq_lexicon,
    List.splitBy_append (apart_space hrest cs)]
  exact lexicon.ofPieces_append hmore h.scanChars_eq

/-- A piece that is a token by itself spells it. -/
theorem spells_word {cs : List Char} {token : ClauseToken} (hne : cs ≠ []) (hblank : cs ≠ [' '])
    (hchain : cs.IsChain fun a b => glued a b = true) (htoken : ofPiece? cs = some token)
    (hnumber : token.isNumber = false) : Spells cs [token] := by
  intro rest hrest
  rw [scanChars, splitBy_piece hne hchain (apart_space hrest cs), ofPieces, if_neg hblank]
  simp only [htoken, hnumber, Bool.false_and, Bool.false_eq_true, if_false]
  rfl

theorem spells_forWord : Spells forChars [.forWord] :=
  spells_word (by decide) (by decide) (by decide) rfl rfl

theorem spells_asyncWord : Spells asyncChars [.asyncWord] :=
  spells_word (by decide) (by decide) (by decide) rfl rfl

namespace Spells

variable {cs ds : List Char} {tokens others : List ClauseToken}

/-- With a space in between, spellings follow one another. -/
theorem spaced (h : Spells cs tokens) (h' : Spells ds others) :
    Spells (cs ++ ' ' :: ds) (tokens ++ others) := by
  intro rest hrest
  have hspace : ∀ c ∈ (' ' :: (ds ++ rest)).head?, c = ' ' := by simp
  rw [List.append_assoc, List.cons_append, h _ hspace, scanChars_space, h' rest hrest, Option.map_map]
  congr 1
  funext ts
  simp

theorem scanChars_eq (h : Spells cs tokens) : scanChars cs = some tokens := by
  have hread := h [] (by simp)
  simpa [scanChars, ofPieces] using hread

end Spells

end ClauseToken

end Unparse
