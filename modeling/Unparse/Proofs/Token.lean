import Mathlib.Data.List.SplitBy
import Unparse.Identifier
import Unparse.Number.Decimal
import Unparse.Operator

/-!
Tokens: the words, numbers and signs that a line of source consists of. A line is cut wherever two
neighbouring characters do not hold together, each piece that is not a space is a token, and a piece
that is none makes the whole line unreadable. A minus sign holds together with a digit after it, so
`- 1` is a sign and a number while `-1` is one number.
-/

namespace Unparse

/-! ### Marks -/

/-- The signs and reserved words that expressions are put together with. -/
inductive Mark where
  | openRound
  | closeRound
  | openSquare
  | closeSquare
  | comma
  | point
  | colon
  | becomes
  | equals
  | lambdaWord
  | ifWord
  | elseWord
  | awaitWord
  | yieldWord
  | fromWord
  | notWord
  | inWord
  | isWord
  | andWord
  | orWord
  | plus
  | minus
  | tilde
  | star
  | doubleStar
  | slash
  | doubleSlash
  | percent
  | at
  | shiftLeft
  | shiftRight
  | ampersand
  | caret
  | bar
  | less
  | lessEqual
  | greater
  | greaterEqual
  | equal
  | notEqual
  deriving DecidableEq

namespace Mark

def all : List Mark :=
  [.openRound, .closeRound, .openSquare, .closeSquare, .comma, .point, .colon, .becomes, .equals,
    .lambdaWord, .ifWord, .elseWord, .awaitWord, .yieldWord, .fromWord, .notWord, .inWord, .isWord,
    .andWord, .orWord, .plus, .minus, .tilde, .star, .doubleStar, .slash, .doubleSlash, .percent, .at,
    .shiftLeft, .shiftRight, .ampersand, .caret, .bar, .less, .lessEqual, .greater, .greaterEqual,
    .equal, .notEqual]

def chars : Mark → List Char
  | .openRound => ['(']
  | .closeRound => [')']
  | .openSquare => ['[']
  | .closeSquare => [']']
  | .comma => [',']
  | .point => ['.']
  | .colon => [':']
  | .becomes => [':', '=']
  | .equals => ['=']
  | .lambdaWord => ['l', 'a', 'm', 'b', 'd', 'a']
  | .ifWord => ['i', 'f']
  | .elseWord => ['e', 'l', 's', 'e']
  | .awaitWord => ['a', 'w', 'a', 'i', 't']
  | .yieldWord => ['y', 'i', 'e', 'l', 'd']
  | .fromWord => ['f', 'r', 'o', 'm']
  | .notWord => ['n', 'o', 't']
  | .inWord => ['i', 'n']
  | .isWord => ['i', 's']
  | .andWord => ['a', 'n', 'd']
  | .orWord => ['o', 'r']
  | .plus => ['+']
  | .minus => ['-']
  | .tilde => ['~']
  | .star => ['*']
  | .doubleStar => ['*', '*']
  | .slash => ['/']
  | .doubleSlash => ['/', '/']
  | .percent => ['%']
  | .at => ['@']
  | .shiftLeft => ['<', '<']
  | .shiftRight => ['>', '>']
  | .ampersand => ['&']
  | .caret => ['^']
  | .bar => ['|']
  | .less => ['<']
  | .lessEqual => ['<', '=']
  | .greater => ['>']
  | .greaterEqual => ['>', '=']
  | .equal => ['=', '=']
  | .notEqual => ['!', '=']

/-- The mark with this very spelling. -/
def ofChars? (cs : List Char) : Option Mark :=
  all.find? fun m => m.chars == cs

end Mark

/-- The marks of a binary operator; two of them are a pair of words. -/
def BinaryOp.marks : BinaryOp → List Mark
  | .add => [.plus]
  | .sub => [.minus]
  | .mul => [.star]
  | .div => [.slash]
  | .floorDiv => [.doubleSlash]
  | .mod => [.percent]
  | .pow => [.doubleStar]
  | .matMul => [.at]
  | .shiftLeft => [.shiftLeft]
  | .shiftRight => [.shiftRight]
  | .member => [.inWord]
  | .notMember => [.notWord, .inWord]
  | .same => [.isWord]
  | .notSame => [.isWord, .notWord]
  | .less => [.less]
  | .lessEqual => [.lessEqual]
  | .greater => [.greater]
  | .greaterEqual => [.greaterEqual]
  | .equal => [.equal]
  | .notEqual => [.notEqual]
  | .bitAnd => [.ampersand]
  | .bitXor => [.caret]
  | .bitOr => [.bar]
  | .boolAnd => [.andWord]
  | .boolOr => [.orWord]

/-! ### Tokens -/

/-- A name, an integer with the minus sign that is glued to it, or a mark. -/
inductive Token where
  | name (name : Identifier)
  | number (value : Int)
  | mark (mark : Mark)
  deriving DecidableEq

/-- The characters of words: those that begin one and those that go on with it. -/
def isWordChar (c : Char) : Bool :=
  isWordStart c || isWordContinue c

def pairedSigns : List (Char × Char) :=
  [('*', '*'), ('/', '/'), ('<', '<'), ('>', '>'), ('<', '='), ('>', '='), ('=', '='), ('!', '='),
    (':', '=')]

/-- Whether two neighbouring characters belong to one token. -/
def glued (a b : Char) : Bool :=
  pairedSigns.contains (a, b) || a == '-' && b.isDigit || isWordChar a && isWordChar b

/-- The integer with this very text. -/
def integer? (cs : List Char) : Option Int :=
  let value : Int :=
    if cs.head? = some '-' then -Nat.ofDigitChars 10 cs.tail 0 else Nat.ofDigitChars 10 cs 0
  if (integerText value).toList = cs then some value else none

namespace Token

/-- The token that a piece of a line is. -/
def ofPiece? (cs : List Char) : Option Token :=
  match Identifier.ofText (String.ofList cs) with
  | .ok word => some (.name word)
  | .error _ => ((integer? cs).map .number).or ((Mark.ofChars? cs).map .mark)

def isNumber : Token → Bool
  | .number _ => true
  | _ => false

/-- The tokens of a line in pieces. A point right after a number would be read as part of it, so
there are none then. -/
def ofPieces : List (List Char) → Option (List Token)
  | [] => some []
  | piece :: rest =>
    if piece = [' '] then ofPieces rest
    else
      match ofPiece? piece with
      | none => none
      | some token =>
        if token.isNumber && rest.head? == some ['.'] then none
        else (ofPieces rest).map (token :: ·)

end Token

def scanChars (cs : List Char) : Option (List Token) :=
  Token.ofPieces (cs.splitBy glued)

def scan (text : String) : Option (List Token) :=
  scanChars text.toList

end Unparse
