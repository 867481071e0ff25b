import Unparse.Expr.Basic
import Unparse.Text.FormatText

/-!
The text of an expression. It is read off the tree: the parentheses are nodes, so nothing is decided
here, and every expression has a text.
-/

namespace Unparse

/-- Texts with a comma and a space between them. -/
def commaSeparated (texts : List String) : String :=
  ", ".intercalate texts

/-- The elements of a tuple; a lone element keeps a comma after it. -/
def tupleElements : List String → String
  | [] => ""
  | [only] => only ++ ","
  | first :: second :: rest => commaSeparated (first :: second :: rest)

/-- A tuple without its parentheses, which only the empty one keeps. -/
def bareTuple : List String → String
  | [] => "()"
  | first :: rest => tupleElements (first :: rest)

/-- A display around the texts of its elements. Braces around nothing are a dictionary, so the empty
set is written as a call. -/
def DisplayForm.text : DisplayForm → List String → String
  | .list, elements => "[" ++ commaSeparated elements ++ "]"
  | .set, [] => "set()"
  | .set, first :: rest => "\x7b" ++ commaSeparated (first :: rest) ++ "\x7d"
  | .dict, elements => "\x7b" ++ commaSeparated elements ++ "\x7d"
  | .tuple, elements => "(" ++ tupleElements elements ++ ")"

def ComprehensionForm.text : ComprehensionForm → String → String
  | .list, content => "[" ++ content ++ "]"
  | .set, content | .dict, content => "\x7b" ++ content ++ "\x7d"
  | .generator, content => "(" ++ content ++ ")"

/-- The content of a comprehension: the element and the clauses after it. -/
def comprehensionText (element : String) (clauses : List String) : String :=
  element ++ String.join (clauses.map (" " ++ ·))

/-- A field of a format string around the text of its value. A value that begins with a brace is
kept apart from the brace of the field, since two of them in a row are text. -/
def fieldText (value : String) (conversion : Conversion) (spec : String) : String :=
  let gap := if value.toList.head? = some '\x7b' then " " else ""
  let tail := if spec = "" then "" else ":" ++ spec
  "\x7b" ++ gap ++ value ++ conversion.text ++ tail ++ "\x7d"

/-- The names before the colon of a lambda. -/
def lambdaHead : List Identifier → String
  | [] => "lambda"
  | first :: rest => "lambda " ++ commaSeparated ((first :: rest).map Identifier.text)

mutual

def Expr.text : Expr → String
  | .identifier name => name.text
  | .literal value => value.text
  | .unary op operand => op.text ++ " " ++ operand.text
  | .binary op left right => left.text ++ " " ++ op.text ++ " " ++ right.text
  | .call target args keywords =>
    target.text ++ "(" ++ commaSeparated (exprTexts args ++ keywordTexts keywords) ++ ")"
  | .attribute target name => target.text ++ "." ++ name.text
  | .subscript target items => target.text ++ "[" ++ commaSeparated (itemTexts items) ++ "]"
  | .display form elements => form.text (exprTexts elements)
  | .comprehension form element clauses =>
    form.text (comprehensionText element.text (clauseTexts clauses))
  | .pair key value => key.text ++ ": " ++ value.text
  | .lambda params body => lambdaHead params ++ ": " ++ body.text
  | .conditional body test orElse => body.text ++ " if " ++ test.text ++ " else " ++ orElse.text
  | .named target value => target.text ++ " := " ++ value.text
  | .formatString parts => "f\x22" ++ String.join (partTexts parts) ++ "\x22"
  | .wrapped inner => "(" ++ inner.text ++ ")"
  | .alias target name => target.text ++ " as " ++ name.text
  | .pathAlias path name => path.text ++ " as " ++ name.text
  | .empty => ""

def exprTexts : List Expr → List String
  | [] => []
  | e :: es => e.text :: exprTexts es

def KeywordArg.text : KeywordArg → String
  | ⟨name, value⟩ => name.text ++ "=" ++ value.text

def keywordTexts : List KeywordArg → List String
  | [] => []
  | k :: ks => k.text :: keywordTexts ks

/-- The text of a subscript item. A step has a colon of its own even when it is left out. -/
def SubscriptItem.text : SubscriptItem → String
  | .index value => value.text
  | .slice lower upper => lower.text ++ ":" ++ upper.text
  | .stride lower upper step => lower.text ++ ":" ++ upper.text ++ ":" ++ step.text

def itemTexts : List SubscriptItem → List String
  | [] => []
  | item :: items => item.text :: itemTexts items

def Clause.text : Clause → String
  | ⟨isAsync, targets, iterator, filters⟩ =>
    (if isAsync then "async for " else "for ") ++ commaSeparated (targets.map Identifier.text) ++
      " in " ++ iterator.text ++ String.join ((exprTexts filters).map (" if " ++ ·))

def clauseTexts : List Clause → List String
  | [] => []
  | c :: cs => c.text :: clauseTexts cs

def FormatPart.text : FormatPart → String
  | .plain content => formatText content
  | .field value conversion spec => fieldText value.text conversion spec

def partTexts : List FormatPart → List String
  | [] => []
  | part :: parts => part.text :: partTexts parts

end

theorem exprTexts_eq_map (es : List Expr) : exprTexts es = es.map Expr.text := by
  induction es with
  | nil => rfl
  | cons e es ih => simp [exprTexts, ih]

theorem keywordTexts_eq_map (ks : List KeywordArg) : keywordTexts ks = ks.map KeywordArg.text := by
  induction ks with
  | nil => rfl
  | cons k ks ih => simp [keywordTexts, ih]

theorem itemTexts_eq_map (items : List SubscriptItem) :
    itemTexts items = items.map SubscriptItem.text := by
  induction items with
  | nil => rfl
  | cons item items ih => simp [itemTexts, ih]

theorem clauseTexts_eq_map (cs : List Clause) : clauseTexts cs = cs.map Clause.text := by
  induction cs with
  | nil => rfl
  | cons c cs ih => simp [clauseTexts, ih]

theorem partTexts_eq_map (parts : List FormatPart) :
    partTexts parts = parts.map FormatPart.text := by
  induction parts with
  | nil => rfl
  | cons part parts ih => simp [partTexts, ih]

namespace Expr

/-- The text of an expression that is assigned to: a tuple there needs no parentheses. -/
def targetText : Expr → String
  | .display .tuple elements => bareTuple (elements.map text)
  | target => target.text

end Expr

end Unparse
