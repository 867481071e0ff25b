import Unparse.Proofs.Heads

/-!
The parts of the format strings in an expression or a statement, however deep they stand. Their
specifications are the only texts that are written out just as they were given.
-/

namespace Unparse

/-- The specification of a part; text has none. -/
def FormatPart.spec : FormatPart → String
  | .plain _ => ""
  | .field _ _ spec => spec

mutual

/-- The parts of all format strings in an expression. -/
def Expr.formatParts : Expr → List FormatPart
  | .identifier _ | .literal _ | .pathAlias _ _ | .empty => []
  | .unary _ operand => operand.formatParts
  | .binary _ left right => left.formatParts ++ right.formatParts
  | .call target args keywords =>
    target.formatParts ++ exprFormatParts args ++ keywordFormatParts keywords
  | .attribute target _ => target.formatParts
  | .subscript target items => target.formatParts ++ itemFormatParts items
  | .display _ elements => exprFormatParts elements
  | .comprehension _ element clauses => element.formatParts ++ clauseFormatParts clauses
  | .pair key value => key.formatParts ++ value.formatParts
  | .lambda _ body => body.formatParts
  | .conditional body test orElse => body.formatParts ++ test.formatParts ++ orElse.formatParts
  | .named _ value => value.formatParts
  | .formatString parts => nestedFormatParts parts
  | .wrapped inner => inner.formatParts
  | .alias target _ => target.formatParts

def exprFormatParts : List Expr → List FormatPart
  | [] => []
  | e :: es => e.formatParts ++ exprFormatParts es

/-- The parts in an argument that is passed by name. -/
def KeywordArg.formatParts : KeywordArg → List FormatPart
  | ⟨_, value⟩ => value.formatParts

def keywordFormatParts : List KeywordArg → List FormatPart
  | [] => []
  | k :: ks => k.formatParts ++ keywordFormatParts ks

def SubscriptItem.formatParts : SubscriptItem → List FormatPart
  | .index value => value.formatParts
  | .slice lower upper => lower.formatParts ++ upper.formatParts
  | .stride lower upper step => lower.formatParts ++ upper.formatParts ++ step.formatParts

def itemFormatParts : List SubscriptItem → List FormatPart
  | [] => []
  | item :: items => item.formatParts ++ itemFormatParts items

def Clause.formatParts : Clause → List FormatPart
  | ⟨_, _, iterator, filters⟩ => iterator.formatParts ++ exprFormatParts filters

def clauseFormatParts : List Clause → List FormatPart
  | [] => []
  | c :: cs => c.formatParts ++ clauseFormatParts cs

/-- A part itself and those in the value of a field. -/
def FormatPart.formatParts : FormatPart → List FormatPart
  | .plain content => [.plain content]
  | .field value conversion spec => .field value conversion spec :: value.formatParts

/-- Parts and those in the values of their fields. -/
def nestedFormatParts : List FormatPart → List FormatPart
  | [] => []
  | part :: parts => part.formatParts ++ nestedFormatParts parts

end

/-! ### The expressions of heads -/

def SimpleStmt.exprs : SimpleStmt → List Expr
  | .expression value => [value]
  | .assignment ⟨target, declared, value⟩ => target :: declared.toList ++ value.toList
  | .returning value => value.toList
  | .raising .again => []
  | .raising (.exception value cause) => value :: cause.toList
  | .asserting test message => test :: message.toList
  | .deleting target => [target]
  | .loneWord _ | .globals _ | .nonlocals _ => []
  | .imports names | .importsFrom _ names =>
    names.flatMap fun
      | .alias target _ => [target]
      | .star | .path _ | .pathAlias _ _ => []

def TypeParam.exprs : TypeParam → List Expr
  | .type _ bound => bound.toList
  | .types _ | .params _ => []

def Head.exprs : Head → List Expr
  | .simple statement => statement.exprs
  | .ifTest e | .elifTest e | .whileTest e | .matchSubject e | .decorator e => [e]
  | .elseWord | .tryWord | .finallyWord => []
  | .forLoop header => [header.target, header.iterable]
  | .handler header =>
    match header.caught with
    | .anything => []
    | .type value | .group value => [value]
  | .withBlock header => header.items.flatMap fun item => item.context :: item.target.toList
  | .matchCase header => header.pattern :: header.guard.toList
  | .functionDef header =>
    header.typeParams.flatMap TypeParam.exprs ++
      header.params.flatMap (fun param => param.declared.toList ++ param.fallback.toList) ++
      header.result.toList
  | .classDef header =>
    header.typeParams.flatMap TypeParam.exprs ++ header.bases ++ header.keywords.map (·.value)

/-- The parts of all format strings in a statement. -/
def Stmt.formatParts (s : Stmt) : List FormatPart :=
  s.heads.flatMap fun head => head.exprs.flatMap Expr.formatParts

end Unparse
