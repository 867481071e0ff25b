import Unparse.Stmt.Header

/-!
Definitions of functions and classes: their headers, and drafts that collect the parts of a header
in any order.
-/

namespace Unparse

/-! ### Type parameters -/

/-- A parameter that stands for a type, a list of types or a list of parameters. Only the first kind
has a bound. -/
inductive TypeParam where
  | type (name : Identifier) (bound : Option Expr)
  | types (name : Identifier)
  | params (name : Identifier)
  deriving DecidableEq

def TypeParam.text : TypeParam → String
  | .type name bound => name.text ++ optionalText ": " bound
  | .types name => "*" ++ name.text
  | .params name => "**" ++ name.text

/-- The type parameters in brackets, which only an empty list does without. -/
def typeParamsText (params : List TypeParam) : String :=
  if params.isEmpty then "" else "[" ++ commaSeparated (params.map TypeParam.text) ++ "]"

/-! ### Parameters -/

/-- A parameter takes one argument, all further arguments, or all further named ones. -/
inductive ParamKind where
  | single
  | further
  | furtherNamed
  deriving DecidableEq

/-- The mark before the name of a parameter. -/
def ParamKind.text : ParamKind → String
  | .single => ""
  | .further => "*"
  | .furtherNamed => "**"

structure Param where
  kind : ParamKind
  name : Identifier
  declared : Option Expr
  fallback : Option Expr
  deriving DecidableEq

namespace Param

/-- A parameter of which only kind and name are known. -/
def ofName (kind : ParamKind) (name : Identifier) : Param :=
  ⟨kind, name, none, none⟩

/-- The kind; a later one replaces it. -/
def withKind (param : Param) (kind : ParamKind) : Param :=
  { param with kind }

/-- The type; a later one replaces it. -/
def annotate (param : Param) (declared : Expr) : Param :=
  { param with declared := some (Slot.keywordValue.place declared) }

/-- The value that is taken when no argument is passed; a later one replaces it. -/
def withDefault (param : Param) (value : Expr) : Param :=
  { param with fallback := some (Slot.keywordValue.place value) }

def text (param : Param) : String :=
  param.kind.text ++ param.name.text ++ optionalText ": " param.declared ++
    optionalText " = " param.fallback

end Param

def decoratorTexts (decorators : List Expr) : List String :=
  decorators.map fun decorator => "@" ++ decorator.text

/-! ### Functions -/

structure FunctionHeader where
  decorators : List Expr
  isAsync : Bool
  name : Identifier
  typeParams : List TypeParam
  params : List Param
  result : Option Expr
  deriving DecidableEq

/-- The text of a header, below its decorators. -/
def FunctionHeader.text (header : FunctionHeader) : String :=
  asyncText header.isAsync ++ "def " ++ header.name.text ++ typeParamsText header.typeParams ++
    "(" ++ commaSeparated (header.params.map Param.text) ++ ")" ++ optionalText " -> " header.result

/-- A function whose name may not be known yet. -/
structure FunctionDraft where
  decorators : List Expr
  isAsync : Bool
  name : Option Identifier
  typeParams : List TypeParam
  params : List Param
  result : Option Expr

inductive FunctionStep where
  | decorator (value : Expr)
  | async
  | name (name : Identifier)
  | asyncName (name : Identifier)
  | typeParams (params : List TypeParam)
  | params (params : List Param)
  | result (declared : Expr)

namespace FunctionDraft

/-- A function of which only decorators are known. -/
def start (decorators : List Expr) : FunctionDraft :=
  ⟨decorators, false, none, [], [], none⟩

/-- A step adds to a list, replaces the name or the type of the result, or makes the function wait;
what waits once keeps waiting. -/
def step (draft : FunctionDraft) : FunctionStep → FunctionDraft
  | .decorator value => { draft with decorators := draft.decorators ++ [value] }
  | .async => { draft with isAsync := true }
  | .name name => { draft with name := some name }
  | .asyncName name => { draft with isAsync := true, name := some name }
  | .typeParams params => { draft with typeParams := draft.typeParams ++ params }
  | .params params => { draft with params := draft.params ++ params }
  | .result declared => { draft with result := some (Slot.keywordValue.place declared) }

def run (draft : FunctionDraft) (steps : List FunctionStep) : FunctionDraft :=
  steps.foldl step draft

/-- The header, if the name is known. -/
def finish (draft : FunctionDraft) : Except BuildError FunctionHeader :=
  match draft.name with
  | some name =>
    .ok ⟨draft.decorators, draft.isAsync, name, draft.typeParams, draft.params, draft.result⟩
  | none => .error (.missingFields [.definitionName])

end FunctionDraft

/-! ### Classes -/

structure ClassHeader where
  decorators : List Expr
  name : Identifier
  typeParams : List TypeParam
  bases : List Expr
  keywords : List KeywordArg
  deriving DecidableEq

/-- The text of a header, below its decorators. Without any argument there are no
parentheses. -/
def ClassHeader.text (header : ClassHeader) : String :=
  let arguments := header.bases.map Expr.text ++ header.keywords.map KeywordArg.text
  "class " ++ header.name.text ++ typeParamsText header.typeParams ++
    if arguments.isEmpty then "" else "(" ++ commaSeparated arguments ++ ")"

/-- A class whose name may not be known yet. -/
structure ClassDraft where
  decorators : List Expr
  name : Option Identifier
  typeParams : List TypeParam
  bases : List Expr
  keywords : List KeywordArg

inductive ClassStep where
  | decorator (value : Expr)
  | name (name : Identifier)
  | typeParams (params : List TypeParam)
  | bases (values : List Expr)
  | keywords (values : List KeywordArg)

namespace ClassDraft

/-- A class of which only decorators are known. -/
def start (decorators : List Expr) : ClassDraft :=
  ⟨decorators, none, [], [], []⟩

/-- A step adds to a list or replaces the name. -/
def step (draft : ClassDraft) : ClassStep → ClassDraft
  | .decorator value => { draft with decorators := draft.decorators ++ [value] }
  | .name name => { draft with name := some name }
  | .typeParams params => { draft with typeParams := draft.typeParams ++ params }
  | .bases values => { draft with bases := draft.bases ++ values }
  | .keywords values => { draft with keywords := draft.keywords ++ values }

def run (draft : ClassDraft) (steps : List ClassStep) : ClassDraft :=
  steps.foldl step draft

/-- The header, if the name is known. -/
def finish (draft : ClassDraft) : Except BuildError ClassHeader :=
  match draft.name with
  | some name => .ok ⟨draft.decorators, name, draft.typeParams, draft.bases, draft.keywords⟩
  | none => .error (.missingFields [.definitionName])

end ClassDraft

/-! ### Decorators ahead of a definition -/

/-- Decorators that are collected before it is known what they decorate. -/
structure DecoratorGroup where
  decorators : List Expr

namespace DecoratorGroup

def ofDecorator (value : Expr) : DecoratorGroup :=
  ⟨[value]⟩

/-- One more decorator, below the others. -/
def add (group : DecoratorGroup) (value : Expr) : DecoratorGroup :=
  ⟨group.decorators ++ [value]⟩

def function (group : DecoratorGroup) (name : Identifier) : FunctionDraft :=
  (FunctionDraft.start group.decorators).step (.name name)

def asyncFunction (group : DecoratorGroup) (name : Identifier) : FunctionDraft :=
  (FunctionDraft.start group.decorators).step (.asyncName name)

def classOf (group : DecoratorGroup) (name : Identifier) : ClassDraft :=
  (ClassDraft.start group.decorators).step (.name name)

end DecoratorGroup

end Unparse
