import Unparse.Stmt.Simple

/-!
Headers: what stands before the colon of a loop, a handler, a case or a `with`.
-/

namespace Unparse

/-- The word before a loop or a `with` that waits. -/
def asyncText (isAsync : Bool) : String :=
  if isAsync then "async " else ""

/-- The header of a loop over a sequence. -/
structure ForHeader where
  isAsync : Bool
  target : Expr
  iterable : Expr
  deriving DecidableEq

def ForHeader.text (header : ForHeader) : String :=
  asyncText header.isAsync ++ "for " ++ header.target.targetText ++ " in " ++ header.iterable.text

/-- A loop whose sequence may not be known yet. -/
structure ForDraft where
  isAsync : Bool
  target : Expr
  iterable : Option Expr

namespace ForDraft

/-- A loop of which only the target is known. -/
def start (target : Expr) : ForDraft :=
  ⟨false, target, none⟩

/-- The sequence; a later one replaces it. -/
def through (draft : ForDraft) (iterable : Expr) : ForDraft :=
  { draft with iterable := some (statementValue iterable) }

/-- The loop waits for each element. -/
def async (draft : ForDraft) : ForDraft :=
  { draft with isAsync := true }

/-- The header, if the sequence is known. -/
def finish (draft : ForDraft) : Except BuildError ForHeader :=
  match draft.iterable with
  | some iterable => .ok ⟨draft.isAsync, draft.target, iterable⟩
  | none => .error (.missingFields [.loopIterable])

end ForDraft

/-- A context that is entered, and the target that its value is given to. -/
structure WithItem where
  context : Expr
  target : Option Expr
  deriving DecidableEq

namespace WithItem

def ofContext (context : Expr) (target : Option Expr) : WithItem :=
  ⟨statementValue context, target⟩

def text (item : WithItem) : String :=
  item.context.text ++ optionalText " as " item.target

end WithItem

structure WithHeader where
  isAsync : Bool
  items : List WithItem
  deriving DecidableEq

namespace WithHeader

def ofItems (isAsync : Bool) (items : List WithItem) : Except BuildError WithHeader :=
  requireSome .withItem items (⟨isAsync, ·⟩)

def text (header : WithHeader) : String :=
  asyncText header.isAsync ++ "with " ++ commaSeparated (header.items.map WithItem.text)

end WithHeader

/-- What a handler catches: anything, exceptions of a type, or groups that hold some of a type. -/
inductive Caught where
  | anything
  | type (value : Expr)
  | group (value : Expr)
  deriving DecidableEq

/-- The word of a handler and what it catches. -/
def Caught.text : Caught → String
  | .anything => "except"
  | .type value => "except " ++ value.text
  | .group value => "except* " ++ value.text

/-- The header of a handler: what it catches and the name that is given to what was caught. -/
structure HandlerHeader where
  caught : Caught
  name : Option Identifier
  deriving DecidableEq

namespace HandlerHeader

def catchingAnything : HandlerHeader :=
  ⟨.anything, none⟩

def catchingType (type : Expr) : HandlerHeader :=
  ⟨.type (statementValue type), none⟩

def catchingGroup (type : Expr) : HandlerHeader :=
  ⟨.group (statementValue type), none⟩

/-- The name of what was caught; a later one replaces it. -/
def named (header : HandlerHeader) (name : Identifier) : HandlerHeader :=
  { header with name := some name }

def text (header : HandlerHeader) : String :=
  match header.name with
  | none => header.caught.text
  | some name => header.caught.text ++ " as " ++ name.text

end HandlerHeader

/-- The header of a case: a pattern, and a condition that must hold too. -/
structure CaseHeader where
  pattern : Expr
  guard : Option Expr
  deriving DecidableEq

def CaseHeader.text (header : CaseHeader) : String :=
  "case " ++ header.pattern.text ++ optionalText " if " header.guard

end Unparse
