import Unparse.Stmt.Basic

/-!
Building a `try`: its clauses may be given in any order, but what runs if nothing is raised needs a
handler before it.
-/

namespace Unparse

inductive TryStep where
  | handler (handler : Handler)
  | orElse (body : List Stmt)
  | cleanup (body : List Stmt)

namespace Try

/-- A `try` of which only the body is known. -/
def start (body : List Stmt) : Try :=
  ⟨body, [], none, none⟩

/-- A step adds a handler or replaces one of the other clauses. -/
def step (parts : Try) : TryStep → Except BuildError Try
  | .handler handler => .ok { parts with handlers := parts.handlers ++ [handler] }
  | .orElse body =>
    if parts.handlers.isEmpty then .error .elseWithoutHandler
    else .ok { parts with orElse := some body }
  | .cleanup body => .ok { parts with cleanup := some body }

/-- The result of a sequence of steps, or the first refusal among them. -/
def run (parts : Try) (steps : List TryStep) : Except BuildError Try :=
  steps.foldlM step parts

end Try

end Unparse
