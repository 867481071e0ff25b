import Unparse.Identifier

/-!
Paths of modules: leading dots and dotted names.
-/

namespace Unparse

/-- A module path: as many leading dots as levels up, then names. -/
structure ModulePath where
  dots : Nat
  names : List Identifier
  deriving DecidableEq

def ModulePath.text (path : ModulePath) : String :=
  String.ofList (List.replicate path.dots '.') ++ ".".intercalate (path.names.map Identifier.text)

end Unparse
