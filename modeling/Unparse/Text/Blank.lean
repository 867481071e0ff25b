import Unparse.Text.CodeRanges

/-!
Characters without ink that would disturb a line of source: control characters and blanks.
-/

namespace Unparse

/-- The category `Cc`: the control characters. -/
def control : CodeRanges := [(0x0, 0x1F), (0x7F, 0x9F)]

/-- The property `White_Space`. -/
def whiteSpace : CodeRanges := [(0x9, 0xD), (0x20, 0x20), (0x85, 0x85), (0xA0, 0xA0),
  (0x1680, 0x1680), (0x2000, 0x200A), (0x2028, 0x2029), (0x202F, 0x202F), (0x205F, 0x205F),
  (0x3000, 0x3000)]

/-- A control character has the category `Cc`. -/
def isControl (c : Char) : Bool :=
  control.holds c

/-- A blank is a character with the property `White_Space`. -/
def isBlank (c : Char) : Bool :=
  whiteSpace.holds c

theorem isControl_iff {c : Char} :
    isControl c = true ↔ c.toNat ≤ 0x1F ∨ 0x7F ≤ c.toNat ∧ c.toNat ≤ 0x9F := by
  simp [isControl, CodeRanges.holds, control]

end Unparse
