import Sentinels.CharSet

/-!
# White space

The characters with the Unicode property White_Space. The pattern class `\s`, the blanks that a
verbose pattern skips and the characters trimmed from the end of a name are all this set.
-/

set_option autoImplicit false

namespace Sentinels.Unicode

/-- The characters with the property White_Space. -/
def whiteSpace : CharSet := ⟨[
  (0x9, 0xD), (0x20, 0x20), (0x85, 0x85), (0xA0, 0xA0), (0x1680, 0x1680), (0x2000, 0x200A),
  (0x2028, 0x2029), (0x202F, 0x202F), (0x205F, 0x205F), (0x3000, 0x3000)]⟩

/-- Is the character white space? -/
def isWhiteSpace (c : Char) : Bool := whiteSpace.contains c

end Sentinels.Unicode
