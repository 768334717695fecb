/-!
# Faults of a pattern

The reasons for which a pattern is refused, while it is read, while its classes and flags are
given their meaning, and when its size is known.
-/

set_option autoImplicit false

namespace Sentinels.Pattern

/-- The reasons to refuse a pattern. -/
inductive SyntaxError
  | unclosedGroup
  | unopenedGroup
  | lookAround
  | groupName
  | duplicateGroupName
  | flag
  | repetitionOperand
  | repetitionCount
  | escape
  | hexadecimal
  | backreference
  | wordBoundary
  | unclosedClass
  | classItem
  | classRange
  | property
  | nesting
  | outsideUnicode
  | size
deriving DecidableEq, Repr

end Sentinels.Pattern
