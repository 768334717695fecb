import Sentinels.Pattern.Compiled
import Sentinels.Unicode.NormalForm
import Sentinels.Utf8

/-!
# Documents

How the text of a document is prepared: its bytes are decoded, it may be brought into normal form
with line feeds at the ends of its lines, and inline tags are removed.
-/

set_option autoImplicit false

namespace Sentinels.Document

/-- Ends every line with a line feed alone. -/
def unifyLineEnds : Text → Text
  | [] => []
  | '\r' :: '\n' :: rest => '\n' :: unifyLineEnds rest
  | c :: rest => (if c = '\r' then '\n' else c) :: unifyLineEnds rest

/-- No carriage return is left. -/
theorem return_notMem_unifyLineEnds (text : Text) : '\r' ∉ unifyLineEnds text := by
  fun_induction unifyLineEnds text with
  | case1 => simp
  | case2 rest ih => simpa using ih
  | case3 c rest _ ih =>
    by_cases h : c = '\r' <;> simp_all [eq_comm]

/-- Brings a text into normal form KC and ends every line with a line feed. -/
def normalized (text : Text) : Text :=
  unifyLineEnds (Unicode.normalForm text)

/-- Removes the tags that a pattern matches; without a pattern nothing is removed. -/
def withoutTags (tags : Option Pattern) (text : Text) : Text :=
  match tags with
  | none => text
  | some pattern => pattern.deleteAll text

end Sentinels.Document
