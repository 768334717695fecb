import Sentinels.Pattern.Meaning
import Sentinels.Pattern.Reader
import Sentinels.Pattern.Search
import Sentinels.Pattern.Size

/-!
# Compiled patterns

A pattern is compiled once: it is read, given its meaning and, if it is not too large, made a
program. A compiled pattern finds its matches in a text and knows the names of its groups.
-/

set_option autoImplicit false

namespace Sentinels

/-- A pattern that is ready to search texts. -/
structure Pattern where
  /-- The pattern as it is written. -/
  source : Text
  /-- What is run. -/
  program : Pattern.Program
  /-- The names of the groups. -/
  groupNames : List Text
deriving DecidableEq, Repr

namespace Pattern

/-- The expression that a source stands for. -/
def exprOf (source : Text) : Except SyntaxError Expr := (parse source).bind Ast.toExpr

/-- The pattern of an expression. -/
def ofExpr (source : Text) (e : Expr) : Pattern :=
  ⟨source, (Program.ofExpr e 0).1, e.groupNames⟩

/-- Compiles a pattern, which must keep to the limit of size. -/
def compile (source : Text) : Except SyntaxError Pattern :=
  (exprOf source).bind fun e => if e.fits then .ok (ofExpr source e) else .error .size

/-- What compiles stands for an expression that keeps to the limit. -/
theorem compile_eq_ok_iff {source : Text} {p : Pattern} :
    compile source = .ok p ↔ ∃ e, exprOf source = .ok e ∧ e.fits = true ∧ ofExpr source e = p := by
  unfold compile
  cases exprOf source with
  | error _ => simp [Except.bind]
  | ok e => by_cases h : e.fits = true <;> simp [Except.bind, h]

/-- A pattern that matches a text literally. -/
def escape (text : Text) : Text :=
  text.flatMap fun c => if isMeta c then ['\\', c] else [c]

/-- All matches in a text, from left to right. -/
def findAll (pattern : Pattern) (text : Text) : List Match := pattern.program.findAll text

/--
The text behind a position without the given matches, which lie behind it from left to right.
-/
def withoutMatches (c : Cursor) : List Match → Text
  | [] => c.rest
  | m :: ms => c.textTo m.start ++ withoutMatches m.stop ms

/-- The text without the matches of the pattern. -/
def deleteAll (pattern : Pattern) (text : Text) : Text :=
  withoutMatches (.start text) (pattern.findAll text)

end Pattern

end Sentinels
