import Sentinels.Pattern.Expr
import Sentinels.Pattern.Property
import Sentinels.Unicode.CaseFolding
import Sentinels.Unicode.DecimalDigit
import Sentinels.Unicode.WhiteSpace
import Sentinels.Unicode.Word

/-!
# From syntax to meaning

Flags, classes and assertions get their meaning. Flags hold from where they are set to the end of
the group around them, also in its later branches. Without the flag `u` a pattern may only ask for
ASCII characters in its classes, since a class of bytes could match inside of a character.
-/

set_option autoImplicit false

namespace Sentinels.Pattern

/-- The flags in force. -/
structure Flags where
  caseInsensitive : Bool
  multiLine : Bool
  dotMatchesNewLine : Bool
  swapGreed : Bool
  unicode : Bool
  crlf : Bool
deriving DecidableEq, Repr

namespace Flags

/-- The flags at the beginning of a pattern. -/
def default : Flags := ⟨false, false, false, false, true, false⟩

/-- Applies one edit. -/
def edit (flags : Flags) (e : FlagEdit) : Flags :=
  match e.flag with
  | .caseInsensitive => { flags with caseInsensitive := e.on }
  | .multiLine => { flags with multiLine := e.on }
  | .dotMatchesNewLine => { flags with dotMatchesNewLine := e.on }
  | .swapGreed => { flags with swapGreed := e.on }
  | .unicode => { flags with unicode := e.on }
  | .crlf => { flags with crlf := e.on }
  | .verbose => flags

/-- Applies edits in their order. -/
def apply (flags : Flags) (edits : List FlagEdit) : Flags := edits.foldl edit flags

end Flags

/-- The members of a named class. -/
def AsciiClass.members : AsciiClass → CharSet
  | .alnum => ⟨[(0x30, 0x39), (0x41, 0x5A), (0x61, 0x7A)]⟩
  | .alpha => ⟨[(0x41, 0x5A), (0x61, 0x7A)]⟩
  | .ascii => ⟨[(0, 0x7F)]⟩
  | .blank => ⟨[(0x9, 0x9), (0x20, 0x20)]⟩
  | .cntrl => ⟨[(0, 0x1F), (0x7F, 0x7F)]⟩
  | .digit => ⟨[(0x30, 0x39)]⟩
  | .graph => ⟨[(0x21, 0x7E)]⟩
  | .lower => ⟨[(0x61, 0x7A)]⟩
  | .print => ⟨[(0x20, 0x7E)]⟩
  | .punct => ⟨[(0x21, 0x2F), (0x3A, 0x40), (0x5B, 0x60), (0x7B, 0x7E)]⟩
  | .space => ⟨[(0x9, 0xD), (0x20, 0x20)]⟩
  | .upper => ⟨[(0x41, 0x5A)]⟩
  | .word => ⟨[(0x30, 0x39), (0x41, 0x5A), (0x5F, 0x5F), (0x61, 0x7A)]⟩
  | .xdigit => ⟨[(0x30, 0x39), (0x41, 0x46), (0x61, 0x66)]⟩

/-- The members of a shorthand class. -/
def Shorthand.members (ascii : Bool) : Shorthand → CharSet
  | .digit => if ascii then AsciiClass.digit.members else Unicode.decimalDigit
  | .space => if ascii then AsciiClass.space.members else Unicode.whiteSpace
  | .word => if ascii then AsciiClass.word.members else Unicode.word

/-- The set with the other case of its ASCII letters. -/
def closeUnderAsciiCase (s : CharSet) : CharSet :=
  let shifted (letters : CharSet) (f : Nat → Nat) :=
    CharSet.ofRanges ((s.inter letters).ranges.map fun (lo, hi) => (f lo, f hi))
  (s.union (shifted AsciiClass.upper.members (· + 32))).union
    (shifted AsciiClass.lower.members (· - 32))

namespace Flags

/-- The set, closed under case if the flag is set. -/
def fold (flags : Flags) (s : CharSet) : CharSet :=
  if flags.caseInsensitive then
    if flags.unicode then Unicode.closeUnderCase s else closeUnderAsciiCase s
  else s

/-- The set or its complement; without Unicode it must not leave ASCII. -/
def negate (flags : Flags) (negated : Bool) (s : CharSet) : Except SyntaxError CharSet :=
  if flags.unicode then .ok (s.negateIf negated)
  else if negated || !s.isAscii then .error .outsideUnicode
  else .ok s

/-- The members of a shorthand class or of its complement. -/
def shorthand (flags : Flags) (cls : Shorthand) (negated : Bool) : Except SyntaxError CharSet :=
  flags.negate negated (cls.members (!flags.unicode))

/-- The members of a property class or of its complement. -/
def property (flags : Flags) (query : PropertyQuery) (negated : Bool) :
    Except SyntaxError CharSet :=
  if flags.unicode then
    query.members.map fun s => (flags.fold s).negateIf negated
  else .error .outsideUnicode

/--
The character that a literal stands for; two hexadecimal digits must not stand for a byte of a
longer sequence.
-/
def literal (flags : Flags) (l : Literal) : Except SyntaxError Char :=
  if !flags.unicode && l.isByte && 0x7F < l.char.toNat then .error .outsideUnicode else .ok l.char

/-- The character that a literal of a class stands for. -/
def classLiteral (flags : Flags) (l : Literal) : Except SyntaxError Char :=
  if !flags.unicode && 0x7F < l.char.toNat then .error .outsideUnicode else .ok l.char

/-- The members that an operation leaves; with the case flag its sides are closed under case. -/
def binary (flags : Flags) (op : SetOp) (lhs rhs : CharSet) : CharSet :=
  let lhs := flags.fold lhs.joined
  let rhs := flags.fold rhs.joined
  match op with
  | .intersection => lhs.inter rhs
  | .difference => lhs.diff rhs
  | .symmetricDifference => lhs.symmDiff rhs

/-- The members of a bracketed class, of which `body` holds what stands between the brackets. -/
def bracketed (flags : Flags) (negated : Bool) (body : CharSet) : Except SyntaxError CharSet :=
  flags.negate negated (flags.fold body.joined)

/-- The members of what stands between the brackets of a class. -/
def members (flags : Flags) : ClassSet → Except SyntaxError CharSet
  | .empty => .ok CharSet.empty
  | .literal l => (flags.classLiteral l).map CharSet.singleton
  | .range lo hi =>
    (flags.classLiteral lo).bind fun lo =>
      (flags.classLiteral hi).map fun hi => CharSet.ofRange lo.toNat hi.toNat
  | .ascii cls negated => flags.negate negated (flags.fold cls.members)
  | .shorthand cls negated => flags.shorthand cls negated
  | .property query negated => flags.property query negated
  | .bracketed negated body =>
    (flags.members body).bind fun s => flags.bracketed negated s
  | .union first rest =>
    (flags.members first).bind fun s => (flags.members rest).map fun t => s.union t
  | .binary op lhs rhs =>
    (flags.members lhs).bind fun s => (flags.members rhs).map fun t => flags.binary op s t

/-- The expression for a literal. -/
def literalExpr (flags : Flags) (c : Char) : Expr :=
  if flags.caseInsensitive then
    if flags.unicode then Expr.ofSet (Unicode.caseVariants c) false
    else Expr.ofSet (closeUnderAsciiCase (CharSet.singleton c)) true
  else .text [c]

/-- The expression for the dot. -/
def dot (flags : Flags) : Except SyntaxError Expr :=
  if !flags.unicode then .error .outsideUnicode
  else if flags.dotMatchesNewLine then .ok (.set CharSet.full false)
  else if flags.crlf then .ok (.set (CharSet.ofRanges [(0xA, 0xA), (0xD, 0xD)]).compl false)
  else .ok (.set (CharSet.singleton '\n').compl false)

/-- The condition that an assertion stands for. -/
def look (flags : Flags) : Assertion → Look
  | .lineStart =>
    if flags.multiLine then (if flags.crlf then .crlfLineStart else .lineStart) else .textStart
  | .lineEnd =>
    if flags.multiLine then (if flags.crlf then .crlfLineEnd else .lineEnd) else .textEnd
  | .textStart => .textStart
  | .textEnd => .textEnd
  | .wordBoundary => .word .boundary (!flags.unicode)
  | .notWordBoundary => .word .notBoundary (!flags.unicode)
  | .wordStart => .word .start (!flags.unicode)
  | .wordEnd => .word .stop (!flags.unicode)
  | .wordStartHalf => .word .startHalf (!flags.unicode)
  | .wordEndHalf => .word .stopHalf (!flags.unicode)

end Flags

/--
The branches that a pattern stands for under the given flags, and the flags in force behind it.
All patterns but alternations have one branch.
-/
def Ast.meaning : Ast → Flags → Except SyntaxError (List Expr × Flags)
  | .empty, flags => .ok ([.empty], flags)
  | .setFlags edits, flags => .ok ([.empty], flags.apply edits)
  | .literal l, flags => (flags.literal l).map fun c => ([flags.literalExpr c], flags)
  | .dot, flags => flags.dot.map fun e => ([e], flags)
  | .assertion a, flags => .ok ([.look (flags.look a)], flags)
  | .shorthand cls negated, flags =>
    (flags.shorthand cls negated).map fun s => ([Expr.ofSet s (!flags.unicode)], flags)
  | .property query negated, flags =>
    (flags.property query negated).map fun s => ([Expr.ofSet s false], flags)
  | .bracketed negated body, flags =>
    (flags.members body).bind fun s =>
      (flags.bracketed negated s).map fun s => ([Expr.ofSet s (!flags.unicode)], flags)
  | .repetition body min max greedy, flags =>
    (body.meaning flags).map fun (es, after) =>
      ([Expr.repeated (Expr.alternation es) min max (greedy != flags.swapGreed)], after)
  | .group kind body, flags =>
    match kind with
    | .plain edits =>
      (body.meaning (flags.apply edits)).map fun (es, _) => ([Expr.alternation es], flags)
    | .indexed index =>
      (body.meaning flags).map fun (es, _) => ([.group index none (Expr.alternation es)], flags)
    | .named index name =>
      (body.meaning flags).map fun (es, _) =>
        ([.group index (some name) (Expr.alternation es)], flags)
  | .concat first rest, flags =>
    (first.meaning flags).bind fun (es, flags) =>
      (rest.meaning flags).map fun (fs, flags) =>
        ([Expr.concat [Expr.alternation es, Expr.alternation fs]], flags)
  | .alternation first rest, flags =>
    (first.meaning flags).bind fun (es, flags) =>
      (rest.meaning flags).map fun (fs, flags) => (es ++ fs, flags)

/-- The expression that a pattern stands for. -/
def Ast.toExpr (ast : Ast) : Except SyntaxError Expr :=
  (ast.meaning Flags.default).map fun (es, _) => Expr.alternation es

end Sentinels.Pattern
