import Sentinels.Json.Lexeme
import Sentinels.Pattern.Ast
import Sentinels.Pattern.SyntaxError
import Sentinels.Unicode.WhiteSpace

/-!
# The lexemes of patterns

Blanks, counts, names in braces and escapes. In a verbose pattern white space and comments may
stand between the characters of a lexeme; a comment runs from a number sign to the end of its
line.
-/

set_option autoImplicit false

namespace Sentinels.Pattern

open Unicode (isWhiteSpace)

/-- The text behind white space and comments; `inComment` tells that a comment has begun. -/
def skipBlanks (inComment : Bool) : Text → Text
  | [] => []
  | c :: rest =>
    if inComment then skipBlanks (c != '\n') rest
    else if isWhiteSpace c then skipBlanks false rest
    else if c = '#' then skipBlanks true rest
    else c :: rest

/-- The text behind the blanks that a verbose pattern may hold. -/
def blanks (verbose : Bool) (text : Text) : Text :=
  if verbose then skipBlanks false text else text

/--
The next character behind a hyphen in a class; of comments only the number sign is passed over.
-/
def peekBehindHyphen (verbose : Bool) (text : Text) : Option Char :=
  if verbose then
    match text.dropWhile isWhiteSpace with
    | '#' :: rest => (rest.dropWhile isWhiteSpace).head?
    | rest => rest.head?
  else text.head?

/-- Reads up to a closing brace, without the blanks of a verbose pattern. -/
def readBraced (verbose inComment : Bool) : Text → Option (Text × Text)
  | [] => none
  | c :: rest =>
    if inComment then readBraced verbose (c != '\n') rest
    else if verbose && isWhiteSpace c then readBraced verbose false rest
    else if verbose && c == '#' then readBraced verbose true rest
    else if c = '}' then some ([], rest)
    else (readBraced verbose false rest).map fun (name, rest) => (c :: name, rest)

/-- Reads decimal digits behind those that make up `value` already. -/
def readDigits (verbose inComment : Bool) (value : Option Nat) : Text → Option Nat × Text
  | [] => (value, [])
  | c :: rest =>
    if inComment then readDigits verbose (c != '\n') value rest
    else if Json.isDigit c then
      readDigits verbose false (some (value.getD 0 * 10 + (c.toNat - '0'.toNat))) rest
    else if verbose && isWhiteSpace c then readDigits verbose false value rest
    else if verbose && c == '#' then readDigits verbose true value rest
    else (value, c :: rest)

/-- The largest count of a repetition. -/
def maxCount : Nat := Nat.pow 2 32 - 1

/-- Reads a count; white space may stand around it in every pattern. -/
def readCount (verbose : Bool) (text : Text) : Except SyntaxError (Nat × Text) :=
  match readDigits verbose false none ((blanks verbose text).dropWhile isWhiteSpace) with
  | (some n, rest) =>
    if n ≤ maxCount then .ok (n, rest.dropWhile isWhiteSpace) else .error .repetitionCount
  | (none, _) => .error .repetitionCount

/-- The character with a code point that was written in hexadecimal. -/
def scalar? (n : Nat) : Except SyntaxError Char :=
  if h : n.isValidChar then .ok (Char.ofNatAux n h) else .error .hexadecimal

/-- Reads the given number of hexadecimal digits. -/
def readHexDigits (verbose : Bool) : Nat → Nat → Text → Except SyntaxError (Nat × Text)
  | 0, value, text => .ok (value, blanks verbose text)
  | count + 1, value, text =>
    match blanks verbose text with
    | [] => .error .hexadecimal
    | c :: rest =>
      match Json.hexDigit? c with
      | none => .error .hexadecimal
      | some d => readHexDigits verbose count (value * 16 + d) rest

/-- The value of a row of hexadecimal digits. -/
def hexValue? (value : Nat) : Text → Option Nat
  | [] => some value
  | c :: rest =>
    match Json.hexDigit? c with
    | none => none
    | some d => hexValue? (value * 16 + d) rest

/--
Reads the digits of a hexadecimal escape, behind its letter; `count` is their number if no brace
follows.
-/
def readHex (verbose : Bool) (count : Nat) (text : Text) : Except SyntaxError (Literal × Text) :=
  match blanks verbose text with
  | [] => .error .hexadecimal
  | '{' :: rest =>
    match readBraced verbose false rest with
    | none => .error .hexadecimal
    | some (digits, rest) =>
      match digits, hexValue? 0 digits with
      | _ :: _, some n => (scalar? n).map fun c => (⟨c, false⟩, blanks verbose rest)
      | _, _ => .error .hexadecimal
  | other =>
    match readHexDigits verbose count 0 other with
    | .error e => .error e
    | .ok (n, rest) => (scalar? n).map fun c => (⟨c, count == 2⟩, rest)

/-- What an escape may stand for. -/
inductive Primitive
  | literal (l : Literal)
  | assertion (a : Assertion)
  | shorthand (cls : Shorthand) (negated : Bool)
  | property (query : PropertyQuery) (negated : Bool)
deriving DecidableEq, Repr

/--
Splits the text of a property class into a name and a value: at `!=`, else at `:`, else at `=`.
The three signs have one meaning; only the letter of the escape negates the class.
-/
def propertyQuery (text : Text) (negated : Bool) : Primitive :=
  match Text.cutAt? ['!', '='] text with
  | some (name, value) => .property (.valued name value) negated
  | none =>
    match Text.cutAt? [':'] text with
    | some (name, value) => .property (.valued name value) negated
    | none =>
      match Text.cutAt? ['='] text with
      | some (name, value) => .property (.valued name value) negated
      | none => .property (.named text) negated

/-- Reads a property class, behind its letter. -/
def readProperty (verbose negated : Bool) (text : Text) :
    Except SyntaxError (Primitive × Text) :=
  match blanks verbose text with
  | [] => .error .escape
  | '{' :: rest =>
    match readBraced verbose false rest with
    | none => .error .escape
    | some (name, rest) => .ok (propertyQuery name negated, rest)
  | c :: rest =>
    if c = '\\' then .error .property
    else .ok (.property (.named [c]) negated, blanks verbose rest)

/-- The assertions that are named in braces behind `\b`. -/
def namedBoundary? (name : Text) : Option Assertion :=
  if name = ['s', 't', 'a', 'r', 't'] then some .wordStart
  else if name = ['e', 'n', 'd'] then some .wordEnd
  else if name = ['s', 't', 'a', 'r', 't', '-', 'h', 'a', 'l', 'f'] then some .wordStartHalf
  else if name = ['e', 'n', 'd', '-', 'h', 'a', 'l', 'f'] then some .wordEndHalf
  else none

/-- Can the character stand in the name of a word boundary? -/
def isBoundaryNameChar (c : Char) : Bool :=
  ('a' ≤ c && c ≤ 'z') || ('A' ≤ c && c ≤ 'Z') || c == '-'

/-- Reads what follows `\b`; braces that cannot hold a name are left for a repetition. -/
def readWordBoundary (verbose : Bool) (text : Text) : Except SyntaxError (Primitive × Text) :=
  match text with
  | '{' :: rest =>
    match blanks verbose rest with
    | [] => .error .wordBoundary
    | c :: _ =>
      if isBoundaryNameChar c then
        match readBraced verbose false rest with
        | none => .error .wordBoundary
        | some (name, rest) =>
          match namedBoundary? name with
          | some a => .ok (.assertion a, rest)
          | none => .error .wordBoundary
      else .ok (.assertion .wordBoundary, text)
  | _ => .ok (.assertion .wordBoundary, text)

/-- The characters that have a meaning of their own somewhere in a pattern. -/
def isMeta (c : Char) : Bool :=
  ['\\', '.', '+', '*', '?', '(', ')', '|', '[', ']', '{', '}', '^', '$', '#', '&', '-',
    '~'].contains c

/-- Does a backslash in front of the character stand for the character itself? -/
def isEscapable (c : Char) : Bool :=
  isMeta c || (c.toNat < 0x80 && !c.isAlphanum && c != '<' && c != '>')

/-- The control characters with an escape of one letter. -/
def controlEscape? (c : Char) : Option Char :=
  match c with
  | 'a' => some (Char.ofNat 7)
  | 'f' => some (Char.ofNat 12)
  | 't' => some '\t'
  | 'n' => some '\n'
  | 'r' => some '\r'
  | 'v' => some (Char.ofNat 11)
  | _ => none

/-- Reads a hexadecimal escape as a primitive. -/
def readHexEscape (verbose : Bool) (count : Nat) (text : Text) :
    Except SyntaxError (Primitive × Text) :=
  (readHex verbose count text).map fun (l, rest) => (.literal l, rest)

/-- Reads an escape, behind its backslash. -/
def readEscape (verbose : Bool) (text : Text) : Except SyntaxError (Primitive × Text) :=
  match text with
  | [] => .error .escape
  | c :: rest =>
    if isEscapable c then .ok (.literal ⟨c, false⟩, rest)
    else match controlEscape? c with
      | some x => .ok (.literal ⟨x, false⟩, rest)
      | none =>
        match c with
        | 'x' => readHexEscape verbose 2 rest
        | 'u' => readHexEscape verbose 4 rest
        | 'U' => readHexEscape verbose 8 rest
        | 'p' => readProperty verbose false rest
        | 'P' => readProperty verbose true rest
        | 'd' => .ok (.shorthand .digit false, rest)
        | 'D' => .ok (.shorthand .digit true, rest)
        | 's' => .ok (.shorthand .space false, rest)
        | 'S' => .ok (.shorthand .space true, rest)
        | 'w' => .ok (.shorthand .word false, rest)
        | 'W' => .ok (.shorthand .word true, rest)
        | 'A' => .ok (.assertion .textStart, rest)
        | 'z' => .ok (.assertion .textEnd, rest)
        | 'b' => readWordBoundary verbose rest
        | 'B' => .ok (.assertion .notWordBoundary, rest)
        | '<' => .ok (.assertion .wordStart, rest)
        | '>' => .ok (.assertion .wordEnd, rest)
        | _ => if Json.isDigit c then .error .backreference else .error .escape

end Sentinels.Pattern
