import Sentinels.Json.Fault

/-!
# The lexemes of JSON

Readers of blanks, fixed words and strings. Each takes the text that is left and gives back what
it read and what is left then. A string is read behind its opening quotation mark. Strings are
read in two ways: for their content, or only for their form where the content is not wanted; the
second way does not ask whether surrogates are paired.
-/

set_option autoImplicit false

namespace Sentinels.Json

/-- White space between the lexemes. -/
def isBlank (c : Char) : Bool :=
  c == ' ' || c == '\n' || c == '\t' || c == '\r'

/-- The text behind the blanks at its beginning. -/
def skipBlanks (text : Text) : Text := text.dropWhile isBlank

/-- Reads the given characters, the rest of a word whose first letter is read already. -/
def readWord : Text → Text → Except Stop Text
  | [], rest => .ok rest
  | _ :: _, [] => .error (Fault.endInside .value).atEnd
  | w :: ws, c :: rest =>
    if c = w then readWord ws rest else .error (Fault.expectedIdent.ahead (c :: rest))

/-- Is the character a decimal digit? -/
def isDigit (c : Char) : Bool := '0' ≤ c && c ≤ '9'

/-- The value of a hexadecimal digit. -/
def hexDigit? (c : Char) : Option Nat :=
  if '0' ≤ c ∧ c ≤ '9' then some (c.toNat - '0'.toNat)
  else if 'A' ≤ c ∧ c ≤ 'F' then some (c.toNat - 'A'.toNat + 10)
  else if 'a' ≤ c ∧ c ≤ 'f' then some (c.toNat - 'a'.toNat + 10)
  else none

/-- The number that four hexadecimal digits stand for. -/
def hexQuad? (a b c d : Char) : Option Nat :=
  match hexDigit? a, hexDigit? b, hexDigit? c, hexDigit? d with
  | some a, some b, some c, some d => some (((a * 16 + b) * 16 + c) * 16 + d)
  | _, _, _, _ => none

/--
Where reading stops if no four hexadecimal digits follow: at the end if too few bytes are left, or
behind the four bytes that stand there.
-/
def hexStop (rest : Text) : Stop :=
  if rest.byteSize < 4 then (Fault.endInside .string).atEnd
  else ⟨.invalidEscape, rest.byteSize - 4⟩

/-- The character of a backslash escape of one letter. -/
def simpleEscape? (c : Char) : Option Char :=
  match c with
  | '"' => some '"'
  | '\\' => some '\\'
  | '/' => some '/'
  | 'b' => some (Char.ofNat 8)
  | 'f' => some (Char.ofNat 12)
  | 'n' => some '\n'
  | 'r' => some '\r'
  | 't' => some '\t'
  | _ => none

/-- Is the code unit the first half of a surrogate pair? -/
def isLeadingSurrogate (n : Nat) : Bool := 0xD800 ≤ n && n ≤ 0xDBFF

/-- Is the code unit the second half of a surrogate pair? -/
def isTrailingSurrogate (n : Nat) : Bool := 0xDC00 ≤ n && n ≤ 0xDFFF

/-- The character that a surrogate pair stands for. -/
def surrogatePair (lead trail : Nat) : Char :=
  Char.ofNat ((lead - 0xD800) * 0x400 + (trail - 0xDC00) + 0x10000)

/-- Puts a character in front of what a reader found. -/
def prepend (c : Char) (found : Except Stop (Text × Text)) : Except Stop (Text × Text) :=
  found.map fun (content, rest) => (c :: content, rest)

/-- Reads the content of a string up to its closing quotation mark. -/
def readString : Text → Except Stop (Text × Text)
  | [] => .error (Fault.endInside .string).atEnd
  | c :: rest =>
    if c = '"' then .ok ([], rest)
    else if c = '\\' then
      match rest with
      | [] => .error (Fault.endInside .string).atEnd
      | e :: rest =>
        if e = 'u' then
          match rest with
          | h₁ :: h₂ :: h₃ :: h₄ :: behind =>
            match hexQuad? h₁ h₂ h₃ h₄ with
            | none => .error (hexStop rest)
            | some n =>
              if isTrailingSurrogate n then .error (Fault.loneSurrogate.before behind)
              else if isLeadingSurrogate n then
                match behind with
                | [] => .error (Fault.endInside .string).atEnd
                | b :: behind =>
                  if b ≠ '\\' then .error (Fault.unexpectedEndOfHexEscape.ahead (b :: behind))
                  else match behind with
                    | [] => .error (Fault.endInside .string).atEnd
                    | u :: behind =>
                      if u ≠ 'u' then
                        .error (Fault.unexpectedEndOfHexEscape.ahead (u :: behind))
                      else match behind with
                        | k₁ :: k₂ :: k₃ :: k₄ :: after =>
                          match hexQuad? k₁ k₂ k₃ k₄ with
                          | none => .error (hexStop behind)
                          | some m =>
                            if isTrailingSurrogate m then
                              prepend (surrogatePair n m) (readString after)
                            else .error (Fault.loneSurrogate.before after)
                        | short => .error (hexStop short)
              else prepend (Char.ofNat n) (readString behind)
          | short => .error (hexStop short)
        else match simpleEscape? e with
          | some x => prepend x (readString rest)
          | none => .error (Fault.invalidEscape.ahead (e :: rest))
    else if c.toNat < 0x20 then .error (Fault.controlCharacter.ahead (c :: rest))
    else prepend c (readString rest)

/-- Reads a string for its form only. -/
def skipString : Text → Except Stop Text
  | [] => .error (Fault.endInside .string).atEnd
  | c :: rest =>
    if c = '"' then .ok rest
    else if c = '\\' then
      match rest with
      | [] => .error (Fault.endInside .string).atEnd
      | e :: rest =>
        if e = 'u' then
          match rest with
          | h₁ :: h₂ :: h₃ :: h₄ :: behind =>
            match hexQuad? h₁ h₂ h₃ h₄ with
            | none => .error (hexStop rest)
            | some _ => skipString behind
          | short => .error (hexStop short)
        else match simpleEscape? e with
          | some _ => skipString rest
          | none => .error (Fault.invalidEscape.ahead (e :: rest))
    else if c.toNat < 0x20 then .error (Fault.controlCharacter.before (c :: rest))
    else skipString rest

end Sentinels.Json
