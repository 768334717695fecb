import Sentinels.Pattern.Reader.Lexeme

/-!
# Bracketed classes

A class lists characters, ranges, escapes, named classes and nested classes. The operations `&&`,
`--` and `~~` have one precedence and group to the left. A hyphen is a character of its own at the
beginning of a class and in front of a closing bracket or another hyphen.
-/

set_option autoImplicit false

namespace Sentinels.Pattern

/-- The class with a name. -/
def AsciiClass.named? (name : Text) : Option AsciiClass :=
  match String.ofList name with
  | "alnum" => some .alnum
  | "alpha" => some .alpha
  | "ascii" => some .ascii
  | "blank" => some .blank
  | "cntrl" => some .cntrl
  | "digit" => some .digit
  | "graph" => some .graph
  | "lower" => some .lower
  | "print" => some .print
  | "punct" => some .punct
  | "space" => some .space
  | "upper" => some .upper
  | "word" => some .word
  | "xdigit" => some .xdigit
  | _ => none

/--
Reads the name of a class between colons, behind its bracket; none if no such name stands there.
-/
def readAsciiClass? (text : Text) : Option (ClassSet × Text) :=
  match text with
  | ':' :: rest =>
    let negated := rest.head? == some '^'
    let behind := if negated then rest.tail else rest
    match behind.dropWhile (· != ':') with
    | ':' :: ']' :: after =>
      (AsciiClass.named? (behind.takeWhile (· != ':'))).map fun cls => (.ascii cls negated, after)
    | _ => none
  | _ => none

/-- Reads a character or an escape inside a class. -/
def readClassPrimitive (verbose : Bool) (text : Text) : Except SyntaxError (Primitive × Text) :=
  match text with
  | [] => .error .unclosedClass
  | '\\' :: rest => readEscape verbose rest
  | c :: rest => .ok (.literal ⟨c, false⟩, rest)

/-- The item of a class that a primitive stands for; an assertion is none. -/
def Primitive.toItem : Primitive → Except SyntaxError ClassSet
  | .literal l => .ok (.literal l)
  | .shorthand cls negated => .ok (.shorthand cls negated)
  | .property query negated => .ok (.property query negated)
  | .assertion _ => .error .classItem

/-- The range between two primitives, which must be characters in order. -/
def Primitive.range : Primitive → Primitive → Except SyntaxError ClassSet
  | .literal lo, .literal hi =>
    if lo.char ≤ hi.char then .ok (.range lo hi) else .error .classRange
  | _, _ => .error .classRange

/-- Reads an item that is a character, an escape or a range. -/
def readClassItem (verbose : Bool) (text : Text) : Except SyntaxError (ClassSet × Text) :=
  match readClassPrimitive verbose text with
  | .error e => .error e
  | .ok (first, rest) =>
    match blanks verbose rest with
    | [] => .error .unclosedClass
    | c :: behind =>
      let peeked := peekBehindHyphen verbose behind
      if c ≠ '-' ∨ peeked = some ']' ∨ peeked = some '-' then
        first.toItem.map fun item => (item, c :: behind)
      else
        match blanks verbose behind with
        | [] => .error .unclosedClass
        | other =>
          match readClassPrimitive verbose other with
          | .error e => .error e
          | .ok (last, rest) => (first.range last).map fun item => (item, rest)

/-- Reads the hyphens at the beginning of a class. -/
def readHyphens (verbose inComment : Bool) : Text → List ClassSet × Text
  | [] => ([], [])
  | c :: rest =>
    if inComment then readHyphens verbose (c != '\n') rest
    else if verbose && Unicode.isWhiteSpace c then readHyphens verbose false rest
    else if verbose && c == '#' then readHyphens verbose true rest
    else if c = '-' then
      let (items, rest) := readHyphens verbose false rest
      (.literal ⟨'-', false⟩ :: items, rest)
    else ([], c :: rest)

/--
What stands at the beginning of a class: its negation, and characters without their meaning.
-/
structure ClassOpening where
  negated : Bool
  items : List ClassSet
  rest : Text

/-- Reads the beginning of a class, behind its bracket. -/
def readClassOpening (verbose : Bool) (text : Text) : Except SyntaxError ClassOpening :=
  match blanks verbose text with
  | [] => .error .unclosedClass
  | c :: behind =>
    let negated := c == '^'
    let (hyphens, rest) := readHyphens verbose false (if negated then behind else c :: behind)
    match rest with
    | [] => .error .unclosedClass
    | d :: after =>
      if hyphens.isEmpty && d == ']' then
        match blanks verbose after with
        | [] => .error .unclosedClass
        | rest => .ok ⟨negated, [.literal ⟨']', false⟩], rest⟩
      else .ok ⟨negated, hyphens, rest⟩

/-- The set left of an operation that waits for its right side. -/
abbrev PendingOp := Option (SetOp × ClassSet)

/-- Applies the operation that waits, if there is one. -/
def PendingOp.apply (pending : PendingOp) (rhs : ClassSet) : ClassSet :=
  match pending with
  | some (op, lhs) => .binary op lhs rhs
  | none => rhs

/-- The operation that begins with two equal characters. -/
def setOp? (c d : Char) : Option SetOp :=
  if c = '&' ∧ d = '&' then some .intersection
  else if c = '-' ∧ d = '-' then some .difference
  else if c = '~' ∧ d = '~' then some .symmetricDifference
  else none

/-- The operation at the beginning of a text, and the text behind it. -/
def readSetOp? (text : Text) : Option (SetOp × Text) :=
  match text with
  | c :: d :: rest => (setOp? c d).map fun op => (op, rest)
  | _ => none

/--
Reads items and operations up to the closing bracket. `items` holds the items since the last
operation, last first. Every step takes one unit of fuel.
-/
def readClassBody (verbose : Bool) :
    Nat → PendingOp → List ClassSet → Text → Except SyntaxError (ClassSet × Text)
  | 0, _, _, _ => .error .unclosedClass
  | fuel + 1, pending, items, text =>
    match blanks verbose text with
    | [] => .error .unclosedClass
    | c :: rest =>
      if c = '[' then
        match readAsciiClass? rest with
        | some (item, rest) => readClassBody verbose fuel pending (item :: items) rest
        | none =>
          match readClassOpening verbose rest with
          | .error e => .error e
          | .ok opening =>
            match readClassBody verbose fuel none opening.items.reverse opening.rest with
            | .error e => .error e
            | .ok (body, rest) =>
              readClassBody verbose fuel pending (.bracketed opening.negated body :: items) rest
      else if c = ']' then .ok (pending.apply (ClassSet.ofItems items.reverse), rest)
      else
        match readSetOp? (c :: rest) with
        | some (op, rest) =>
          let lhs := pending.apply (ClassSet.ofItems items.reverse)
          readClassBody verbose fuel (some (op, lhs)) [] rest
        | none =>
          match readClassItem verbose (c :: rest) with
          | .error e => .error e
          | .ok (item, rest) => readClassBody verbose fuel pending (item :: items) rest

/-- Reads a class, behind its bracket: whether it is negated, and what it holds. -/
def readClass (verbose : Bool) (text : Text) : Except SyntaxError ((Bool × ClassSet) × Text) :=
  match readClassOpening verbose text with
  | .error e => .error e
  | .ok opening =>
    (readClassBody verbose (text.length + 1) none opening.items.reverse opening.rest).map
      fun (body, rest) => ((opening.negated, body), rest)

end Sentinels.Pattern
