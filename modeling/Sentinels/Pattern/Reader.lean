import Sentinels.Pattern.Reader.Class
import Sentinels.Unicode.Alphanumeric

/-!
# Reading patterns

A pattern is a sequence of items with bars between alternatives. Parentheses open a group, which
is a pattern of its own; flags that are set inside a group hold up to its end. A repetition
applies to the item in front of it.
-/

set_option autoImplicit false

namespace Sentinels.Pattern

/-- Where the reader stands: the text that is left, and what it has seen of groups and flags. -/
structure Reader where
  rest : Text
  verbose : Bool
  groupCount : Nat
  groupNames : List Text

namespace Reader

/-- The flag with a letter. -/
def flag? (c : Char) : Option Flag :=
  match c with
  | 'i' => some .caseInsensitive
  | 'm' => some .multiLine
  | 's' => some .dotMatchesNewLine
  | 'U' => some .swapGreed
  | 'u' => some .unicode
  | 'R' => some .crlf
  | 'x' => some .verbose
  | _ => none

/--
Reads flags up to a colon or a closing parenthesis and gives them with that character. A hyphen,
of which there may be one, turns off the flags behind it, of which there must be one.
-/
def readFlags (edits : List FlagEdit) (off dangling : Bool) :
    Text → Except SyntaxError (List FlagEdit × Char × Text)
  | [] => .error .flag
  | c :: rest =>
    if c = ':' ∨ c = ')' then
      if dangling then .error .flag else .ok (edits, c, rest)
    else if c = '-' then
      if off then .error .flag else readFlags edits true true rest
    else match flag? c with
      | none => .error .flag
      | some flag =>
        if edits.any fun edit => edit.flag == flag then .error .flag
        else readFlags (edits ++ [⟨flag, !off⟩]) off false rest

/-- The setting of the verbose flag behind some edits. -/
def verboseAfter (verbose : Bool) (edits : List FlagEdit) : Bool :=
  match edits.find? fun edit => edit.flag == Flag.verbose with
  | some edit => edit.on
  | none => verbose

/-- Can the character stand in the name of a group, or at its beginning if `first` holds? -/
def isGroupNameChar (first : Bool) (c : Char) : Bool :=
  c == '_' || Unicode.isAlphabetic c ||
    (!first && (c == '.' || c == '[' || c == ']' || Unicode.isNumeric c))

/-- Reads the name of a group up to its closing angle bracket. -/
def readGroupName (first : Bool) : Text → Except SyntaxError (Text × Text)
  | [] => .error .groupName
  | c :: rest =>
    if c = '>' then if first then .error .groupName else .ok ([], rest)
    else if isGroupNameChar first c then
      (readGroupName false rest).map fun (name, rest) => (c :: name, rest)
    else .error .groupName

/-- What an opening parenthesis begins: a group, or flags for what follows. -/
inductive Opening
  | group (kind : GroupKind)
  | flags (edits : List FlagEdit)

/-- Reads a named group, behind its opening angle bracket. -/
def openNamed (reader : Reader) (text : Text) : Except SyntaxError (Opening × Reader) :=
  match readGroupName true text with
  | .error e => .error e
  | .ok (name, rest) =>
    if reader.groupNames.contains name then .error .duplicateGroupName
    else
      let index := reader.groupCount + 1
      .ok (.group (.named index name),
        { reader with
          rest := rest, groupCount := index, groupNames := name :: reader.groupNames })

/-- Reads a group that only sets flags, or flags alone, behind the question mark. -/
def openFlags (reader : Reader) (text : Text) : Except SyntaxError (Opening × Reader) :=
  match readFlags [] false false text with
  | .error e => .error e
  | .ok (edits, closer, rest) =>
    if closer = ')' then
      if edits.isEmpty then .error .repetitionOperand
      else .ok (.flags edits, { reader with rest := rest })
    else .ok (.group (.plain edits), { reader with rest := rest })

/-- Reads the beginning of a group, behind its parenthesis. -/
def openGroup (reader : Reader) (text : Text) : Except SyntaxError (Opening × Reader) :=
  match blanks reader.verbose text with
  | '?' :: '=' :: _ => .error .lookAround
  | '?' :: '!' :: _ => .error .lookAround
  | '?' :: '<' :: '=' :: _ => .error .lookAround
  | '?' :: '<' :: '!' :: _ => .error .lookAround
  | '?' :: 'P' :: '<' :: rest => reader.openNamed rest
  | '?' :: '<' :: rest => reader.openNamed rest
  | '?' :: rest => reader.openFlags rest
  | other =>
    let index := reader.groupCount + 1
    .ok (.group (.indexed index), { reader with rest := other, groupCount := index })

/-- The item that a repetition applies to, and the items in front of it. -/
def operand? : List Ast → Except SyntaxError (Ast × List Ast)
  | [] => .error .repetitionOperand
  | item :: items =>
    match item with
    | .setFlags _ => .error .repetitionOperand
    | .empty => .error .repetitionOperand
    | _ => .ok (item, items)

/-- Reads the question mark that makes a repetition prefer fewer rounds. -/
def readLazy (text : Text) : Bool × Text :=
  match text with
  | '?' :: rest => (true, rest)
  | _ => (false, text)

/-- Applies a repetition of one character to the last item. -/
def repeatLast (items : List Ast) (min : Nat) (max : Option Nat) (text : Text) :
    Except SyntaxError (List Ast × Text) :=
  (operand? items).map fun (body, items) =>
    let (isLazy, rest) := readLazy text
    (.repetition body min max (!isLazy) :: items, rest)

/-- Reads the counts of a repetition, behind its brace: least, most and the text behind them. -/
def readCounts (verbose : Bool) (text : Text) :
    Except SyntaxError (Nat × Option Nat × Text) :=
  match readCount verbose text with
  | .error e => .error e
  | .ok (min, rest) =>
    match rest with
    | '}' :: rest => .ok (min, some min, rest)
    | ',' :: rest =>
      match blanks verbose rest with
      | '}' :: rest => .ok (min, none, rest)
      | other =>
        match readCount verbose other with
        | .error e => .error e
        | .ok (max, rest) =>
          match rest with
          | '}' :: rest =>
            if min ≤ max then .ok (min, some max, rest) else .error .repetitionCount
          | _ => .error .repetitionCount
    | _ => .error .repetitionCount

/-- Applies a repetition with counts to the last item. -/
def repeatCounted (verbose : Bool) (items : List Ast) (text : Text) :
    Except SyntaxError (List Ast × Text) :=
  match operand? items with
  | .error e => .error e
  | .ok (body, items) =>
    (readCounts verbose text).map fun (min, max, rest) =>
      let (isLazy, rest) := readLazy (blanks verbose rest)
      (.repetition body min max (!isLazy) :: items, rest)

/-- The item that a primitive stands for. -/
def itemOfPrimitive : Primitive → Ast
  | .literal l => .literal l
  | .assertion a => .assertion a
  | .shorthand cls negated => .shorthand cls negated
  | .property query negated => .property query negated

/-- Reads an item that is neither a group nor a repetition; `c` is its first character. -/
def readAtom (verbose : Bool) (c : Char) (rest : Text) : Except SyntaxError (Ast × Text) :=
  match c with
  | '[' => (readClass verbose rest).map fun (cls, rest) => (.bracketed cls.1 cls.2, rest)
  | '\\' => (readEscape verbose rest).map fun (p, rest) => (itemOfPrimitive p, rest)
  | '.' => .ok (.dot, rest)
  | '^' => .ok (.assertion .lineStart, rest)
  | '$' => .ok (.assertion .lineEnd, rest)
  | _ => .ok (.literal ⟨c, false⟩, rest)

/--
Reads a repetition or an item that is no group; `items` holds the items so far, last first.
-/
def readItem (reader : Reader) (items : List Ast) (c : Char) (rest : Text) :
    Except SyntaxError (List Ast × Text) :=
  match c with
  | '?' => repeatLast items 0 (some 1) rest
  | '*' => repeatLast items 0 none rest
  | '+' => repeatLast items 1 none rest
  | '{' => repeatCounted reader.verbose items rest
  | _ => (readAtom reader.verbose c rest).map fun (item, rest) => (item :: items, rest)

/-- The pattern made of finished branches and the items of the last one, both last first. -/
def close (branches : List Ast) (items : List Ast) : Ast :=
  Ast.ofBranches (branches.reverse ++ [Ast.ofItems items.reverse])

/--
Reads alternatives up to a closing parenthesis or the end of the text. `branches` and `items` hold
what was read already, last first. Every step takes one unit of fuel.
-/
def readAlternatives : Nat → Reader → List Ast → List Ast → Except SyntaxError (Ast × Reader)
  | 0, _, _, _ => .error .unclosedGroup
  | fuel + 1, reader, branches, items =>
    match blanks reader.verbose reader.rest with
    | [] => .ok (close branches items, { reader with rest := [] })
    | c :: rest =>
      if c = ')' then .ok (close branches items, { reader with rest := c :: rest })
      else if c = '|' then
        readAlternatives fuel { reader with rest := rest }
          (Ast.ofItems items.reverse :: branches) []
      else if c = '(' then
        match reader.openGroup rest with
        | .error e => .error e
        | .ok (.flags edits, reader) =>
          readAlternatives fuel
            { reader with verbose := verboseAfter reader.verbose edits }
            branches (.setFlags edits :: items)
        | .ok (.group kind, inner) =>
          let verbose := match kind with
            | .plain edits => verboseAfter reader.verbose edits
            | _ => reader.verbose
          match readAlternatives fuel { inner with verbose := verbose } [] [] with
          | .error e => .error e
          | .ok (body, after) =>
            match after.rest with
            | [] => .error .unclosedGroup
            | _ :: rest =>
              readAlternatives fuel { after with rest := rest, verbose := reader.verbose }
                branches (.group kind body :: items)
      else
        match reader.readItem items c rest with
        | .error e => .error e
        | .ok (items, rest) => readAlternatives fuel { reader with rest := rest } branches items

end Reader

/-- The greatest depth of nesting. -/
def maxDepth : Nat := 250

/-- Reads a pattern. -/
def parse (pattern : Text) : Except SyntaxError Ast :=
  match Reader.readAlternatives (pattern.length + 1) ⟨pattern, false, 0, []⟩ [] [] with
  | .error e => .error e
  | .ok (ast, reader) =>
    if reader.rest = [] then
      if ast.depth .none ≤ maxDepth then .ok ast else .error .nesting
    else .error .unopenedGroup

end Sentinels.Pattern
