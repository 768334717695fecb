import Sentinels.Text

/-!
# The syntax of patterns

A pattern is read into a tree that keeps what was written: literals, classes, groups, repetitions,
alternatives and flags. What a class or a flag means is settled later. A sequence of items is
nested to the right, and so are the branches of an alternation.
-/

set_option autoImplicit false

namespace Sentinels.Pattern

/-- Switches that change the meaning of what follows them. -/
inductive Flag
  | caseInsensitive
  | multiLine
  | dotMatchesNewLine
  | swapGreed
  | unicode
  | crlf
  | verbose
deriving DecidableEq, Repr

/-- A flag turned on or off. -/
structure FlagEdit where
  flag : Flag
  on : Bool
deriving DecidableEq, Repr

/-- A character of a pattern. `isByte` marks the escape of two hexadecimal digits. -/
structure Literal where
  char : Char
  isByte : Bool
deriving DecidableEq, Repr

/-- The classes with an escape of one letter. -/
inductive Shorthand
  | digit
  | space
  | word
deriving DecidableEq, Repr

/-- The classes that have a name inside brackets. -/
inductive AsciiClass
  | alnum
  | alpha
  | ascii
  | blank
  | cntrl
  | digit
  | graph
  | lower
  | print
  | punct
  | space
  | upper
  | word
  | xdigit
deriving DecidableEq, Repr

/-- The way a class of a Unicode property is asked for: by one name, or by a name and a value. -/
inductive PropertyQuery
  | named (name : Text)
  | valued (name value : Text)
deriving DecidableEq, Repr

/-- Conditions on a position. -/
inductive Assertion
  | lineStart
  | lineEnd
  | textStart
  | textEnd
  | wordBoundary
  | notWordBoundary
  | wordStart
  | wordEnd
  | wordStartHalf
  | wordEndHalf
deriving DecidableEq, Repr

/-- Operations between two parts of a bracketed class. -/
inductive SetOp
  | intersection
  | difference
  | symmetricDifference
deriving DecidableEq, Repr

/-- What stands between the brackets of a class. The items of a union are nested to the right. -/
inductive ClassSet
  | empty
  | literal (l : Literal)
  | range (lo hi : Literal)
  | ascii (cls : AsciiClass) (negated : Bool)
  | shorthand (cls : Shorthand) (negated : Bool)
  | property (query : PropertyQuery) (negated : Bool)
  | bracketed (negated : Bool) (body : ClassSet)
  | union (first rest : ClassSet)
  | binary (op : SetOp) (lhs rhs : ClassSet)
deriving DecidableEq, Repr

/--
A group captures under its number, captures under its number and a name, or only changes flags.
-/
inductive GroupKind
  | indexed (index : Nat)
  | named (index : Nat) (name : Text)
  | plain (edits : List FlagEdit)
deriving DecidableEq, Repr

/-- A pattern as it is written. -/
inductive Ast
  | empty
  | setFlags (edits : List FlagEdit)
  | literal (l : Literal)
  | dot
  | assertion (a : Assertion)
  | shorthand (cls : Shorthand) (negated : Bool)
  | property (query : PropertyQuery) (negated : Bool)
  | bracketed (negated : Bool) (body : ClassSet)
  | repetition (body : Ast) (min : Nat) (max : Option Nat) (greedy : Bool)
  | group (kind : GroupKind) (body : Ast)
  | concat (first rest : Ast)
  | alternation (first rest : Ast)
deriving DecidableEq, Repr

namespace ClassSet

/-- The union of items. -/
def ofItems : List ClassSet → ClassSet
  | [] => .empty
  | [item] => item
  | item :: items => .union item (ofItems items)

/--
The depth of nesting inside a class: brackets, a union and an operation each add one. `inUnion`
tells that the node continues a union that is already counted.
-/
def depth (inUnion : Bool) : ClassSet → Nat
  | bracketed _ body => 1 + depth false body
  | union first rest => (if inUnion then 0 else 1) + max (depth false first) (depth true rest)
  | binary _ lhs rhs => 1 + max (depth false lhs) (depth false rhs)
  | _ => 0

end ClassSet

namespace Ast

/-- The sequence of items. -/
def ofItems : List Ast → Ast
  | [] => .empty
  | [item] => item
  | item :: items => .concat item (ofItems items)

/-- The alternation of branches. -/
def ofBranches : List Ast → Ast
  | [] => .empty
  | [branch] => branch
  | branch :: branches => .alternation branch (ofBranches branches)

/-- The kind of node whose list a node may continue. -/
inductive Chain
  | none
  | concat
  | alternation
deriving DecidableEq, Repr

/--
The depth of nesting: classes, repetitions, groups, sequences and alternations each add one.
`chain` tells which list a node continues, so that a sequence or an alternation is counted once.
-/
def depth (chain : Chain) : Ast → Nat
  | bracketed _ body => 1 + body.depth false
  | repetition body _ _ _ => 1 + depth .none body
  | group _ body => 1 + depth .none body
  | concat first rest =>
    (if chain = .concat then 0 else 1) + max (depth .none first) (depth .concat rest)
  | alternation first rest =>
    (if chain = .alternation then 0 else 1) + max (depth .none first) (depth .alternation rest)
  | _ => 0

/-- The names of the groups, in the order in which they are opened. -/
def groupNames : Ast → List Text
  | repetition body _ _ _ => groupNames body
  | group kind body =>
    match kind with
    | .named _ name => name :: groupNames body
    | _ => groupNames body
  | concat first rest => groupNames first ++ groupNames rest
  | alternation first rest => groupNames first ++ groupNames rest
  | _ => []

end Ast

end Sentinels.Pattern
