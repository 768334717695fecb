import Sentinels.CharSet
import Sentinels.Text

/-!
# The meaning of patterns

An expression says what a pattern matches, without flags and named classes. Sequences and
alternations are nested to the right. They are built by functions that keep them simple: a
sequence has no empty parts and no two texts side by side. An alternation of characters or of sets
is a set, and one whose branches all begin alike shares that beginning.
-/

set_option autoImplicit false

namespace Sentinels.Pattern

/--
Conditions on the characters on both sides of a position, as to whether they are in a word.
-/
inductive WordLook
  | boundary
  | notBoundary
  | start
  | stop
  | startHalf
  | stopHalf
deriving DecidableEq, Repr

/-- Conditions on a position. Lines end at line feeds, or also at carriage returns. -/
inductive Look
  | textStart
  | textEnd
  | lineStart
  | lineEnd
  | crlfLineStart
  | crlfLineEnd
  | word (look : WordLook) (ascii : Bool)
deriving DecidableEq, Repr

/--
What a pattern matches. A set that was written without Unicode (`ascii`) differs from one that was
written with it, though both may have the same members.
-/
inductive Expr
  | empty
  | text (chars : Text)
  | set (s : CharSet) (ascii : Bool)
  | look (l : Look)
  | repetition (body : Expr) (min : Nat) (max : Option Nat) (greedy : Bool)
  | group (index : Nat) (name : Option Text) (body : Expr)
  | seq (first rest : Expr)
  | alt (first rest : Expr)
deriving DecidableEq, Repr

namespace Expr

/-- The expression that matches nothing. -/
def never : Expr := .set CharSet.empty true

/-- The expression for one character out of a set. -/
def ofSet (s : CharSet) (ascii : Bool) : Expr :=
  if s.ranges.isEmpty then never
  else match s.single? with
    | some c => .text [c]
    | none => .set s ascii

/-- The items of a sequence. -/
def items : Expr → List Expr
  | .empty => []
  | .seq first rest => first :: items rest
  | e => [e]

/-- The branches of an alternation. -/
def branches : Expr → List Expr
  | .alt first rest => first :: branches rest
  | e => [e]

/-- The sequence with the given items. -/
def ofItems : List Expr → Expr
  | [] => .empty
  | [e] => e
  | e :: es => .seq e (ofItems es)

/-- The alternation with the given branches. -/
def ofBranches : List Expr → Expr
  | [] => never
  | [e] => e
  | e :: es => .alt e (ofBranches es)

/-- Puts an item in front of others; a text joins the text behind it. -/
def pushItem (e : Expr) (es : List Expr) : List Expr :=
  match e, es with
  | .text s, .text t :: rest => .text (s ++ t) :: rest
  | _, _ => e :: es

/-- The sequence of expressions. -/
def concat (es : List Expr) : Expr :=
  ofItems ((es.flatMap items).foldr pushItem [])

/-- Is the expression a sequence of at least two items? -/
def isSeq : Expr → Bool
  | .seq _ _ => true
  | _ => false

/-- The items with which both lists begin. -/
def commonStart : List Expr → List Expr → List Expr
  | a :: as, b :: bs => if a = b then a :: commonStart as bs else []
  | _, _ => []

/-- The items with which all sequences begin. -/
def sharedStart : List (List Expr) → List Expr
  | [] => []
  | l :: ls => ls.foldl commonStart l

/-- The character of a text that has only one. -/
def char? : Expr → Option Char
  | .text [c] => some c
  | _ => none

/-- The members of a set. -/
def members? : Expr → Option CharSet
  | .set s _ => some s
  | _ => none

/-- The set that branches are together if all are single characters or all are sets. -/
def merged? (es : List Expr) : Option Expr :=
  match es.mapM char? with
  | some chars => some (ofSet (CharSet.ofRanges (chars.map fun c => (c.toNat, c.toNat))) false)
  | none =>
    (es.mapM members?).map fun sets => ofSet (sets.foldl CharSet.union CharSet.empty) false

/-- The set that branches are together, or the alternation of them. -/
def choice (es : List Expr) : Expr := (merged? es).getD (ofBranches es)

/--
The alternation of expressions. Branches that are all sequences share their common beginning.
-/
def alternation (es : List Expr) : Expr :=
  let flat := es.flatMap branches
  match flat with
  | [] => never
  | [e] => e
  | _ =>
    let start := if flat.all isSeq then sharedStart (flat.map items) else []
    if start.isEmpty then choice flat
    else
      let ends := flat.map fun e => concat (e.items.drop start.length)
      concat (start ++ [choice (ends.flatMap branches)])

/-- Does the expression match the empty text only? -/
def onlyEmpty : Expr → Bool
  | .empty => true
  | .look _ => true
  | .text s => s.isEmpty
  | .set _ _ => false
  | .repetition body _ max _ => max == some 0 || onlyEmpty body
  | .group _ _ body => onlyEmpty body
  | .seq first rest => onlyEmpty first && onlyEmpty rest
  | .alt first rest => onlyEmpty first && onlyEmpty rest

/-- The least length of a match; none if the expression has a part that matches nothing. -/
def minLength? : Expr → Option Nat
  | .empty => some 0
  | .look _ => some 0
  | .text s => some s.length
  | .set s _ => if s.ranges.isEmpty then none else some 1
  | .repetition body min _ _ => (minLength? body).map (min * ·)
  | .group _ _ body => minLength? body
  | .seq first rest => (minLength? first).bind fun n => (minLength? rest).map (n + ·)
  | .alt first rest => (minLength? first).bind fun n => (minLength? rest).map (Nat.min n)

/-- Is it known that every match of the expression takes at least one character? -/
def consumes (e : Expr) : Bool := e.minLength?.any (0 < ·)

/--
The repetition of an expression. What matches the empty text only is repeated at most once.
-/
def repeated (body : Expr) (min : Nat) (max : Option Nat) (greedy : Bool) : Expr :=
  let (min, max) :=
    if body.onlyEmpty then (Nat.min min 1, some ((max.map (Nat.min · 1)).getD 1)) else (min, max)
  if min = 0 ∧ max = some 0 then .empty
  else if min = 1 ∧ max = some 1 then body
  else .repetition body min max greedy

/-- The names of the capturing groups, in the order of their opening. -/
def groupNames : Expr → List Text
  | .repetition body _ _ _ => groupNames body
  | .group _ name body => name.toList ++ groupNames body
  | .seq first rest => groupNames first ++ groupNames rest
  | .alt first rest => groupNames first ++ groupNames rest
  | _ => []

end Expr

end Sentinels.Pattern
