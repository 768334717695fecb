import Sentinels.Pattern.Expr

/-!
# Programs

A program is an expression whose choices are numbered. While a text is searched each choice is
made at most once at each position, so equal choices in different places need different numbers.
The copies of a counted repetition are not written out: their numbers follow from those of the
first copy and from how many numbers a copy takes.
-/

set_option autoImplicit false

namespace Sentinels.Pattern

/--
A program; `id` is the number of a choice, `width` how many numbers the body of a copy takes.
-/
inductive Program
  | empty
  | text (chars : Text)
  | set (s : CharSet)
  | look (l : Look)
  | group (name : Text) (body : Program)
  | seq (first rest : Program)
  /-- Tries the first program, then the second. -/
  | fork (id : Nat) (first second : Program)
  /-- Any number of characters out of a set. -/
  | span (id : Nat) (greedy : Bool) (s : CharSet)
  /-- Any number of rounds; there is a choice in front of each round. -/
  | star (id : Nat) (greedy : Bool) (body : Program)
  /-- At least one round; there is a choice behind each round. -/
  | again (id : Nat) (greedy : Bool) (body : Program)
  /-- A fixed number of copies. -/
  | copies (count width : Nat) (body : Program)
  /-- Up to a number of copies; there is a choice in front of each. -/
  | upTo (count width id : Nat) (greedy : Bool) (body : Program)
  /-- The program with all its numbers raised. -/
  | shift (amount : Nat) (body : Program)
deriving DecidableEq, Repr

namespace Program

/-- Tries the program or nothing at all, in the order that greed says. -/
def option (id : Nat) (greedy : Bool) (body : Program) : Program :=
  if greedy then .fork id body .empty else .fork id .empty body

/-- Any number of rounds of the program of `e`; the numbers from `next` on are free. -/
def zeroOrMore (e : Expr) (greedy : Bool) (body : Program) (next : Nat) : Program × Nat :=
  match body with
  | .set s => (.span next greedy s, next + 1)
  | _ =>
    if e.consumes then (.star next greedy body, next + 1)
    else (option (next + 1) greedy (.again next greedy body), next + 2)

/-- At least one round of a program; the numbers from `next` on are free. -/
def oneOrMore (greedy : Bool) (body : Program) (next : Nat) : Program × Nat :=
  match body with
  | .set s => (.seq (.set s) (.span next greedy s), next + 1)
  | _ => (.again next greedy body, next + 1)

/--
The repetition of the program of `e`, which takes the numbers from `id` up to `next`: the rounds
that must be, and behind them those that may be, with numbers raised by what the former take.
-/
def repetition (e : Expr) (min : Nat) (max : Option Nat) (greedy : Bool) (body : Program)
    (id next : Nat) : Program × Nat :=
  let width := next - id
  match max with
  | none =>
    if min = 0 then zeroOrMore e greedy body next
    else
      let (more, after) := oneOrMore greedy body next
      if min = 1 then (more, after)
      else
        let raise := (min - 1) * width
        (.seq (.copies (min - 1) width body) (.shift raise more), after + raise)
  | some max =>
    if min = 0 ∧ max = 1 then (option next greedy body, next + 1)
    else
      let raise := min * width
      if min = max then (.copies min width body, id + raise)
      else
        let more := .upTo (max - min) (width + 1) next greedy body
        (.seq (.copies min width body) (.shift raise more),
          id + raise + (max - min) * (width + 1))

/--
The program of an expression, whose choices get numbers from `id` on, and the first number that is
free behind it.
-/
def ofExpr : Expr → Nat → Program × Nat
  | .empty, id => (.empty, id)
  | .text chars, id => (.text chars, id)
  | .set s _, id => (.set s, id)
  | .look l, id => (.look l, id)
  | .group _ name body, id =>
    let (body, next) := ofExpr body id
    match name with
    | some name => (.group name body, next)
    | none => (body, next)
  | .seq first rest, id =>
    let (first, middle) := ofExpr first id
    let (rest, next) := ofExpr rest middle
    (.seq first rest, next)
  | .alt first rest, id =>
    let (first, middle) := ofExpr first (id + 1)
    let (rest, next) := ofExpr rest middle
    (.fork id first rest, next)
  | .repetition e min max greedy, id =>
    let (body, next) := ofExpr e id
    repetition e min max greedy body id next

end Program

end Sentinels.Pattern
