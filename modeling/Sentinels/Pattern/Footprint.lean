/-!
# Footprints

The footprint of a part of an automaton is the memory that its states take. A state takes a fixed
amount. A state that tells several bytes apart takes more for each way on, and so does a choice
for each of its branches. Counted repetitions are written out.
-/

set_option autoImplicit false

namespace Sentinels.Pattern

/-- The bytes that a state takes. -/
def stateSize : Nat := 32

/-- The bytes that a way on takes in a state that tells several bytes apart. -/
def transitionSize : Nat := 8

/-- The bytes that a branch takes in a choice. -/
def branchSize : Nat := 4

/-- A state that tells bytes apart by a number of ranges. -/
def sparseSize (count : Nat) : Nat := stateSize + transitionSize * count

/--
The size of a part of an automaton. A part that ends in a choice gets a branch for what follows.
-/
structure Footprint where
  size : Nat
  endsInChoice : Bool
deriving DecidableEq, Repr

namespace Footprint

/-- What the way on from the end of a part takes. -/
def link (f : Footprint) : Nat := if f.endsInChoice then branchSize else 0

/-- The size of a part with the way on from its end. -/
def linked (f : Footprint) : Nat := f.size + f.link

/-- A number of states in a row. -/
def row (states : Nat) : Footprint := ⟨stateSize * states, false⟩

/-- One part, and the other behind it. -/
def andThen (f g : Footprint) : Footprint := ⟨f.linked + g.size, g.endsInChoice⟩

/-- A number of copies in a row; no copy is an empty state. -/
def copies (f : Footprint) (count : Nat) : Footprint :=
  if count = 0 then row 1 else ⟨(count - 1) * f.linked + f.size, f.endsInChoice⟩

/-- A part and behind it the choice to begin it anew. -/
def again (f : Footprint) : Footprint := ⟨f.linked + stateSize + branchSize, true⟩

/-- A part or nothing. -/
def option (f : Footprint) : Footprint := ⟨f.linked + 2 * stateSize + 2 * branchSize, false⟩

/--
Any number of rounds. A part that may be empty needs a choice of its own for no round, and a state
behind both.
-/
def star (f : Footprint) (consumes : Bool) : Footprint :=
  if consumes then f.again else f.again.option

/-- Some copies and behind them up to a number of others, each with a choice to leave. -/
def upTo (f : Footprint) (min more : Nat) : Footprint :=
  let optional := f.linked + stateSize + 2 * branchSize
  ⟨(f.copies min).linked + stateSize + more * optional, false⟩

/-- The repetition of a part. -/
def repeated (f : Footprint) (consumes : Bool) (min : Nat) (max : Option Nat) : Footprint :=
  match max with
  | none =>
    if min = 0 then f.star consumes
    else if min = 1 then f.again
    else (f.copies (min - 1)).andThen f.again
  | some max =>
    if min = 0 ∧ max = 1 then f.option
    else if min = max then f.copies min
    else f.upTo min (max - min)

end Footprint

end Sentinels.Pattern
