import Std.Data.HashSet
import Sentinels.Pattern.Program
import Sentinels.Unicode.Word

/-!
# Searching a text

A program is run from a position with a continuation, which is what has to match behind it.
Choices are tried in order and the first success counts, so the leftmost match is found and, among
those that begin there, the one that the order of choices prefers. A choice that was made before
at the same position has failed, or it is being made and has consumed nothing since; either way it
is not made again. The record of the choices made is kept over all starting positions of one
search.
-/

set_option autoImplicit false

namespace Sentinels.Pattern

/--
A position in a text: how many characters lie before it, the last of them, and what is left.
-/
structure Cursor where
  pos : Nat
  prev : Option Char
  rest : Text
deriving DecidableEq, Repr

namespace Cursor

/-- The position in front of a text. -/
def start (text : Text) : Cursor := ⟨0, none, text⟩

/-- The text between two positions. -/
def textTo (c d : Cursor) : Text := c.rest.take (d.pos - c.pos)

/-- The position behind the given characters, if they are next. -/
def skipText? (c : Cursor) : Text → Option Cursor
  | [] => some c
  | x :: xs =>
    match c.rest with
    | [] => none
    | y :: rest => if x = y then skipText? ⟨c.pos + 1, some y, rest⟩ xs else none

/-- The position behind the next character, if it is in the set. -/
def skipSet? (c : Cursor) (s : CharSet) : Option Cursor :=
  match c.rest with
  | [] => none
  | y :: rest => if s.contains y then some ⟨c.pos + 1, some y, rest⟩ else none

end Cursor

/-- Is the character part of a word, of the ASCII words or of all? -/
def isWordChar (ascii : Bool) (c : Char) : Bool :=
  if ascii then c.isAlphanum || c == '_' else Unicode.isWord c

/-- Does the condition hold between a character before and a character behind a position? -/
def WordLook.holds (before behind : Bool) : WordLook → Bool
  | .boundary => before != behind
  | .notBoundary => before == behind
  | .start => !before && behind
  | .stop => before && !behind
  | .startHalf => !before
  | .stopHalf => !behind

/-- Does the condition hold at a position? -/
def Look.holds (c : Cursor) : Look → Bool
  | .textStart => c.pos == 0
  | .textEnd => c.rest.isEmpty
  | .lineStart => c.pos == 0 || c.prev == some '\n'
  | .lineEnd => c.rest.isEmpty || c.rest.head? == some '\n'
  | .crlfLineStart =>
    c.pos == 0 || c.prev == some '\n' || (c.prev == some '\r' && c.rest.head? != some '\n')
  | .crlfLineEnd =>
    c.rest.isEmpty || c.rest.head? == some '\r' ||
      (c.rest.head? == some '\n' && c.prev != some '\r')
  | .word look ascii =>
    look.holds (c.prev.any (isWordChar ascii)) (c.rest.head?.any (isWordChar ascii))

/-- The part of a text that a group took. -/
structure Capture where
  start : Cursor
  stop : Cursor
deriving DecidableEq, Repr

/-- The text of a capture. -/
def Capture.text (c : Capture) : Text := c.start.textTo c.stop

/-- What the named groups took, the latest first. -/
abbrev Captures := List (Text × Capture)

/-- The end of a match and what its groups took. -/
structure Hit where
  stop : Cursor
  captures : Captures
deriving DecidableEq, Repr

/-- The choices that were made, each with its position. -/
abbrev Made := Std.HashSet (Nat × Nat)

/-- An attempt to match from a position, which adds to the record of choices. -/
abbrev Attempt := Cursor → Captures → Made → Option Hit × Made

namespace Attempt

/-- Fails. -/
def fail : Attempt := fun _ _ made => (none, made)

/-- Succeeds where it is. -/
def accept : Attempt := fun c captures made => (some ⟨c, captures⟩, made)

/-- Tries the first attempt, and the second one if that fails. -/
def orElse (first second : Attempt) : Attempt := fun c captures made =>
  match first c captures made with
  | (some hit, made) => (some hit, made)
  | (none, made) => second c captures made

/-- Makes a choice unless it was made at this position before. -/
def once (id : Nat) (attempt : Attempt) : Attempt := fun c captures made =>
  if made.contains (id, c.pos) then (none, made)
  else attempt c captures (made.insert (id, c.pos))

/-- Tries to go on or to leave, in the order that greed says. -/
def choose (greedy : Bool) (goOn leave : Attempt) : Attempt :=
  if greedy then orElse goOn leave else orElse leave goOn

/-- Runs the attempts of a number of copies, whose choices have numbers `width` apart. -/
def chain (width : Nat) (body : Nat → Attempt → Attempt) (next : Attempt) :
    Nat → Nat → Attempt
  | 0, _ => next
  | count + 1, offset => body offset (chain width body next count (offset + width))

/-- Runs up to a number of copies, whose choices have numbers `width` apart. -/
def optionals (width id : Nat) (greedy : Bool) (body : Nat → Attempt → Attempt)
    (next : Attempt) : Nat → Nat → Attempt
  | 0, _ => next
  | count + 1, offset =>
    once (id + offset)
      (choose greedy (body offset (optionals width id greedy body next count (offset + width)))
        next)

/-- Runs rounds with a choice in front of each; `fuel` bounds their number. -/
def rounds (id : Nat) (greedy : Bool) (body : Attempt → Attempt) (next : Attempt) :
    Nat → Attempt
  | 0 => fail
  | fuel + 1 => once id (choose greedy (body (rounds id greedy body next fuel)) next)

/-- The positions along characters of a set, last first, up to one where the choice was made. -/
def spanCursors (id : Nat) (s : CharSet) (behind : List Cursor) (made : Made)
    (pos : Nat) (prev : Option Char) : Text → List Cursor × Made
  | [] =>
    if made.contains (id, pos) then (behind, made)
    else (⟨pos, prev, []⟩ :: behind, made.insert (id, pos))
  | c :: rest =>
    if made.contains (id, pos) then (behind, made)
    else
      let found := ⟨pos, prev, c :: rest⟩ :: behind
      let made := made.insert (id, pos)
      if s.contains c then spanCursors id s found made (pos + 1) (some c) rest
      else (found, made)

/-- Goes on from the first of some positions that leads to success. -/
def firstOf (next : Attempt) (captures : Captures) : List Cursor → Made → Option Hit × Made
  | [], made => (none, made)
  | c :: cs, made =>
    match next c captures made with
    | (some hit, made) => (some hit, made)
    | (none, made) => firstOf next captures cs made

/-- Goes on from each position along characters of a set, the nearest first. -/
def spanLazily (id : Nat) (s : CharSet) (next : Attempt) (captures : Captures) (made : Made)
    (pos : Nat) (prev : Option Char) : Text → Option Hit × Made
  | [] =>
    if made.contains (id, pos) then (none, made)
    else next ⟨pos, prev, []⟩ captures (made.insert (id, pos))
  | c :: rest =>
    if made.contains (id, pos) then (none, made)
    else
      match next ⟨pos, prev, c :: rest⟩ captures (made.insert (id, pos)) with
      | (some hit, made) => (some hit, made)
      | (none, made) =>
        if s.contains c then spanLazily id s next captures made (pos + 1) (some c) rest
        else (none, made)

/-- Takes any number of characters out of a set. -/
def span (id : Nat) (greedy : Bool) (s : CharSet) (next : Attempt) : Attempt :=
  fun c captures made =>
    if greedy then
      let (cursors, made) := spanCursors id s [] made c.pos c.prev c.rest
      firstOf next captures cursors made
    else spanLazily id s next captures made c.pos c.prev c.rest

end Attempt

/--
Runs a program whose numbers are raised by `offset` and goes on with `next`. `budget` bounds the
rounds of its loops; it has to exceed the number of positions.
-/
def Program.run (budget : Nat) : Program → Nat → Attempt → Attempt
  | .empty, _, next => next
  | .text chars, _, next => fun c captures made =>
    match c.skipText? chars with
    | some d => next d captures made
    | none => (none, made)
  | .set s, _, next => fun c captures made =>
    match c.skipSet? s with
    | some d => next d captures made
    | none => (none, made)
  | .look l, _, next => fun c captures made =>
    if l.holds c then next c captures made else (none, made)
  | .group name body, offset, next => fun c captures made =>
    body.run budget offset (fun d captures made => next d ((name, ⟨c, d⟩) :: captures) made)
      c captures made
  | .seq first rest, offset, next => first.run budget offset (rest.run budget offset next)
  | .fork id first second, offset, next =>
    .once (id + offset) (.orElse (first.run budget offset next) (second.run budget offset next))
  | .span id greedy s, offset, next => .span (id + offset) greedy s next
  | .star id greedy body, offset, next =>
    .rounds (id + offset) greedy (body.run budget offset) next budget
  | .again id greedy body, offset, next =>
    body.run budget offset (.rounds (id + offset) greedy (body.run budget offset) next budget)
  | .copies count width body, offset, next =>
    .chain width (body.run budget) next count offset
  | .upTo count width id greedy body, offset, next =>
    .optionals width id greedy (body.run budget) next count offset
  | .shift amount body, offset, next => body.run budget (offset + amount) next

/-- A match: where it begins, where it ends, and what its groups took. -/
structure Match where
  start : Cursor
  stop : Cursor
  captures : Captures
deriving DecidableEq, Repr

namespace Match

/-- Is the matched text empty? -/
def isEmpty (m : Match) : Bool := m.start.pos == m.stop.pos

/-- The text that a group took, if it took part in the match. -/
def group? (m : Match) (name : Text) : Option Text :=
  (m.captures.lookup name).map Capture.text

end Match

namespace Program

/-- Tries to match at each position from the given one on. -/
def searchFrom (program : Program) (budget : Nat) (made : Made) (pos : Nat)
    (prev : Option Char) : Text → Option Match
  | [] =>
    match program.run budget 0 .accept ⟨pos, prev, []⟩ [] made with
    | (some hit, _) => some ⟨⟨pos, prev, []⟩, hit.stop, hit.captures⟩
    | (none, _) => none
  | c :: rest =>
    match program.run budget 0 .accept ⟨pos, prev, c :: rest⟩ [] made with
    | (some hit, _) => some ⟨⟨pos, prev, c :: rest⟩, hit.stop, hit.captures⟩
    | (none, made) => searchFrom program budget made (pos + 1) (some c) rest

/-- The first match that begins at the position or behind it. -/
def search? (program : Program) (budget : Nat) (c : Cursor) : Option Match :=
  program.searchFrom budget ∅ c.pos c.prev c.rest

/--
The next match behind a match that ended at `last`. An empty match must not begin where the last
match ended; the search for another one begins a character further on.
-/
def nextMatch? (program : Program) (budget : Nat) (last : Option Nat) (c : Cursor) :
    Option Match :=
  match program.search? budget c with
  | none => none
  | some m =>
    if m.isEmpty && last == some m.stop.pos then
      match c.rest with
      | [] => none
      | x :: rest => program.search? budget ⟨c.pos + 1, some x, rest⟩
    else some m

/-- The matches behind a position, from left to right; each takes one unit of fuel. -/
def matchesFrom (program : Program) (budget : Nat) :
    Nat → Option Nat → Cursor → List Match
  | 0, _, _ => []
  | fuel + 1, last, c =>
    match program.nextMatch? budget last c with
    | none => []
    | some m => m :: matchesFrom program budget fuel (some m.stop.pos) m.stop

/-- All matches in a text, from left to right. They do not overlap. -/
def findAll (program : Program) (text : Text) : List Match :=
  program.matchesFrom (text.length + 2) (text.length + 2) none (.start text)

end Program

end Sentinels.Pattern
