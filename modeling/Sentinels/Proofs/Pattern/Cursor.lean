import Sentinels.Pattern.Search

/-!
# Positions in a text

Every position that a search reaches is a number of characters behind the one it began at, so the
whole arithmetic of positions is that of `Cursor.skip`. A position that lies in a text is fixed by
its number (`Cursor.LiesIn.ext`), which is what makes a record of numbers enough to remember
positions.
-/

set_option autoImplicit false

namespace Sentinels.Pattern.Cursor

/-- The position a number of characters further on. -/
def skip (c : Cursor) (n : Nat) : Cursor :=
  ⟨c.pos + n, (c.rest.take n).getLast?.or c.prev, c.rest.drop n⟩

/-- Skipping counts characters. -/
@[simp] theorem skip_pos (c : Cursor) (n : Nat) : (c.skip n).pos = c.pos + n := rfl

/-- What is left is what was not skipped. -/
@[simp] theorem skip_rest (c : Cursor) (n : Nat) : (c.skip n).rest = c.rest.drop n := rfl

/-- The character in front of a later position is the last one that was skipped. -/
theorem skip_prev (c : Cursor) (n : Nat) :
    (c.skip n).prev = (c.rest.take n).getLast?.or c.prev := rfl

/-- To skip nothing is to stay. -/
@[simp] theorem skip_zero (c : Cursor) : c.skip 0 = c := by
  simp [skip]

/-- To skip twice is to skip the sum. -/
@[simp] theorem skip_skip (c : Cursor) (m n : Nat) : (c.skip m).skip n = c.skip (m + n) := by
  have hprev : ((c.rest.drop m).take n).getLast?.or ((c.rest.take m).getLast?.or c.prev) =
      (c.rest.take (m + n)).getLast?.or c.prev := by
    rw [List.take_add, List.getLast?_append, Option.or_assoc]
  simp only [skip, List.drop_drop, Nat.add_assoc, hprev]

/-- One step forward over a character that stands there. -/
theorem skip_one {pos : Nat} (prev : Option Char) {x : Char} {rest : Text} :
    skip ⟨pos, prev, x :: rest⟩ 1 = ⟨pos + 1, some x, rest⟩ := by
  simp [skip]

/-- A text can be skipped exactly where it stands. -/
theorem skipText?_eq (c : Cursor) (chars : Text) :
    c.skipText? chars = if chars <+: c.rest then some (c.skip chars.length) else none := by
  induction chars generalizing c with
  | nil => simp [skipText?]
  | cons x xs ih =>
    obtain ⟨pos, prev, rest⟩ := c
    cases rest with
    | nil => simp [skipText?]
    | cons y rest =>
      by_cases hxy : x = y
      · subst hxy
        have hskip : skip ⟨pos + 1, some x, rest⟩ xs.length =
            skip ⟨pos, prev, x :: rest⟩ (x :: xs).length := by
          rw [← skip_one, skip_skip, List.length_cons, Nat.add_comm 1]
        simp [skipText?, ih, List.cons_prefix_cons, hskip]
      · simp [skipText?, List.cons_prefix_cons, hxy]

/-- A member of a set can be skipped exactly where it stands. -/
theorem skipSet?_eq (c : Cursor) (s : CharSet) :
    c.skipSet? s = if c.rest.head?.any s.contains then some (c.skip 1) else none := by
  obtain ⟨pos, prev, rest⟩ := c
  cases rest with
  | nil => simp [skipSet?]
  | cons y rest => simp [skipSet?, skip_one]

/-- The text up to a later position is what was skipped. -/
@[simp] theorem textTo_skip (c : Cursor) (n : Nat) : c.textTo (c.skip n) = c.rest.take n := by
  simp [textTo]

/-- Is the position one of those in the text? -/
def LiesIn (text : Text) (c : Cursor) : Prop :=
  ∃ n ≤ text.length, c = (start text).skip n

/-- A search begins in its text. -/
theorem liesIn_start (text : Text) : (start text).LiesIn text :=
  ⟨0, Nat.zero_le _, (skip_zero _).symm⟩

/-- What is left behind a position in a text. -/
theorem LiesIn.rest_eq {text : Text} {c : Cursor} (h : c.LiesIn text) :
    c.rest = text.drop c.pos := by
  obtain ⟨n, -, rfl⟩ := h
  simp [Cursor.start]

/-- A position in a text is not beyond its end. -/
theorem LiesIn.pos_le {text : Text} {c : Cursor} (h : c.LiesIn text) : c.pos ≤ text.length := by
  obtain ⟨n, hn, rfl⟩ := h
  simpa [Cursor.start] using hn

/-- The number of a position and of what is left behind it make up the length of the text. -/
theorem LiesIn.pos_add_length {text : Text} {c : Cursor} (h : c.LiesIn text) :
    c.pos + c.rest.length = text.length := by
  have hle := h.pos_le
  rw [h.rest_eq, List.length_drop]
  omega

/-- Positions in a text lead to positions in the text. -/
theorem LiesIn.skip {text : Text} {c : Cursor} (h : c.LiesIn text) {n : Nat}
    (hn : n ≤ c.rest.length) : (c.skip n).LiesIn text := by
  have hlen := h.pos_add_length
  obtain ⟨m, -, rfl⟩ := h
  have hpos : ((start text).skip m).pos = m := by simp [start]
  rw [hpos] at hlen
  exact ⟨m + n, by omega, skip_skip _ m n⟩

/-- A position in a text is fixed by its number. -/
theorem LiesIn.ext {text : Text} {c d : Cursor} (hc : c.LiesIn text) (hd : d.LiesIn text)
    (h : c.pos = d.pos) : c = d := by
  obtain ⟨m, -, rfl⟩ := hc
  obtain ⟨n, -, rfl⟩ := hd
  simp only [skip_pos, Nat.add_left_cancel_iff] at h
  rw [h]

end Sentinels.Pattern.Cursor
