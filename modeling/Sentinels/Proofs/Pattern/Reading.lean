import Sentinels.Proofs.Pattern.Scan
import Mathlib.Data.List.TakeWhile

/-!
# Reading a text part by part

A pattern that is a sequence of texts and of runs reads the text in front of it part by part. Each
rule here says, for one kind of part, exactly when the part and what is behind it succeed: the part
is read up to some position, and the rest succeeds from there. A run up to a character is greedy,
yet what is behind it can only begin at that character, so it ends at one position.
-/

set_option autoImplicit false

namespace Sentinels.Pattern

namespace Cursor

/-- Does a text stand between two positions? -/
def Reads (c : Cursor) (chars : Text) (d : Cursor) : Prop :=
  c.rest = chars ++ d.rest ∧ d = c.skip chars.length

variable {c d e : Cursor} {s t : Text}

/-- A text that stands in front is read. -/
theorem exists_reads {more : Text} : c.rest = s ++ more ↔ ∃ d, c.Reads s d ∧ d.rest = more := by
  constructor
  · intro h
    have hrest : (c.skip s.length).rest = more := by simp [h]
    exact ⟨c.skip s.length, ⟨by rw [hrest, h], rfl⟩, hrest⟩
  · rintro ⟨d, ⟨hrest, -⟩, rfl⟩
    exact hrest

/-- Two texts are read one behind the other. -/
theorem reads_append : c.Reads (s ++ t) e ↔ ∃ d, c.Reads s d ∧ d.Reads t e := by
  constructor
  · rintro ⟨hrest, rfl⟩
    obtain ⟨d, ⟨hread, rfl⟩, hd⟩ := exists_reads.1 (hrest.trans (List.append_assoc ..))
    exact ⟨_, ⟨hread, rfl⟩, hd, by simp⟩
  · rintro ⟨d, ⟨hc, rfl⟩, hd, rfl⟩
    exact ⟨by rw [hc, hd, List.append_assoc], by simp⟩

/-- The text between the positions is the one that was read. -/
theorem Reads.textTo (h : c.Reads s d) : c.textTo d = s := by
  obtain ⟨hrest, rfl⟩ := h
  rw [textTo_skip, hrest, List.take_left']
  rfl

/-- A beginning of the text is read. -/
theorem isPrefix_iff_exists_reads : s <+: c.rest ↔ ∃ d, c.Reads s d := by
  constructor
  · rintro ⟨more, hmore⟩
    obtain ⟨d, hd, -⟩ := exists_reads.1 hmore.symm
    exact ⟨d, hd⟩
  · rintro ⟨d, hd, -⟩
    exact ⟨d.rest, hd.symm⟩

/-- A run has the length of the part of the text that it is known to take. -/
theorem Reads.runLength_eq {p : Char → Bool} (h : c.Reads s d) (hrun : ∀ y ∈ s, p y = true)
    (hmore : ¬ d.rest.head?.any p = true) : c.runLength p = s.length := by
  have hstop : d.rest.takeWhile p = [] := by
    cases hd : d.rest with
    | nil => rfl
    | cons y more => exact List.takeWhile_cons_of_neg (by simpa [hd] using hmore)
  rw [runLength, h.1, List.takeWhile_append_of_pos hrun, hstop, List.append_nil]

/-- The end of the run of characters with a property. -/
def pastRun (p : Char → Bool) (c : Cursor) : Cursor := c.skip (c.runLength p)

/-- A run is read up to its end. -/
theorem reads_pastRun (p : Char → Bool) (c : Cursor) :
    c.Reads (c.rest.takeWhile p) (c.pastRun p) :=
  ⟨(List.prefix_iff_eq_append.1 (List.takeWhile_prefix _)).symm, rfl⟩

/-- Behind a run stands the text without it. -/
theorem pastRun_rest (p : Char → Bool) (c : Cursor) : (c.pastRun p).rest = c.rest.dropWhile p :=
  List.append_cancel_left
    ((reads_pastRun p c).1.symm.trans (List.takeWhile_append_dropWhile (p := p)).symm)

/-- All positions in a run have the same end in front of them. -/
theorem pastRun_skip {p : Char → Bool} {n : Nat} (h : n ≤ c.runLength p) :
    (c.skip n).pastRun p = c.pastRun p := by
  unfold pastRun
  rw [runLength_skip h, skip_skip, Nat.add_sub_cancel' h]

/-- Inside a run a character of the run comes next. -/
theorem any_head?_skip {p : Char → Bool} {n : Nat} (h : n < c.runLength p) :
    (c.skip n).rest.head?.any p = true := by
  by_contra hhead
  have hzero := runLength_eq_zero hhead
  rw [runLength_skip h.le] at hzero
  omega

/-- Behind a character of a run that character stands in front. -/
theorem any_prev_skip {p : Char → Bool} {n : Nat} (h : n < c.runLength p) :
    (c.skip (n + 1)).prev.any p = true := by
  obtain ⟨x, hx, hp⟩ := (Option.any_eq_true _ _).1 (any_head?_skip h)
  have hprev : (c.skip (n + 1)).prev = some x := by
    rw [← skip_skip, skip_prev (c.skip n), List.take_one, hx]
    rfl
  rw [hprev]
  exact hp

/-- A run of fewer characters ends no later. -/
theorem runLength_mono {p q : Char → Bool} (h : ∀ x, p x = true → q x = true) (c : Cursor) :
    c.runLength p ≤ c.runLength q := by
  have hboth : (c.rest.takeWhile q).takeWhile p = c.rest.takeWhile p := by
    rw [List.takeWhile_takeWhile]
    congr 1
    funext x
    rw [Bool.eq_iff_iff]
    simpa using h x
  rw [runLength, ← hboth]
  exact (List.takeWhile_prefix p).length_le

end Cursor

namespace Expr

variable {next : Cursor → Option Hit} {c : Cursor} {hit : Hit}

/-- A text and what is behind it succeed where the text stands. -/
theorem matchThen_text_eq_some {chars : Text} :
    (text chars).matchThen next c = some hit ↔ ∃ d, c.Reads chars d ∧ next d = some hit := by
  rw [matchThen_text]
  constructor
  · intro h
    split at h
    · next hp =>
      obtain ⟨d, hd⟩ := Cursor.isPrefix_iff_exists_reads.1 hp
      exact ⟨d, hd, hd.2 ▸ h⟩
    · simp at h
  · rintro ⟨d, hd, h⟩
    rw [if_pos (Cursor.isPrefix_iff_exists_reads.2 ⟨d, hd⟩), ← hd.2, h]

/-- A text that begins with a character fails elsewhere. -/
theorem matchThen_text_eq_none {chars : Text} {x : Char} (hchars : chars.head? = some x)
    (c : Cursor) (h : c.rest.head? ≠ some x) : (text chars).matchThen next c = none := by
  rw [matchThen_text, if_neg]
  rintro ⟨more, hmore⟩
  exact h (by rw [← hmore, List.head?_append, hchars, Option.some_or])

/-- A run up to a character and what begins with that character go on at the end of the run. -/
theorem matchThen_span_until {s : CharSet} {x : Char} (hs : ∀ y, s.contains y = (y != x))
    (hnext : ∀ d : Cursor, d.rest.head? ≠ some x → next d = none) (c : Cursor) :
    (span s).matchThen next c = next (c.pastRun s.contains) := by
  refine matchThen_star next c fun _ i hi => hnext _ fun hhead => ?_
  have hinside := Cursor.any_head?_skip hi
  rw [hhead] at hinside
  simp [hs] at hinside

/-- What begins with a character succeeds behind a text without it only at the end of the run. -/
theorem pastRun_eq_of_next {s : CharSet} {x : Char} {run : Text} {d : Cursor}
    (hs : ∀ y, s.contains y = (y != x))
    (hnext : ∀ d : Cursor, d.rest.head? ≠ some x → next d = none)
    (hrun : x ∉ run) (hread : c.Reads run d) (h : next d = some hit) :
    c.pastRun s.contains = d := by
  have hall : ∀ y ∈ run, s.contains y = true := by
    intro y hy
    rw [hs, bne_iff_ne]
    exact ne_of_mem_of_not_mem hy hrun
  have hstop : d.rest.head? = some x := by
    by_contra hne
    rw [hnext d hne] at h
    exact absurd h (by simp)
  rw [Cursor.pastRun, hread.runLength_eq hall (by simp [hstop, hs]), ← hread.2]

/-- A run up to a character and what begins with that character succeed where the run stands. -/
theorem matchThen_span_eq_some {s : CharSet} {x : Char} (hs : ∀ y, s.contains y = (y != x))
    (hnext : ∀ d : Cursor, d.rest.head? ≠ some x → next d = none) :
    (span s).matchThen next c = some hit ↔
      ∃ run d, x ∉ run ∧ c.Reads run d ∧ next d = some hit := by
  rw [matchThen_span_until hs hnext]
  constructor
  · intro h
    refine ⟨_, _, fun hmem => ?_, c.reads_pastRun s.contains, h⟩
    have hin := List.mem_takeWhile_imp hmem
    simp [hs] at hin
  · rintro ⟨run, d, hrun, hread, h⟩
    rwa [pastRun_eq_of_next hs hnext hrun hread h]

/--
A run that must not be empty ends where no more of it follows, if what is behind it is stuck at all
of its inner positions.
-/
theorem matchThen_plus {s : CharSet} {ascii : Bool}
    (h : ∀ i, 0 < i → i < c.runLength s.contains → next (c.skip i) = none) :
    (repetition (set s ascii) 1 none true).matchThen next c =
      if c.rest.head?.any s.contains then next (c.pastRun s.contains) else none := by
  have hseq : (repetition (set s ascii) 1 none true).matchThen next =
      (set s ascii).matchThen ((repetition (set s ascii) 0 none true).matchThen next) := by
    rw [← matchThen_seq]
    funext d
    simp only [matchThen, outcomes_plus, outcomes_seq]
  rw [hseq, matchThen_set]
  split
  · next hhead =>
    have hlength := Cursor.runLength_eq_succ hhead
    rw [matchThen_star, Cursor.skip_skip, Cursor.pastRun, hlength, Nat.add_comm]
    intro _ i hi
    rw [Cursor.skip_skip]
    exact h (1 + i) (by omega) (by omega)
  · rfl

/-- A group around such a run keeps the run. -/
theorem matchThen_group_span_eq_some {s : CharSet} {x : Char} {index : Nat} {name : Text}
    (hs : ∀ y, s.contains y = (y != x))
    (hnext : ∀ d : Cursor, d.rest.head? ≠ some x → next d = none) :
    (group index (some name) (span s)).matchThen next c = some hit ↔
      ∃ run d inner, x ∉ run ∧ c.Reads run d ∧ next d = some inner ∧
        hit = inner.after [(name, ⟨c, d⟩)] := by
  rw [matchThen_group, matchThen_span_eq_some hs (fun d hd => by simp [hnext d hd])]
  simp only [Option.map_eq_some_iff, @eq_comm Hit hit, exists_and_left]

end Expr

end Sentinels.Pattern
