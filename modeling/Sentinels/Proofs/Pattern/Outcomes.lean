import Sentinels.Proofs.Pattern.Cursor

/-!
# The outcomes of an expression

An expression has a list of outcomes at a position: the ways to match there, in the order in which
a backtracking search prefers them. Nothing is remembered between attempts, so the outcomes follow
the syntax alone. What a search needs of them is only the first outcome from which the rest of the
pattern succeeds, and `Expr.matchThen` has one equation for each kind of expression to compute it.
-/

set_option autoImplicit false

namespace Sentinels.Pattern

namespace Hit

/-- The match of the empty text. -/
def here (c : Cursor) : Hit := ⟨c, []⟩

/-- The hit with what groups took before it. -/
def after (earlier : Captures) (h : Hit) : Hit := ⟨h.stop, h.captures ++ earlier⟩

/-- A hit that takes nothing ends where it begins. -/
@[simp] theorem here_stop (c : Cursor) : (here c).stop = c := rfl

/-- It has no captures. -/
@[simp] theorem here_captures (c : Cursor) : (here c).captures = [] := rfl

/-- A hit ends where it does, whatever was taken before. -/
@[simp] theorem after_stop (earlier : Captures) (h : Hit) : (h.after earlier).stop = h.stop := rfl

/-- Later captures stand in front. -/
@[simp] theorem after_captures (earlier : Captures) (h : Hit) :
    (h.after earlier).captures = h.captures ++ earlier := rfl

/-- Nothing taken before changes nothing. -/
@[simp] theorem after_nil (h : Hit) : h.after [] = h := by
  simp [after]

/-- What was taken in two steps was taken in one. -/
@[simp] theorem after_after (earlier later : Captures) (h : Hit) :
    (h.after later).after earlier = h.after (later ++ earlier) := by
  simp [after]

/-- With nothing taken before them hits stay as they are. -/
@[simp] theorem after_nil_eq_id : after [] = id := funext after_nil

end Hit

/-- Each hit, continued in all ways. -/
def andThen (hits : List Hit) (next : Cursor → List Hit) : List Hit :=
  hits.flatMap fun h => (next h.stop).map (Hit.after h.captures)

/-- Without a hit there is no way on. -/
@[simp] theorem andThen_nil (next : Cursor → List Hit) : andThen [] next = [] := rfl

/-- Hits are continued one by one. -/
@[simp] theorem andThen_append (hits more : List Hit) (next : Cursor → List Hit) :
    andThen (hits ++ more) next = andThen hits next ++ andThen more next := by
  simp [andThen]

/-- From where one is, all ways are ways on. -/
@[simp] theorem andThen_here (c : Cursor) (next : Cursor → List Hit) :
    andThen [.here c] next = next c := by
  simp [andThen]

/-- To stop at once behind every hit changes nothing. -/
@[simp] theorem andThen_here_right (hits : List Hit) :
    andThen hits (fun c => [.here c]) = hits := by
  simp [andThen, Hit.here, Hit.after]

/-- It does not matter how continuations are bracketed. -/
theorem andThen_assoc (hits : List Hit) (next last : Cursor → List Hit) :
    andThen (andThen hits next) last = andThen hits fun c => andThen (next c) last := by
  simp only [andThen, List.flatMap_assoc, List.flatMap_map, List.map_flatMap]
  simp [Function.comp_def]

/-- There is no way on exactly if there is none behind any hit. -/
theorem andThen_eq_nil {hits : List Hit} {next : Cursor → List Hit} :
    andThen hits next = [] ↔ ∀ h ∈ hits, next h.stop = [] := by
  simp [andThen, List.flatMap_eq_nil_iff]

/-- The first way on leads through the first hit that has one. -/
theorem head?_andThen (hits : List Hit) (next : Cursor → List Hit) :
    (andThen hits next).head? =
      hits.findSome? fun h => (next h.stop).head?.map (Hit.after h.captures) := by
  simp [andThen, List.head?_flatMap, List.head?_map]

/-- A number of rounds in a row. -/
def copies (body : Cursor → List Hit) : Nat → Cursor → List Hit
  | 0, c => [.here c]
  | count + 1, c => andThen (body c) (copies body count)

/-- Up to a number of rounds; greed prefers another round to none. -/
def rounds (greedy : Bool) (body : Cursor → List Hit) : Nat → Cursor → List Hit
  | 0, c => [.here c]
  | count + 1, c =>
    let more := andThen (body c) (rounds greedy body count)
    if greedy then more ++ [.here c] else .here c :: more

namespace Expr

/--
The ways to match at a position, the preferred ones first. An unbounded repetition makes at most
as many rounds as there are characters left.
-/
def outcomes : Expr → Cursor → List Hit
  | .empty, c => [.here c]
  | .text chars, c => ((c.skipText? chars).map Hit.here).toList
  | .set s _, c => ((c.skipSet? s).map Hit.here).toList
  | .look l, c => if l.holds c then [.here c] else []
  | .repetition body min max greedy, c =>
    andThen (copies body.outcomes min c) fun d =>
      rounds greedy body.outcomes ((max.map (· - min)).getD d.rest.length) d
  | .group _ name body, c =>
    match name with
    | some name => (body.outcomes c).map fun h => ⟨h.stop, (name, ⟨c, h.stop⟩) :: h.captures⟩
    | none => body.outcomes c
  | .seq first rest, c => andThen (first.outcomes c) rest.outcomes
  | .alt first rest, c => first.outcomes c ++ rest.outcomes c

/-- The first way to match. -/
def first? (e : Expr) (c : Cursor) : Option Hit := (e.outcomes c).head?

/-- As many characters out of a set as there are. -/
def span (s : CharSet) : Expr := .repetition (.set s false) 0 none true

/-- The expression if it matches, else nothing. -/
def option (e : Expr) : Expr := .repetition e 0 (some 1) true

end Expr

/-- How many characters with a property stand behind a position. -/
def Cursor.runLength (p : Char → Bool) (c : Cursor) : Nat := (c.rest.takeWhile p).length

/-- A run does not reach beyond the end. -/
theorem Cursor.runLength_le (p : Char → Bool) (c : Cursor) : c.runLength p ≤ c.rest.length :=
  (List.takeWhile_prefix p).length_le

/-- A run that ends at once. -/
theorem Cursor.runLength_eq_zero {p : Char → Bool} {c : Cursor}
    (h : ¬ c.rest.head?.any p = true) : c.runLength p = 0 := by
  obtain ⟨pos, prev, rest⟩ := c
  cases rest with
  | nil => rfl
  | cons x rest => simp_all [runLength]

/-- A run goes on as long behind its first character. -/
theorem Cursor.runLength_eq_succ {p : Char → Bool} {c : Cursor}
    (h : c.rest.head?.any p = true) : c.runLength p = (c.skip 1).runLength p + 1 := by
  obtain ⟨pos, prev, rest⟩ := c
  cases rest with
  | nil => simp at h
  | cons x rest => simp_all [runLength]

/-- Behind the beginning of a run the rest of it follows. -/
theorem Cursor.runLength_skip {p : Char → Bool} {n : Nat} {c : Cursor}
    (h : n ≤ c.runLength p) : (c.skip n).runLength p = c.runLength p - n := by
  induction n generalizing c with
  | zero => simp
  | succ n ih =>
    by_cases hp : c.rest.head?.any p = true
    · have hsucc := Cursor.runLength_eq_succ hp
      have hstep := ih (c := c.skip 1) (by omega)
      rw [Cursor.skip_skip, Nat.add_comm 1 n] at hstep
      omega
    · have hzero := Cursor.runLength_eq_zero hp
      omega

namespace Expr

/-- The empty expression takes nothing. -/
@[simp] theorem outcomes_empty (c : Cursor) : empty.outcomes c = [.here c] := rfl

/-- A condition takes nothing where it holds, and matches nowhere else. -/
@[simp] theorem outcomes_look (l : Look) (c : Cursor) :
    (look l).outcomes c = if l.holds c then [.here c] else [] := rfl

/-- A sequence goes on behind each hit of its first part. -/
@[simp] theorem outcomes_seq (first rest : Expr) (c : Cursor) :
    (seq first rest).outcomes c = andThen (first.outcomes c) rest.outcomes := rfl

/-- The hits of the first branch are preferred. -/
@[simp] theorem outcomes_alt (first rest : Expr) (c : Cursor) :
    (alt first rest).outcomes c = first.outcomes c ++ rest.outcomes c := rfl

/-- A text matches where it stands, in one way. -/
theorem outcomes_text (chars : Text) (c : Cursor) :
    (text chars).outcomes c =
      if chars <+: c.rest then [.here (c.skip chars.length)] else [] := by
  rw [outcomes, Cursor.skipText?_eq]
  split <;> rfl

/-- A set matches one of its members, in one way. -/
theorem outcomes_set (s : CharSet) (ascii : Bool) (c : Cursor) :
    (set s ascii).outcomes c =
      if c.rest.head?.any s.contains then [.here (c.skip 1)] else [] := by
  rw [outcomes, Cursor.skipSet?_eq]
  split <;> rfl

/-- What may be missing is tried first. -/
theorem outcomes_option (e : Expr) (c : Cursor) :
    e.option.outcomes c = e.outcomes c ++ [.here c] := by
  simp [option, outcomes, copies, rounds]

/-- Characters out of a set are taken one by one, and given back one by one. -/
theorem rounds_set (s : CharSet) (ascii : Bool) {count : Nat} {c : Cursor}
    (h : c.runLength s.contains ≤ count) :
    rounds true (set s ascii).outcomes count c =
      (List.range (c.runLength s.contains + 1)).reverse.map fun i => Hit.here (c.skip i) := by
  induction count generalizing c with
  | zero => simp [rounds, Nat.le_zero.mp h]
  | succ count ih =>
    by_cases hp : c.rest.head?.any s.contains = true
    · have hsucc := Cursor.runLength_eq_succ hp
      have hmore := ih (c := c.skip 1) (by omega)
      simp only [rounds, if_true, outcomes_set, hp, andThen_here, hmore, hsucc]
      rw [List.range_succ_eq_map (n := _ + 1)]
      simp [Function.comp_def, Nat.add_comm]
    · simp [rounds, outcomes_set, hp, Cursor.runLength_eq_zero hp]

/-- The outcomes of a run end at each of its positions, the last one first. -/
theorem outcomes_star (s : CharSet) (ascii : Bool) (c : Cursor) :
    (repetition (set s ascii) 0 none true).outcomes c =
      (List.range (c.runLength s.contains + 1)).reverse.map fun i => Hit.here (c.skip i) := by
  have hrun := rounds_set s ascii (c.runLength_le s.contains)
  simpa [outcomes, copies] using hrun

/-- A run that must not be empty is one character and a run behind it. -/
theorem outcomes_plus (s : CharSet) (ascii : Bool) (c : Cursor) :
    (repetition (set s ascii) 1 none true).outcomes c =
      andThen ((set s ascii).outcomes c) (repetition (set s ascii) 0 none true).outcomes := by
  simp [outcomes, copies]

end Expr

/-- Do all hits end at the position they began at or ahead of it, within the text? -/
def LeadsForward (find : Cursor → List Hit) : Prop :=
  ∀ c, ∀ h ∈ find c, ∃ n ≤ c.rest.length, h.stop = c.skip n

namespace LeadsForward

/-- What leads forward in two steps leads forward. -/
theorem andThen {find next : Cursor → List Hit} (hfind : LeadsForward find)
    (hnext : LeadsForward next) : LeadsForward fun c => andThen (find c) next := by
  intro c h hh
  obtain ⟨first, hfirst, second, hsecond, rfl⟩ :
      ∃ first ∈ find c, ∃ second ∈ next first.stop, second.after first.captures = h := by
    simpa [Pattern.andThen] using hh
  obtain ⟨m, hm, hstop⟩ := hfind c first hfirst
  obtain ⟨n, hn, hlast⟩ := hnext _ second hsecond
  rw [hstop, Cursor.skip_rest, List.length_drop] at hn
  refine ⟨m + n, by omega, ?_⟩
  rw [Hit.after_stop, hlast, hstop, Cursor.skip_skip]

/-- The empty match does not move. -/
theorem here : LeadsForward fun c => [Hit.here c] := by
  intro c h hh
  rw [List.mem_singleton.mp hh]
  exact ⟨0, Nat.zero_le _, by simp⟩

/-- Rounds in a row lead forward if one does. -/
theorem copies {body : Cursor → List Hit} (hbody : LeadsForward body) (count : Nat) :
    LeadsForward (copies body count) := by
  induction count with
  | zero => exact here
  | succ count ih => exact hbody.andThen ih

/-- Optional rounds lead forward if one does. -/
theorem rounds {body : Cursor → List Hit} (hbody : LeadsForward body) (greedy : Bool)
    (count : Nat) : LeadsForward (rounds greedy body count) := by
  induction count with
  | zero => exact here
  | succ count ih =>
    intro c h hh
    have hcases : h ∈ Pattern.andThen (body c) (Pattern.rounds greedy body count) ∨
        h ∈ [Hit.here c] := by
      cases greedy <;> simp_all [Pattern.rounds, or_comm]
    rcases hcases with hmore | hhere
    · exact hbody.andThen ih c h hmore
    · exact here c h hhere

end LeadsForward

namespace Expr

/-- The outcomes of an expression lie ahead. -/
theorem outcomes_leadsForward (e : Expr) : LeadsForward e.outcomes := by
  induction e with
  | empty => exact LeadsForward.here
  | text chars =>
    intro c h hh
    rw [outcomes_text] at hh
    split at hh
    · next hp => exact ⟨chars.length, hp.length_le, by simp_all⟩
    · simp at hh
  | set s ascii =>
    intro c h hh
    rw [outcomes_set] at hh
    split at hh
    · next hp => exact ⟨1, by cases hrest : c.rest <;> simp_all, by simp_all⟩
    · simp at hh
  | look l =>
    intro c h hh
    rw [outcomes_look] at hh
    split at hh
    · exact LeadsForward.here c h hh
    · simp at hh
  | repetition body min max greedy ih =>
    intro c h hh
    exact (ih.copies min).andThen
      (fun d k hk => ih.rounds greedy _ d k hk) c h hh
  | group index name body ih =>
    intro c h hh
    cases name with
    | none => exact ih c h hh
    | some name =>
      obtain ⟨inner, hinner, rfl⟩ := List.mem_map.mp hh
      exact ih c inner hinner
  | seq first rest ihf ihr => exact ihf.andThen ihr
  | alt first rest ihf ihr =>
    intro c h hh
    rcases List.mem_append.mp hh with hf | hr
    · exact ihf c h hf
    · exact ihr c h hr

/-- The first way to match an expression from which `next` succeeds. -/
def matchThen (e : Expr) (next : Cursor → Option Hit) (c : Cursor) : Option Hit :=
  (e.outcomes c).findSome? fun h => (next h.stop).map (Hit.after h.captures)

/-- It is the first of all ways to match the expression and what is behind it. -/
theorem matchThen_eq_head? (e : Expr) (next : Cursor → Option Hit) (c : Cursor) :
    e.matchThen next c = (andThen (e.outcomes c) fun d => (next d).toList).head? := by
  simp [matchThen, head?_andThen]

/-- With nothing behind it an expression matches in the first way. -/
theorem first?_eq_matchThen (e : Expr) (c : Cursor) :
    e.first? c = e.matchThen (fun d => some (.here d)) c := by
  unfold first? matchThen
  cases e.outcomes c <;> simp [Hit.here, Hit.after]

variable (next : Cursor → Option Hit) (c : Cursor)

/-- A text is skipped where it stands. -/
theorem matchThen_text (chars : Text) :
    (text chars).matchThen next c =
      if chars <+: c.rest then next (c.skip chars.length) else none := by
  rw [matchThen, outcomes_text]
  split <;> simp

/-- A member of a set is skipped. -/
theorem matchThen_set (s : CharSet) (ascii : Bool) :
    (set s ascii).matchThen next c =
      if c.rest.head?.any s.contains then next (c.skip 1) else none := by
  rw [matchThen, outcomes_set]
  split <;> simp

/-- A condition that fails leads nowhere. -/
theorem matchThen_look (l : Look) :
    (look l).matchThen next c = if l.holds c then next c else none := by
  rw [matchThen, outcomes_look]
  split <;> simp

/-- The parts of a sequence are matched one behind the other. -/
theorem matchThen_seq (first rest : Expr) :
    (seq first rest).matchThen next = first.matchThen (rest.matchThen next) := by
  funext c
  rw [matchThen_eq_head?, outcomes_seq, andThen_assoc, head?_andThen]
  simp only [← matchThen_eq_head?]
  rfl

/-- The second branch counts only where the first leads nowhere. -/
theorem matchThen_alt (first rest : Expr) :
    (alt first rest).matchThen next c = (first.matchThen next c).or (rest.matchThen next c) := by
  simp [matchThen, List.findSome?_append]

/-- What may be missing is missing only where it leads nowhere. -/
theorem matchThen_option (e : Expr) :
    e.option.matchThen next c = (e.matchThen next c).or (next c) := by
  simp [matchThen, outcomes_option, List.findSome?_append]

/-- A group keeps what its body took. -/
theorem matchThen_group (index : Nat) (name : Text) (body : Expr) :
    (group index (some name) body).matchThen next c =
      body.matchThen (fun d => (next d).map (Hit.after [(name, ⟨c, d⟩)])) c := by
  simp [matchThen, outcomes, List.findSome?_map, Function.comp_def]

/--
A run takes as much as it can: this is the first way if the rest, stuck at the end of the run, is
stuck at all of its positions.
-/
theorem matchThen_star {s : CharSet} {ascii : Bool}
    (h : next (c.skip (c.runLength s.contains)) = none →
      ∀ i < c.runLength s.contains, next (c.skip i) = none) :
    (repetition (set s ascii) 0 none true).matchThen next c =
      next (c.skip (c.runLength s.contains)) := by
  simp only [matchThen, outcomes_star, List.range_succ, List.reverse_append, List.map_append,
    List.findSome?_append]
  cases hlast : next (c.skip (c.runLength s.contains)) with
  | some hit => simp [hlast]
  | none =>
    have hnone := h hlast
    simp [hlast, List.findSome?_eq_none_iff]
    exact hnone

end Expr

end Sentinels.Pattern
