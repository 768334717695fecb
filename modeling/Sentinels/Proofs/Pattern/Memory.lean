import Mathlib.Order.Interval.Set.Basic
import Sentinels.Proofs.Pattern.Outcomes

/-!
# Remembering choices loses no match

The search makes no choice twice at one position, and it keeps the record of choices over all
starting positions. That is harmless as long as every choice on record is a dead end: the rest of
the pattern does not match from it. `Attempt.Yields` says that an attempt finds the first outcome
under a harmless record and, if it fails, adds dead ends only. It has one rule for each
combinator of attempts.
-/

set_option autoImplicit false

namespace Sentinels.Pattern

/-- Which choices, by their number and their position, lead nowhere. -/
abbrev DeadEnds := Nat → Nat → Prop

/-- Are all recorded choices with the given numbers dead ends? -/
def Settled (dead : DeadEnds) (ids : Set Nat) (made : Made) : Prop :=
  ∀ id ∈ ids, ∀ pos, (id, pos) ∈ made → dead id pos

/-- Are all choices that were added to a record dead ends with the given numbers? -/
def AddsDeadEnds (dead : DeadEnds) (ids : Set Nat) (made later : Made) : Prop :=
  ∀ id pos, (id, pos) ∈ later → (id, pos) ∈ made ∨ id ∈ ids ∧ dead id pos

/-- To add nothing adds dead ends only. -/
theorem AddsDeadEnds.refl (dead : DeadEnds) (ids : Set Nat) (made : Made) :
    AddsDeadEnds dead ids made made := fun _ _ h => Or.inl h

/-- Two additions are one. -/
theorem AddsDeadEnds.trans {dead : DeadEnds} {ids : Set Nat} {made later last : Made}
    (h : AddsDeadEnds dead ids made later) (h' : AddsDeadEnds dead ids later last) :
    AddsDeadEnds dead ids made last := by
  intro id pos hmem
  rcases h' id pos hmem with hlater | hdead
  · exact h id pos hlater
  · exact Or.inr hdead

/-- A record stays harmless when dead ends are added. -/
theorem Settled.of_adds {dead : DeadEnds} {ids : Set Nat} {made later : Made}
    (h : Settled dead ids made) (hadds : AddsDeadEnds dead ids made later) :
    Settled dead ids later := by
  intro id hid pos hmem
  rcases hadds id pos hmem with hmade | ⟨-, hdead⟩
  · exact h id hid pos hmade
  · exact hdead

/-- Does something hold at the position in a text that has the given number? -/
def atPosition (text : Text) (p : Cursor → Prop) (pos : Nat) : Prop :=
  ∀ c : Cursor, c.LiesIn text → c.pos = pos → p c

/-- A position in the text is the only one with its number. -/
theorem atPosition_iff {text : Text} {p : Cursor → Prop} {c : Cursor} (hc : c.LiesIn text) :
    atPosition text p c.pos ↔ p c := by
  refine ⟨fun h => h c hc rfl, fun h d hd hpos => ?_⟩
  rwa [hd.ext hc hpos]

/--
Does the attempt find the first of the hits, and add only dead ends with the given numbers to the
record if there is none? The record must hold no other choices with these numbers.
-/
def Attempt.Yields (text : Text) (dead : DeadEnds) (ids : Set Nat) (attempt : Attempt)
    (find : Cursor → List Hit) : Prop :=
  ∀ c captures made, c.LiesIn text → Settled dead ids made →
    (attempt c captures made).1 = (find c).head?.map (Hit.after captures) ∧
      (find c = [] → AddsDeadEnds dead ids made (attempt c captures made).2)

namespace Attempt.Yields

variable {text : Text} {dead dead' : DeadEnds} {ids ids' : Set Nat} {attempt other : Attempt}
  {find next : Cursor → List Hit}

/-- What is dead under other numbers does not matter. -/
theorem congr (h : attempt.Yields text dead ids find) (hdead : ∀ id ∈ ids, dead' id = dead id) :
    attempt.Yields text dead' ids find := by
  intro c captures made hc hmade
  have hmade' : Settled dead ids made := fun id hid pos hmem =>
    hdead id hid ▸ hmade id hid pos hmem
  obtain ⟨hfirst, hadds⟩ := h c captures made hc hmade'
  refine ⟨hfirst, fun hnil id pos hmem => ?_⟩
  rcases hadds hnil id pos hmem with hold | ⟨hid, hnew⟩
  · exact Or.inl hold
  · exact Or.inr ⟨hid, by rwa [hdead id hid]⟩

/-- What is said of a number that the attempt does not use does not matter. -/
theorem update {id : Nat} (h : attempt.Yields text dead ids find) (hid : id ∉ ids)
    (positions : Nat → Prop) :
    attempt.Yields text (Function.update dead id positions) ids find :=
  h.congr fun _ hi => Function.update_of_ne (ne_of_mem_of_not_mem hi hid) _ _

/-- More numbers may be allowed. -/
theorem mono (h : attempt.Yields text dead ids find) (hids : ids ⊆ ids') :
    attempt.Yields text dead ids' find := by
  intro c captures made hc hmade
  obtain ⟨hfirst, hadds⟩ := h c captures made hc fun id hid => hmade id (hids hid)
  refine ⟨hfirst, fun hnil id pos hmem => ?_⟩
  rcases hadds hnil id pos hmem with hold | ⟨hid, hnew⟩
  · exact Or.inl hold
  · exact Or.inr ⟨hids hid, hnew⟩

/-- To accept is to stop where one is. -/
theorem accept : Attempt.accept.Yields text dead ids fun c => [.here c] := by
  intro c captures made _ _
  exact ⟨rfl, by simp⟩

/-- The second attempt is made under a record that the first has kept harmless. -/
theorem orElse (h : attempt.Yields text dead ids find) (h' : other.Yields text dead ids next) :
    (attempt.orElse other).Yields text dead ids fun c => find c ++ next c := by
  intro c captures made hc hmade
  obtain ⟨hfirst, hadds⟩ := h c captures made hc hmade
  unfold Attempt.orElse
  cases hfind : find c with
  | cons hit hits =>
    rw [hfind] at hfirst
    simp only [List.head?_cons, Option.map_some] at hfirst
    split
    · next heq => simp_all
    · next heq => simp_all
  | nil =>
    rw [hfind] at hfirst
    have hadds := hadds hfind
    split
    · next heq => simp_all
    · next later heq =>
      rw [heq] at hadds
      obtain ⟨hsecond, hmore⟩ := h' c captures later hc (hmade.of_adds hadds)
      refine ⟨by simpa [hfind] using hsecond, fun hnil => hadds.trans (hmore ?_)⟩
      simpa [hfind] using hnil

/-- A choice that was made before has no hits; one that fails now joins the dead ends. -/
theorem once {id : Nat} (h : attempt.Yields text dead ids find) (hid : id ∉ ids)
    (hdead : ∀ c : Cursor, c.LiesIn text → (dead id c.pos ↔ find c = [])) :
    (Attempt.once id attempt).Yields text dead (insert id ids) find := by
  intro c captures made hc hmade
  unfold Attempt.once
  split
  · next hmem =>
    have hmade' := hmade id (Set.mem_insert id ids) c.pos (Std.HashSet.mem_iff_contains.mpr hmem)
    have hnil : find c = [] := (hdead c hc).mp hmade'
    exact ⟨by simp [hnil], fun _ => AddsDeadEnds.refl dead _ made⟩
  · have hmade' : Settled dead ids (made.insert (id, c.pos)) := by
      intro id' hid' pos hmem
      rcases Std.HashSet.mem_insert.mp hmem with heq | hold
      · have : id = id' := by simp_all
        exact absurd (this ▸ hid') hid
      · exact hmade id' (Set.mem_insert_of_mem id hid') pos hold
    obtain ⟨hfirst, hadds⟩ := h c captures _ hc hmade'
    refine ⟨hfirst, fun hnil id' pos hmem => ?_⟩
    rcases hadds hnil id' pos hmem with hold | ⟨hid', hnew⟩
    · rcases Std.HashSet.mem_insert.mp hold with heq | hold
      · obtain ⟨rfl, rfl⟩ : id = id' ∧ c.pos = pos := by simp_all
        exact Or.inr ⟨Set.mem_insert id ids, (hdead c hc).mpr hnil⟩
      · exact Or.inl hold
    · exact Or.inr ⟨Set.mem_insert_of_mem id hid', hnew⟩

/-- A new choice is a dead end wherever it has no hits. -/
theorem once_update {id : Nat} {deadEnd : Cursor → Prop} (h : attempt.Yields text dead ids find)
    (hid : id ∉ ids) (hdead : ∀ c, deadEnd c ↔ find c = []) :
    (Attempt.once id attempt).Yields text (Function.update dead id (atPosition text deadEnd))
      (insert id ids) find := by
  refine (h.update hid _).once hid fun c hc => ?_
  rw [Function.update_self, atPosition_iff hc]
  exact hdead c

/-- The positions that are tried in a row, under a record that each failure keeps harmless. -/
theorem firstOf (h : attempt.Yields text dead ids find) (captures : Captures)
    {cursors : List Cursor} {made : Made} (hcursors : ∀ c ∈ cursors, c.LiesIn text)
    (hmade : Settled dead ids made) :
    (Attempt.firstOf attempt captures cursors made).1 =
        cursors.findSome? (fun c => (find c).head?.map (Hit.after captures)) ∧
      ((∀ c ∈ cursors, find c = []) →
        AddsDeadEnds dead ids made (Attempt.firstOf attempt captures cursors made).2) := by
  induction cursors generalizing made with
  | nil => exact ⟨rfl, fun _ => AddsDeadEnds.refl dead ids made⟩
  | cons c cs ih =>
    obtain ⟨hfirst, hadds⟩ := h c captures made (hcursors c List.mem_cons_self) hmade
    unfold Attempt.firstOf
    cases hfind : find c with
    | cons hit hits =>
      rw [hfind] at hfirst
      simp only [List.head?_cons, Option.map_some] at hfirst
      split
      · next heq => simp_all
      · next heq => simp_all
    | nil =>
      rw [hfind] at hfirst
      have hadds := hadds hfind
      split
      · next heq => simp_all
      · next later heq =>
        rw [heq] at hadds
        obtain ⟨hrest, hmore⟩ :=
          ih (fun d hd => hcursors d (List.mem_cons_of_mem c hd)) (hmade.of_adds hadds)
        refine ⟨by simpa [hfind] using hrest, fun hnil => hadds.trans (hmore ?_)⟩
        exact fun d hd => hnil d (List.mem_cons_of_mem c hd)

end Attempt.Yields

/-- A run ends where its choice was made before. -/
theorem Attempt.spanCursors_of_mem {id : Nat} {made : Made} {c : Cursor}
    (h : (id, c.pos) ∈ made) (s : CharSet) (behind : List Cursor) :
    spanCursors id s behind made c.pos c.prev c.rest = (behind, made) := by
  obtain ⟨pos, prev, rest⟩ := c
  rw [Std.HashSet.mem_iff_contains] at h
  cases rest <;> rw [spanCursors, if_pos h]

/-- A run that ends at once has one position. -/
theorem Attempt.spanCursors_of_stop {id : Nat} {s : CharSet} {made : Made} {c : Cursor}
    (h : (id, c.pos) ∉ made) (hrun : c.runLength s.contains = 0) (behind : List Cursor) :
    spanCursors id s behind made c.pos c.prev c.rest =
      (c :: behind, made.insert (id, c.pos)) := by
  obtain ⟨pos, prev, rest⟩ := c
  rw [Std.HashSet.mem_iff_contains] at h
  cases rest with
  | nil => rw [spanCursors, if_neg h]
  | cons x rest =>
    have hx : ¬ s.contains x = true := by
      intro hx
      simp [Cursor.runLength, hx] at hrun
    rw [spanCursors, if_neg h, if_neg hx]

/-- A run that goes on has its first position and those behind it. -/
theorem Attempt.spanCursors_of_step {id : Nat} {s : CharSet} {made : Made} {c : Cursor}
    (h : (id, c.pos) ∉ made) (hrun : c.runLength s.contains ≠ 0) (behind : List Cursor) :
    spanCursors id s behind made c.pos c.prev c.rest =
      spanCursors id s (c :: behind) (made.insert (id, c.pos)) (c.skip 1).pos (c.skip 1).prev
        (c.skip 1).rest := by
  obtain ⟨pos, prev, rest⟩ := c
  rw [Std.HashSet.mem_iff_contains] at h
  cases rest with
  | nil => simp [Cursor.runLength] at hrun
  | cons x rest =>
    have hx : s.contains x = true := by
      by_contra hx
      simp [Cursor.runLength, hx] at hrun
    rw [spanCursors, if_neg h, if_pos hx, Cursor.skip_one]

/--
The positions along a run are those up to its end, or up to one where the choice was made before;
the choice is then on record at all of them.
-/
theorem Attempt.spanCursors_spec (id : Nat) (s : CharSet) (behind : List Cursor) (made : Made)
    (c : Cursor) :
    ∃ count ≤ c.runLength s.contains + 1,
      (spanCursors id s behind made c.pos c.prev c.rest).1 =
          (List.range count).reverse.map c.skip ++ behind ∧
        (∀ id' pos, (id', pos) ∈ (spanCursors id s behind made c.pos c.prev c.rest).2 →
          (id', pos) ∈ made ∨ id' = id ∧ ∃ i < count, pos = c.pos + i) ∧
        (count ≤ c.runLength s.contains → (id, c.pos + count) ∈ made) := by
  induction hrun : c.runLength s.contains generalizing c behind made with
  | zero =>
    by_cases hmem : (id, c.pos) ∈ made
    · rw [spanCursors_of_mem hmem]
      exact ⟨0, by omega, by simp, fun _ _ hin => Or.inl hin, fun _ => hmem⟩
    · rw [spanCursors_of_stop hmem hrun]
      refine ⟨1, le_rfl, by simp, fun id' pos hin => ?_, by omega⟩
      rcases Std.HashSet.mem_insert.mp hin with heq | hold
      · obtain ⟨rfl, rfl⟩ : id = id' ∧ c.pos = pos := by simpa using heq
        exact Or.inr ⟨rfl, 0, by simp⟩
      · exact Or.inl hold
  | succ run ih =>
    by_cases hmem : (id, c.pos) ∈ made
    · rw [spanCursors_of_mem hmem]
      exact ⟨0, by omega, by simp, fun _ _ hin => Or.inl hin, fun _ => hmem⟩
    · have hstep : (c.skip 1).runLength s.contains = run := by
        rw [Cursor.runLength_skip (by omega)]
        omega
      obtain ⟨count, hcount, hcursors, hrecord, hstop⟩ :=
        ih (c :: behind) (made.insert (id, c.pos)) (c.skip 1) hstep
      rw [spanCursors_of_step hmem (by omega)]
      refine ⟨count + 1, by omega, ?_, fun id' pos hin => ?_, fun hle => ?_⟩
      · rw [hcursors, List.range_succ_eq_map]
        simp [Function.comp_def, Nat.add_comm 1]
      · rcases hrecord id' pos hin with hold | ⟨rfl, i, hi, rfl⟩
        · rcases Std.HashSet.mem_insert.mp hold with heq | hold
          · obtain ⟨rfl, rfl⟩ : id = id' ∧ c.pos = pos := by simpa using heq
            exact Or.inr ⟨rfl, 0, by simp⟩
          · exact Or.inl hold
        · exact Or.inr ⟨rfl, i + 1, by omega, by simp only [Cursor.skip_pos]; omega⟩
      · rcases Std.HashSet.mem_insert.mp (hstop (by omega)) with heq | hold
        · have : c.pos = c.pos + 1 + count := by simpa using heq
          omega
        · rwa [Cursor.skip_pos, Nat.add_assoc, Nat.add_comm 1] at hold

/-- From the last number back nothing is found in front of those where something may be found. -/
theorem findSome?_reverse_range {β : Type} {f : Nat → Option β} {count n : Nat}
    (hcount : count ≤ n) (hnone : ∀ i, count ≤ i → i < n → f i = none) :
    (List.range n).reverse.findSome? f = (List.range count).reverse.findSome? f := by
  obtain ⟨more, rfl⟩ := Nat.exists_eq_add_of_le hcount
  have hbehind : ((List.range more).map (count + ·)).reverse.findSome? f = none := by
    rw [List.findSome?_eq_none_iff]
    intro i hi
    obtain ⟨j, hj, rfl⟩ : ∃ j < more, count + j = i := by simpa using hi
    exact hnone (count + j) (Nat.le_add_right count j) (by omega)
  rw [List.range_add, List.reverse_append, List.findSome?_append, hbehind, Option.none_or]

namespace Attempt.Yields

variable {text : Text} {dead dead' : DeadEnds} {ids ids' : Set Nat} {attempt : Attempt}
  {find : Cursor → List Hit}

/--
A run tries its positions from the last one back to the first. Where it stops short, the choice
was a dead end before, so the positions behind lead nowhere either.
-/
theorem span {id : Nat} {s : CharSet} (ascii : Bool) (h : attempt.Yields text dead ids find)
    (hid : id ∉ ids)
    (hdead : ∀ c : Cursor, c.LiesIn text →
      (dead id c.pos ↔ ∀ i ≤ c.runLength s.contains, find (c.skip i) = [])) :
    (Attempt.span id true s attempt).Yields text dead (insert id ids) fun c =>
      andThen ((Expr.repetition (.set s ascii) 0 none true).outcomes c) find := by
  intro c captures made hc hmade
  have hrun := c.runLength_le s.contains
  have hlies : ∀ i ≤ c.runLength s.contains, (c.skip i).LiesIn text :=
    fun i hi => hc.skip (hi.trans hrun)
  obtain ⟨count, hcount, hcursors, hrecord, hstop⟩ := spanCursors_spec id s [] made c
  unfold Attempt.span
  simp only [if_true]
  generalize spanCursors id s [] made c.pos c.prev c.rest = found at hcursors hrecord ⊢
  have hbehind : ∀ i, count ≤ i → i ≤ c.runLength s.contains → find (c.skip i) = [] := by
    intro i hlow hi
    have hrecorded := hmade id (Set.mem_insert id ids) _ (hstop (by omega))
    have hnone := (hdead (c.skip count) (hlies count (by omega))).mp hrecorded (i - count)
      (by rw [Cursor.runLength_skip (by omega)]; omega)
    rwa [Cursor.skip_skip, Nat.add_sub_cancel' hlow] at hnone
  have hmade' : Settled dead ids found.2 := by
    intro id' hid' pos hin
    rcases hrecord id' pos hin with hold | ⟨rfl, -⟩
    · exact hmade id' (Set.mem_insert_of_mem id hid') pos hold
    · exact absurd hid' hid
  have hall : ∀ d ∈ found.1, d.LiesIn text := by
    rw [hcursors]
    intro d hd
    obtain ⟨i, hi, rfl⟩ : ∃ i < count, c.skip i = d := by simpa using hd
    exact hlies i (by omega)
  obtain ⟨hfirst, hadds⟩ := h.firstOf captures hall hmade'
  constructor
  · rw [hfirst, hcursors, head?_andThen, Expr.outcomes_star]
    have hnone : ∀ i, count ≤ i → i < c.runLength s.contains + 1 →
        (find (c.skip i)).head? = none := by
      intro i hlow hi
      rw [hbehind i hlow (Nat.le_of_lt_succ hi), List.head?_nil]
    simp only [List.append_nil, List.findSome?_map, Function.comp_def, Hit.here_stop,
      Hit.here_captures, Hit.after_nil_eq_id, Option.map_id, id_eq]
    rw [findSome?_reverse_range hcount hnone, List.map_findSome?]
    rfl
  · intro hnil id' pos hin
    rw [andThen_eq_nil, Expr.outcomes_star] at hnil
    have hfails : ∀ i ≤ c.runLength s.contains, find (c.skip i) = [] := by
      intro i hi
      exact hnil (Hit.here (c.skip i)) (List.mem_map.mpr ⟨i, by simp; omega, rfl⟩)
    have hnone : ∀ d ∈ found.1, find d = [] := by
      rw [hcursors]
      intro d hd
      obtain ⟨i, hi, rfl⟩ : ∃ i < count, c.skip i = d := by simpa using hd
      exact hfails i (by omega)
    rcases hadds hnone id' pos hin with hrecorded | ⟨hid', hnew⟩
    · rcases hrecord id' pos hrecorded with hold | ⟨rfl, i, hi, rfl⟩
      · exact Or.inl hold
      · refine Or.inr ⟨Set.mem_insert id' ids, (hdead (c.skip i) (hlies i (by omega))).mpr ?_⟩
        intro j hj
        rw [Cursor.runLength_skip (by omega)] at hj
        rw [Cursor.skip_skip]
        exact hfails (i + j) (by omega)
    · exact Or.inr ⟨Set.mem_insert_of_mem id hid', hnew⟩

/-- A text is skipped or the attempt fails. -/
theorem text_run (h : attempt.Yields text dead ids find) (budget : Nat) (chars : Text) :
    (Program.run budget (.text chars) 0 attempt).Yields text dead ids fun c =>
      andThen ((Expr.text chars).outcomes c) find := by
  intro c captures made hc hmade
  simp only [Program.run, Cursor.skipText?_eq, Expr.outcomes_text]
  by_cases hp : chars <+: c.rest
  · simpa [hp] using h (c.skip chars.length) captures made (hc.skip hp.length_le) hmade
  · simp [hp, AddsDeadEnds.refl]

/-- A member of a set is skipped or the attempt fails. -/
theorem set_run (h : attempt.Yields text dead ids find) (budget : Nat) (s : CharSet)
    (ascii : Bool) :
    (Program.run budget (.set s) 0 attempt).Yields text dead ids fun c =>
      andThen ((Expr.set s ascii).outcomes c) find := by
  intro c captures made hc hmade
  simp only [Program.run, Cursor.skipSet?_eq, Expr.outcomes_set]
  by_cases hp : c.rest.head?.any s.contains = true
  · have hlength : 1 ≤ c.rest.length := by
      cases hrest : c.rest <;> simp_all
    simpa [hp] using h (c.skip 1) captures made (hc.skip hlength) hmade
  · simp [hp, AddsDeadEnds.refl]

/-- A condition holds or the attempt fails. -/
theorem look_run (h : attempt.Yields text dead ids find) (budget : Nat) (l : Look) :
    (Program.run budget (.look l) 0 attempt).Yields text dead ids fun c =>
      andThen ((Expr.look l).outcomes c) find := by
  intro c captures made hc hmade
  simp only [Program.run, Expr.outcomes_look]
  by_cases hp : l.holds c = true
  · simpa [hp] using h c captures made hc hmade
  · simp [hp, AddsDeadEnds.refl]

/-- What a group took is put in front of what was taken before. -/
theorem capture (h : attempt.Yields text dead ids find) (name : Text) (start : Cursor) :
    Attempt.Yields text dead ids
      (fun d captures made => attempt d ((name, ⟨start, d⟩) :: captures) made)
      fun d => (find d).map (Hit.after [(name, ⟨start, d⟩)]) := by
  intro d captures made hd hmade
  obtain ⟨hfirst, hadds⟩ := h d ((name, ⟨start, d⟩) :: captures) made hd hmade
  refine ⟨?_, fun hnil => hadds (by simpa using hnil)⟩
  rw [hfirst, List.head?_map, Option.map_map]
  simp [Function.comp_def]

end Attempt.Yields

end Sentinels.Pattern
