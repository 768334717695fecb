import Sentinels.Pattern.Compiled
import Sentinels.Proofs.Pattern.Flat

/-!
# Scanning a text from left to right

The matches in a text are found from left to right: at each position the first outcome is taken, and
the scan goes on behind it; without an outcome the scan passes one character. `Scans` says this as a
relation, which has one result for each text. The search of a flat expression that never matches
the empty text is such a scan (`Expr.Flat.findAll_scans`).
-/

set_option autoImplicit false

namespace Sentinels.Pattern

/-- The matches from a position on, where `find` tells what is found at each position. -/
inductive Scans (find : Cursor → Option Hit) : Cursor → List Match → Prop
  | done {c : Cursor} (hrest : c.rest = []) (hnone : find c = none) : Scans find c []
  | pass {c : Cursor} {ms : List Match} (hrest : c.rest ≠ []) (hnone : find c = none)
    (h : Scans find (c.skip 1) ms) : Scans find c ms
  | take {c : Cursor} {hit : Hit} {ms : List Match} (hfind : find c = some hit)
    (h : Scans find hit.stop ms) : Scans find c (⟨c, hit.stop, hit.captures⟩ :: ms)

namespace Scans

variable {find : Cursor → Option Hit} {c : Cursor} {ms : List Match}

/-- A text has one list of matches. -/
theorem unique {ms' : List Match} (h : Scans find c ms) (h' : Scans find c ms') : ms = ms' := by
  induction h generalizing ms' with
  | done hrest hnone =>
    cases h' with
    | done => rfl
    | pass hrest' => exact absurd hrest hrest'
    | take hfind => simp_all
  | pass hrest hnone _ ih =>
    cases h' with
    | done hrest' => exact absurd hrest' hrest
    | pass _ _ h' => exact ih h'
    | take hfind => simp_all
  | take hfind _ ih =>
    cases h' with
    | done _ hnone => simp_all
    | pass _ hnone => simp_all
    | take hfind' h' =>
      obtain rfl : _ = _ := Option.some.inj (hfind.symm.trans hfind')
      rw [ih h']

/-- The first match begins at the position or behind it. -/
theorem exists_start {m : Match} (h : Scans find c (m :: ms)) : ∃ n, m.start = c.skip n := by
  generalize hlist : m :: ms = list at h
  induction h with
  | done => simp at hlist
  | pass _ _ _ ih =>
    obtain ⟨n, hn⟩ := ih hlist
    exact ⟨1 + n, by rw [hn, Cursor.skip_skip]⟩
  | take _ _ _ =>
    obtain ⟨rfl, -⟩ := List.cons.inj hlist
    exact ⟨0, (Cursor.skip_zero _).symm⟩

/-- No match begins in front of the position. -/
theorem pos_le_start (hfind : ∀ d hit, find d = some hit → d.pos ≤ hit.stop.pos)
    (h : Scans find c ms) {m : Match} (hm : m ∈ ms) : c.pos ≤ m.start.pos := by
  induction h with
  | done => exact absurd hm List.not_mem_nil
  | pass _ _ _ ih => exact (Nat.le_add_right _ 1).trans (ih hm)
  | take hfound _ ih =>
    rcases List.mem_cons.1 hm with rfl | hlater
    · exact Nat.le_refl _
    · exact (hfind _ _ hfound).trans (ih hlater)

/-- Positions without a match are passed. -/
theorem pass_many {n : Nat} (hn : n ≤ c.rest.length) (hnone : ∀ i < n, find (c.skip i) = none)
    (h : Scans find (c.skip n) ms) : Scans find c ms := by
  induction n generalizing c with
  | zero => simpa using h
  | succ n ih =>
    have hlength : (c.skip 1).rest.length = c.rest.length - 1 := by simp
    refine .pass (by intro hnil; simp [hnil] at hn) (by simpa using hnone 0 (by omega)) ?_
    refine ih (by omega) (fun i hi => ?_) ?_
    · rw [Cursor.skip_skip, Nat.add_comm 1]
      exact hnone (i + 1) (by omega)
    · rwa [Cursor.skip_skip, Nat.add_comm 1]

/-- Where nothing is found up to the end there are no matches. -/
theorem nil_of_forall (hnone : ∀ i ≤ c.rest.length, find (c.skip i) = none) : Scans find c [] :=
  pass_many le_rfl (fun i hi => hnone i hi.le) (.done (by simp) (hnone _ le_rfl))

end Scans

/-- The next match behind a position: none, or the one at the first position with an outcome. -/
inductive Next (find : Cursor → Option Hit) (c : Cursor) : Option Match → Prop
  | missing (hnone : ∀ i ≤ c.rest.length, find (c.skip i) = none) : Next find c none
  | found {n : Nat} {hit : Hit} (hn : n ≤ c.rest.length) (hnone : ∀ i < n, find (c.skip i) = none)
    (hfound : find (c.skip n) = some hit) :
    Next find c (some ⟨c.skip n, hit.stop, hit.captures⟩)

/-- A position without an outcome is passed. -/
theorem Next.pass {find : Cursor → Option Hit} {c : Cursor} {result : Option Match}
    (hrest : c.rest ≠ []) (hhere : find c = none) (h : Next find (c.skip 1) result) :
    Next find c result := by
  have hlength : (c.skip 1).rest.length + 1 = c.rest.length := by
    have hpositive := List.length_pos_iff.2 hrest
    rw [Cursor.skip_rest, List.length_drop]
    omega
  have hskip : ∀ i, (c.skip 1).skip i = c.skip (i + 1) := by
    intro i
    rw [Cursor.skip_skip, Nat.add_comm]
  have hpassed : ∀ n, (∀ i < n, find ((c.skip 1).skip i) = none) →
      ∀ i < n + 1, find (c.skip i) = none := by
    intro n hn i hi
    cases i with
    | zero => simpa using hhere
    | succ i => exact hskip i ▸ hn i (by omega)
  cases h with
  | missing hnone =>
    refine .missing fun i hi => hpassed c.rest.length (fun j hj => hnone j ?_) i ?_
    · omega
    · omega
  | @found n hit hn hnone hfound =>
    rw [hskip] at hfound ⊢
    exact .found (by omega) (hpassed n hnone) hfound

namespace Expr

variable {e : Expr} {text : Text} {budget : Nat} {dead : DeadEnds} {ids : Set Nat}

/-- The search stops at the first position with an outcome, and it passes all others. -/
theorem searchFrom_next
    (hrun : (e.program.run budget 0 .accept).Yields text dead ids e.outcomes)
    {c : Cursor} {made : Made} (hc : c.LiesIn text) (hmade : Settled dead ids made) :
    Next e.first? c (e.program.searchFrom budget made c.pos c.prev c.rest) := by
  obtain ⟨pos, prev, rest⟩ := c
  induction rest generalizing pos prev made with
  | nil =>
    obtain ⟨hfirst, -⟩ := hrun ⟨pos, prev, []⟩ [] made hc hmade
    simp only [Hit.after_nil_eq_id, Option.map_id, id_eq] at hfirst
    simp only [Program.searchFrom]
    split
    · next hit later heq =>
      rw [heq] at hfirst
      refine .found (Nat.zero_le _) (by simp) ?_
      rw [Cursor.skip_zero]
      exact hfirst.symm
    · next later heq =>
      rw [heq] at hfirst
      refine .missing fun i hi => ?_
      obtain rfl : i = 0 := by simpa using hi
      rw [Cursor.skip_zero]
      exact hfirst.symm
  | cons x rest ih =>
    obtain ⟨hfirst, hadds⟩ := hrun ⟨pos, prev, x :: rest⟩ [] made hc hmade
    simp only [Hit.after_nil_eq_id, Option.map_id, id_eq] at hfirst
    simp only [Program.searchFrom]
    split
    · next hit later heq =>
      rw [heq] at hfirst
      refine .found (Nat.zero_le _) (by simp) ?_
      rw [Cursor.skip_zero]
      exact hfirst.symm
    · next later heq =>
      rw [heq] at hfirst hadds
      have hnil : e.outcomes ⟨pos, prev, x :: rest⟩ = [] := by simpa using hfirst.symm
      have hnext : Cursor.LiesIn text ⟨pos + 1, some x, rest⟩ := by
        rw [← Cursor.skip_one prev]
        exact hc.skip (by simp)
      refine .pass (List.cons_ne_nil x rest) hfirst.symm ?_
      rw [Cursor.skip_one prev]
      exact ih (hmade.of_adds (hadds hnil)) (pos + 1) (some x) hnext

/-- The search behind a position finds the next match, or that there is none. -/
theorem Flat.search?_next (h : Flat e) (budget : Nat) {c : Cursor} (hc : c.LiesIn text) :
    Next e.first? c (e.program.search? budget c) := by
  obtain ⟨dead, ids, hrun⟩ := h.run_yields text budget
  have hempty : Settled dead ids ∅ := fun _ _ _ hmem => absurd hmem Std.HashSet.not_mem_empty
  exact searchFrom_next hrun hc hempty

/-- Does no match of the expression take the empty text? -/
def NeverEmpty (e : Expr) : Prop :=
  ∀ (c : Cursor) (hit : Hit), e.first? c = some hit → c.pos < hit.stop.pos

/-- A match ends in the text it begins in. -/
theorem liesIn_of_first? {c : Cursor} {hit : Hit} (hc : c.LiesIn text)
    (hfound : e.first? c = some hit) : hit.stop.LiesIn text := by
  obtain ⟨n, hn, hstop⟩ :=
    e.outcomes_leadsForward c hit (List.mem_of_mem_head? (Option.mem_def.mpr hfound))
  rw [hstop]
  exact hc.skip hn

/-- The matches behind a position are those of the scan from there. -/
theorem Flat.matchesFrom_scans (h : Flat e) (hempty : NeverEmpty e) {fuel : Nat}
    {last : Option Nat} {c : Cursor} (hc : c.LiesIn text) (hfuel : c.rest.length < fuel) :
    Scans e.first? c (e.program.matchesFrom budget fuel last c) := by
  induction fuel generalizing last c with
  | zero => omega
  | succ fuel ih =>
    simp only [Program.matchesFrom, Program.nextMatch?]
    generalize hsearch : e.program.search? budget c = result
    have hnext := h.search?_next budget hc
    rw [hsearch] at hnext
    cases hnext with
    | missing hnone => exact .nil_of_forall hnone
    | @found n hit hn hnone hfound =>
      have hstart := hc.skip hn
      have hstop := liesIn_of_first? hstart hfound
      have hlt := hempty _ _ hfound
      have hlen := hstop.pos_add_length
      have hlen' := hc.pos_add_length
      have hnonempty : Match.isEmpty ⟨c.skip n, hit.stop, hit.captures⟩ = false := by
        simp only [Match.isEmpty, beq_eq_false_iff_ne]
        omega
      simp only [hnonempty, Bool.false_and, Bool.false_eq_true, if_false]
      simp only [Cursor.skip_pos] at hlt
      exact .pass_many hn hnone (.take hfound (ih hstop (by omega)))

/-- The matches of a flat expression that never matches the empty text are those of the scan. -/
theorem Flat.findAll_scans (h : Flat e) (hempty : NeverEmpty e) (source text : Text) :
    Scans e.first? (.start text) ((ofExpr source e).findAll text) :=
  h.matchesFrom_scans hempty (Cursor.liesIn_start text) (by simp [Cursor.start])

end Expr

end Sentinels.Pattern
