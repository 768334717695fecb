import Sentinels.Pattern.Compiled
import Sentinels.Proofs.Pattern.Memory

/-!
# Searches only move forward

Whatever a program consists of, its runs only move forward in the text they search, and its groups
take parts of what was passed since the run began. `Attempt.Advances` says this of an attempt and
has one rule for each combinator of attempts, so `Program.run_advances` goes through the programs
one construct after the other. The matches in a text therefore lie in it from left to right without
overlap, and an empty one does not begin where the match before it ends.
-/

set_option autoImplicit false

namespace Sentinels.Pattern

/-- Does a capture lie in a text, between two positions? -/
structure Capture.LiesIn (text : Text) (first last : Nat) (capture : Capture) : Prop where
  start_liesIn : capture.start.LiesIn text
  stop_liesIn : capture.stop.LiesIn text
  first_le : first ≤ capture.start.pos
  start_le_stop : capture.start.pos ≤ capture.stop.pos
  stop_le : capture.stop.pos ≤ last

/-- A capture that lies between two positions lies in front of every later one. -/
theorem Capture.LiesIn.mono {text : Text} {first last later : Nat} {capture : Capture}
    (h : capture.LiesIn text first last) (hle : last ≤ later) : capture.LiesIn text first later :=
  { h with stop_le := h.stop_le.trans hle }

/-- What was taken is a part of the text. -/
theorem Capture.LiesIn.text_eq {text : Text} {first last : Nat} {capture : Capture}
    (h : capture.LiesIn text first last) :
    capture.text = (text.take capture.stop.pos).drop capture.start.pos := by
  rw [Capture.text, Cursor.textTo, h.start_liesIn.rest_eq, List.drop_take]

/-- Has a run come from `origin` to a position in the text, with all captures between them? -/
structure Reaches (text : Text) (origin : Nat) (c : Cursor) (captures : Captures) : Prop where
  liesIn : c.LiesIn text
  origin_le : origin ≤ c.pos
  captures_lie : ∀ entry ∈ captures, entry.2.LiesIn text origin c.pos

namespace Reaches

variable {text : Text} {origin : Nat} {c d : Cursor} {captures : Captures}

/-- A run begins without captures. -/
theorem start (hc : c.LiesIn text) : Reaches text c.pos c [] :=
  ⟨hc, le_rfl, fun _ hentry => absurd hentry List.not_mem_nil⟩

/-- Captures stay behind a run that moves on. -/
theorem skip (h : Reaches text origin c captures) {n : Nat} (hn : n ≤ c.rest.length) :
    Reaches text origin (c.skip n) captures := by
  have hle : c.pos ≤ (c.skip n).pos := Nat.le_add_right c.pos n
  refine ⟨h.liesIn.skip hn, h.origin_le.trans hle, ?_⟩
  intro entry hentry
  exact (h.captures_lie entry hentry).mono hle

/-- What was passed since an earlier position may be taken. -/
theorem capture (h : Reaches text origin d captures) (hc : c.LiesIn text) (horigin : origin ≤ c.pos)
    (hle : c.pos ≤ d.pos) (name : Text) : Reaches text origin d ((name, ⟨c, d⟩) :: captures) := by
  refine ⟨h.liesIn, h.origin_le, ?_⟩
  intro entry hentry
  rcases List.mem_cons.1 hentry with rfl | hold
  · exact ⟨hc, h.liesIn, horigin, hle, le_rfl⟩
  · exact h.captures_lie entry hold

end Reaches

/-- Does every success of the attempt from `floor` on lie further on in the text? -/
def Attempt.Advances (text : Text) (origin floor : Nat) (attempt : Attempt) : Prop :=
  ∀ c captures made hit, Reaches text origin c captures → floor ≤ c.pos →
    (attempt c captures made).1 = some hit →
      Reaches text origin hit.stop hit.captures ∧ c.pos ≤ hit.stop.pos

namespace Attempt.Advances

variable {text : Text} {origin floor : Nat} {attempt other next : Attempt}

/-- No success is asked for. -/
theorem fail : Attempt.fail.Advances text origin floor := by
  intro c captures made hit _ _ hrun
  simp [Attempt.fail] at hrun

/-- To accept is to stay. -/
theorem accept : Attempt.accept.Advances text origin floor := by
  intro c captures made hit hreach _ hrun
  obtain rfl : ⟨c, captures⟩ = hit := by simpa [Attempt.accept] using hrun
  exact ⟨hreach, le_rfl⟩

/-- A higher floor asks for less. -/
theorem mono {higher : Nat} (h : attempt.Advances text origin floor) (hle : floor ≤ higher) :
    attempt.Advances text origin higher :=
  fun c captures made hit hreach hfloor => h c captures made hit hreach (hle.trans hfloor)

/-- Either attempt may succeed. -/
theorem orElse (h : attempt.Advances text origin floor) (h' : other.Advances text origin floor) :
    (attempt.orElse other).Advances text origin floor := by
  intro c captures made hit hreach hfloor hrun
  unfold Attempt.orElse at hrun
  split at hrun
  · next first later heq =>
    obtain rfl : first = hit := Option.some.inj hrun
    exact h c captures made first hreach hfloor (by rw [heq])
  · next later heq => exact h' c captures later hit hreach hfloor hrun

/-- A choice that is made before fails. -/
theorem once (h : attempt.Advances text origin floor) (id : Nat) :
    (Attempt.once id attempt).Advances text origin floor := by
  intro c captures made hit hreach hfloor hrun
  unfold Attempt.once at hrun
  split at hrun
  · simp at hrun
  · exact h c captures _ hit hreach hfloor hrun

/-- Greed only says which attempt comes first. -/
theorem choose (h : attempt.Advances text origin floor) (h' : other.Advances text origin floor)
    (greedy : Bool) : (Attempt.choose greedy attempt other).Advances text origin floor := by
  cases greedy with
  | true => exact h.orElse h'
  | false => exact h'.orElse h

/-- From a position further on an attempt leads further on. -/
theorem apply_skip (h : next.Advances text origin floor) {c : Cursor} {captures : Captures}
    {made : Made} {hit : Hit} {n : Nat} (hreach : Reaches text origin c captures)
    (hfloor : floor ≤ c.pos) (hn : n ≤ c.rest.length)
    (hrun : (next (c.skip n) captures made).1 = some hit) :
    Reaches text origin hit.stop hit.captures ∧ c.pos ≤ hit.stop.pos := by
  have hle : c.pos ≤ (c.skip n).pos := Nat.le_add_right c.pos n
  obtain ⟨hhit, hstop⟩ := h _ captures made hit (hreach.skip hn) (hfloor.trans hle) hrun
  exact ⟨hhit, hle.trans hstop⟩

section Copies

variable {body : Nat → Attempt → Attempt}

/-- A number of copies advances if each one does. -/
theorem chain
    (hbody : ∀ offset attempt, attempt.Advances text origin floor →
      (body offset attempt).Advances text origin floor)
    (hnext : next.Advances text origin floor) (width count offset : Nat) :
    (Attempt.chain width body next count offset).Advances text origin floor := by
  induction count generalizing offset with
  | zero => exact hnext
  | succ count ih => exact hbody offset _ (ih (offset + width))

/-- Up to a number of copies advances if each one does. -/
theorem optionals
    (hbody : ∀ offset attempt, attempt.Advances text origin floor →
      (body offset attempt).Advances text origin floor)
    (hnext : next.Advances text origin floor) (width id : Nat) (greedy : Bool)
    (count offset : Nat) :
    (Attempt.optionals width id greedy body next count offset).Advances text origin floor := by
  induction count generalizing offset with
  | zero => exact hnext
  | succ count ih => exact ((hbody offset _ (ih (offset + width))).choose hnext greedy).once _

end Copies

/-- Rounds advance if one does. -/
theorem rounds {body : Attempt → Attempt}
    (hbody : ∀ attempt : Attempt, attempt.Advances text origin floor →
      (body attempt).Advances text origin floor)
    (hnext : next.Advances text origin floor) (id : Nat) (greedy : Bool) (fuel : Nat) :
    (Attempt.rounds id greedy body next fuel).Advances text origin floor := by
  induction fuel with
  | zero => exact fail
  | succ fuel ih => exact ((hbody _ ih).choose hnext greedy).once id

/-- The positions that are tried in a row lie further on. -/
theorem firstOf (h : next.Advances text origin floor) {c : Cursor} {captures : Captures}
    {cursors : List Cursor} {made : Made} {hit : Hit} (hreach : Reaches text origin c captures)
    (hfloor : floor ≤ c.pos) (hcursors : ∀ d ∈ cursors, ∃ n ≤ c.rest.length, d = c.skip n)
    (hrun : (Attempt.firstOf next captures cursors made).1 = some hit) :
    Reaches text origin hit.stop hit.captures ∧ c.pos ≤ hit.stop.pos := by
  induction cursors generalizing made with
  | nil => simp [Attempt.firstOf] at hrun
  | cons d cursors ih =>
    unfold Attempt.firstOf at hrun
    split at hrun
    · next first later heq =>
      obtain rfl : first = hit := Option.some.inj hrun
      obtain ⟨n, hn, rfl⟩ := hcursors d List.mem_cons_self
      have hfirst : (next (c.skip n) captures made).1 = some first := by rw [heq]
      exact h.apply_skip hreach hfloor hn hfirst
    · next later heq => exact ih (fun e he => hcursors e (List.mem_cons_of_mem d he)) hrun

/-- The positions along a run lie further on, the nearest first. -/
theorem spanLazily (h : next.Advances text origin floor) {id : Nat} {s : CharSet}
    {captures : Captures} {hit : Hit} {c : Cursor} {made : Made}
    (hreach : Reaches text origin c captures) (hfloor : floor ≤ c.pos)
    (hrun : (Attempt.spanLazily id s next captures made c.pos c.prev c.rest).1 = some hit) :
    Reaches text origin hit.stop hit.captures ∧ c.pos ≤ hit.stop.pos := by
  obtain ⟨pos, prev, rest⟩ := c
  induction rest generalizing pos prev made with
  | nil =>
    unfold Attempt.spanLazily at hrun
    split at hrun
    · simp at hrun
    · exact h ⟨pos, prev, []⟩ captures _ hit hreach hfloor hrun
  | cons x rest ih =>
    unfold Attempt.spanLazily at hrun
    split at hrun
    · simp at hrun
    · split at hrun
      · next first later heq =>
        obtain rfl : first = hit := Option.some.inj hrun
        exact h ⟨pos, prev, x :: rest⟩ captures _ first hreach hfloor (by rw [heq])
      · next later heq =>
        split at hrun
        · have hmoved : Reaches text origin ⟨pos + 1, some x, rest⟩ captures := by
            rw [← Cursor.skip_one prev]
            exact hreach.skip (by simp)
          have hfloor' : floor ≤ pos + 1 := Nat.le_succ_of_le hfloor
          obtain ⟨hhit, hstop⟩ := ih (pos + 1) (some x) hmoved hfloor' hrun
          exact ⟨hhit, Nat.le_of_succ_le hstop⟩
        · simp at hrun

/-- A run of characters advances. -/
theorem span (h : next.Advances text origin floor) (id : Nat) (greedy : Bool) (s : CharSet) :
    (Attempt.span id greedy s next).Advances text origin floor := by
  intro c captures made hit hreach hfloor hrun
  unfold Attempt.span at hrun
  cases greedy with
  | false => exact h.spanLazily hreach hfloor hrun
  | true =>
    obtain ⟨count, hcount, hcursors, -, -⟩ := spanCursors_spec id s [] made c
    have hlength := c.runLength_le s.contains
    refine h.firstOf hreach hfloor ?_ hrun
    rw [hcursors]
    intro d hd
    obtain ⟨n, hn, rfl⟩ : ∃ n < count, c.skip n = d := by simpa using hd
    exact ⟨n, by omega, rfl⟩

/-- What a group took may be kept if it was passed since the floor. -/
theorem keep (h : next.Advances text origin floor) {c : Cursor} (hc : c.LiesIn text)
    (horigin : origin ≤ c.pos) (hfloor : floor ≤ c.pos) (name : Text) :
    Attempt.Advances text origin c.pos
      fun d captures made => next d ((name, ⟨c, d⟩) :: captures) made := by
  intro d captures made hit hreach hle hrun
  exact h d _ made hit (hreach.capture hc horigin hle name) (hfloor.trans hle) hrun

end Attempt.Advances

/-- A program leads further on if what comes behind it does. -/
theorem Program.run_advances {text : Text} {origin floor : Nat} {next : Attempt}
    (program : Program) (budget offset : Nat) (hnext : next.Advances text origin floor) :
    (program.run budget offset next).Advances text origin floor := by
  induction program generalizing offset floor next with
  | empty => exact hnext
  | text chars =>
    intro c captures made hit hreach hfloor hrun
    simp only [run, Cursor.skipText?_eq] at hrun
    by_cases hthere : chars <+: c.rest
    · rw [if_pos hthere] at hrun
      exact hnext.apply_skip hreach hfloor hthere.length_le hrun
    · simp [hthere] at hrun
  | set s =>
    intro c captures made hit hreach hfloor hrun
    simp only [run, Cursor.skipSet?_eq] at hrun
    by_cases hhead : c.rest.head?.any s.contains = true
    · rw [if_pos hhead] at hrun
      have hlength : 1 ≤ c.rest.length := by
        cases hrest : c.rest <;> simp_all
      exact hnext.apply_skip hreach hfloor hlength hrun
    · simp [hhead] at hrun
  | look l =>
    intro c captures made hit hreach hfloor hrun
    simp only [run] at hrun
    split at hrun
    · exact hnext c captures made hit hreach hfloor hrun
    · simp at hrun
  | group name body ih =>
    -- The body is run from here on, so whatever its end is, the group takes what was passed.
    intro c captures made hit hreach hfloor hrun
    have hkeep := hnext.keep hreach.liesIn hreach.origin_le hfloor name
    exact ih offset hkeep c captures made hit hreach le_rfl hrun
  | seq first rest ihf ihr => exact ihf offset (ihr offset hnext)
  | fork id first second ihf ihs => exact ((ihf offset hnext).orElse (ihs offset hnext)).once _
  | span id greedy s => exact hnext.span _ greedy s
  | star id greedy body ih => exact .rounds (fun _ h => ih offset h) hnext _ greedy budget
  | again id greedy body ih =>
    exact ih offset (.rounds (fun _ h => ih offset h) hnext _ greedy budget)
  | copies count width body ih => exact .chain (fun offset _ h => ih offset h) hnext width count _
  | upTo count width id greedy body ih =>
    exact .optionals (fun offset _ h => ih offset h) hnext width id greedy count _
  | shift amount body ih => exact ih _ hnext

/-! ## Matches -/

namespace Match

/-- Does a match lie in a text, with its captures inside it? -/
structure LiesIn (text : Text) (m : Match) : Prop where
  start_liesIn : m.start.LiesIn text
  stop_liesIn : m.stop.LiesIn text
  start_le_stop : m.start.pos ≤ m.stop.pos
  captures_lie : ∀ entry ∈ m.captures, entry.2.LiesIn text m.start.pos m.stop.pos

/--
Does a match end before another one begins? If the other one is empty, it must not begin where this
one ends.
-/
def Precedes (m n : Match) : Prop :=
  m.stop.pos ≤ n.start.pos ∧ (n.start.pos = n.stop.pos → m.stop.pos < n.start.pos)

variable {text : Text} {m n : Match}

/-- A later match ends further on. -/
theorem Precedes.stop_lt (h : m.Precedes n) (hn : n.LiesIn text) : m.stop.pos < n.stop.pos := by
  have hle := hn.start_le_stop
  obtain ⟨hstart, hempty⟩ := h
  by_cases heq : n.start.pos = n.stop.pos
  · exact heq ▸ hempty heq
  · omega

/-- What a group took is a part of the match. -/
theorem LiesIn.exists_group?_eq (h : m.LiesIn text) {name taken : Text}
    (htaken : m.group? name = some taken) :
    ∃ first last, m.start.pos ≤ first ∧ first ≤ last ∧ last ≤ m.stop.pos ∧
      taken = (text.take last).drop first := by
  obtain ⟨capture, hcapture, rfl⟩ := Option.map_eq_some_iff.1 htaken
  obtain ⟨key, hmem⟩ : ∃ key, (key, capture) ∈ m.captures := by
    obtain ⟨front, behind, hsplit, -⟩ := List.lookup_eq_some_iff.1 hcapture
    exact ⟨name, by simp [hsplit]⟩
  have hlies := h.captures_lie _ hmem
  exact ⟨_, _, hlies.first_le, hlies.start_le_stop, hlies.stop_le, hlies.text_eq⟩

/-- What a group took stands in the text. -/
theorem LiesIn.group?_isInfix (h : m.LiesIn text) {name taken : Text}
    (htaken : m.group? name = some taken) : taken <:+: text := by
  obtain ⟨first, last, -, -, -, rfl⟩ := h.exists_group?_eq htaken
  exact (List.drop_suffix first _).isInfix.trans (List.take_prefix last text).isInfix

/-- There are at most as many matches in a row as positions for their ends. -/
theorem length_add_le {ms : List Match} {pos : Nat} (hlies : ∀ m ∈ ms, m.LiesIn text)
    (hpos : ∀ m ∈ ms, pos ≤ m.stop.pos) (hms : ms.Pairwise Precedes) (hle : pos ≤ text.length + 1) :
    ms.length + pos ≤ text.length + 1 := by
  induction ms generalizing pos with
  | nil => simpa using hle
  | cons m ms ih =>
    obtain ⟨hfirst, hrest⟩ := List.pairwise_cons.1 hms
    have hm := hlies m List.mem_cons_self
    have hbehind : ∀ n ∈ ms, n.LiesIn text := fun n hn => hlies n (List.mem_cons_of_mem m hn)
    have hstop : ∀ n ∈ ms, m.stop.pos + 1 ≤ n.stop.pos := fun n hn =>
      (hfirst n hn).stop_lt (hbehind n hn)
    have hcount := ih hbehind hstop hrest (Nat.succ_le_succ hm.stop_liesIn.pos_le)
    have hhere := hpos m List.mem_cons_self
    rw [List.length_cons]
    omega

end Match

namespace Program

variable {text : Text} {program : Program} {budget : Nat} {c : Cursor} {m : Match}

/-- A match of a program at a position lies in the text. -/
theorem liesIn_of_run {made : Made} {hit : Hit} (hc : c.LiesIn text)
    (hrun : (program.run budget 0 .accept c [] made).1 = some hit) :
    Match.LiesIn text ⟨c, hit.stop, hit.captures⟩ := by
  have haccept : Attempt.accept.Advances text c.pos c.pos := .accept
  obtain ⟨hreach, hle⟩ :=
    program.run_advances budget 0 haccept c [] made hit (.start hc) le_rfl hrun
  exact ⟨hc, hreach.liesIn, hle, hreach.captures_lie⟩

/-- A search finds matches behind its position. -/
theorem searchFrom_liesIn {made : Made} (hc : c.LiesIn text)
    (hfound : program.searchFrom budget made c.pos c.prev c.rest = some m) :
    m.LiesIn text ∧ c.pos ≤ m.start.pos := by
  obtain ⟨pos, prev, rest⟩ := c
  induction rest generalizing pos prev made with
  | nil =>
    simp only [searchFrom] at hfound
    split at hfound
    · next hit later heq =>
      obtain rfl := Option.some.inj hfound
      have hrun := congrArg Prod.fst heq
      exact ⟨liesIn_of_run hc hrun, le_rfl⟩
    · simp at hfound
  | cons x rest ih =>
    simp only [searchFrom] at hfound
    split at hfound
    · next hit later heq =>
      obtain rfl := Option.some.inj hfound
      have hrun := congrArg Prod.fst heq
      exact ⟨liesIn_of_run hc hrun, le_rfl⟩
    · next later heq =>
      have hnext : Cursor.LiesIn text ⟨pos + 1, some x, rest⟩ := by
        rw [← Cursor.skip_one prev]
        exact hc.skip (by simp)
      obtain ⟨hlies, hle⟩ := ih (pos + 1) (some x) hnext hfound
      exact ⟨hlies, Nat.le_of_succ_le hle⟩

/-- The next match lies ahead; if it is empty, it is not where the last one ended. -/
theorem nextMatch?_liesIn {last : Option Nat} (hc : c.LiesIn text)
    (hlast : ∀ pos, last = some pos → pos ≤ c.pos)
    (hfound : program.nextMatch? budget last c = some m) :
    m.LiesIn text ∧ c.pos ≤ m.start.pos ∧
      (m.start.pos = m.stop.pos → last ≠ some m.stop.pos) := by
  unfold nextMatch? at hfound
  split at hfound
  · simp at hfound
  · next first hfirst =>
    obtain ⟨hlies, hle⟩ := searchFrom_liesIn hc hfirst
    split at hfound
    · -- The match would be empty and where the last one ended.
      split at hfound
      · simp at hfound
      · next x rest hrest =>
        have hcursor : (⟨c.pos + 1, some x, rest⟩ : Cursor) = c.skip 1 := by
          simp [Cursor.skip, hrest]
        have hnext : (c.skip 1).LiesIn text := hc.skip (by simp [hrest])
        rw [hcursor] at hfound
        obtain ⟨hlies', hle'⟩ := searchFrom_liesIn hnext hfound
        rw [Cursor.skip_pos] at hle'
        refine ⟨hlies', by omega, fun _ heq => ?_⟩
        have hbehind := hlast _ heq
        have hforward := hlies'.start_le_stop
        omega
    · next hnot =>
      obtain rfl := Option.some.inj hfound
      refine ⟨hlies, hle, fun hempty heq => hnot ?_⟩
      simp [Match.isEmpty, hempty, heq]

/-- The matches behind a position lie in the text from left to right. -/
theorem matchesFrom_pairwise {fuel : Nat} {last : Option Nat} (hc : c.LiesIn text)
    (hlast : ∀ pos, last = some pos → pos = c.pos) :
    (∀ m ∈ program.matchesFrom budget fuel last c, m.LiesIn text ∧ c.pos ≤ m.start.pos ∧
        (m.start.pos = m.stop.pos → last = some c.pos → c.pos < m.start.pos)) ∧
      (program.matchesFrom budget fuel last c).Pairwise Match.Precedes := by
  induction fuel generalizing last c with
  | zero => simp [matchesFrom]
  | succ fuel ih =>
    simp only [matchesFrom]
    split
    · simp
    · next m hfound =>
      have hlast' : ∀ pos, last = some pos → pos ≤ c.pos := fun pos h => (hlast pos h).le
      obtain ⟨hlies, hle, hempty⟩ := nextMatch?_liesIn hc hlast' hfound
      have hforward := hlies.start_le_stop
      have hstop : ∀ pos, some m.stop.pos = some pos → pos = m.stop.pos :=
        fun pos h => (Option.some.inj h).symm
      obtain ⟨hbehind, hordered⟩ := ih hlies.stop_liesIn hstop
      constructor
      · intro n hn
        rcases List.mem_cons.1 hn with rfl | hlater
        · refine ⟨hlies, hle, fun heq hhere => ?_⟩
          have hne : c.pos ≠ n.stop.pos := fun h => hempty heq (h ▸ hhere)
          omega
        · obtain ⟨hlies', hle', -⟩ := hbehind n hlater
          have hstrict := (hbehind n hlater).2.2
          refine ⟨hlies', by omega, fun heq _ => ?_⟩
          have hlt := hstrict heq rfl
          omega
      · refine List.pairwise_cons.2 ⟨fun n hn => ?_, hordered⟩
        obtain ⟨-, hle', hstrict⟩ := hbehind n hn
        exact ⟨hle', fun heq => hstrict heq rfl⟩

end Program

/-- The matches of a pattern lie in the text. -/
theorem liesIn_of_mem_findAll {pattern : Pattern} {text : Text} {m : Match}
    (hm : m ∈ pattern.findAll text) : m.LiesIn text :=
  ((Program.matchesFrom_pairwise (Cursor.liesIn_start text) (by simp)).1 m hm).1

/-- The matches of a pattern lie from left to right and do not overlap. -/
theorem findAll_pairwise (pattern : Pattern) (text : Text) :
    (pattern.findAll text).Pairwise Match.Precedes :=
  (Program.matchesFrom_pairwise (Cursor.liesIn_start text) (by simp)).2

/-- There is at most one match for each character of the text, and one more. -/
theorem length_findAll_le (pattern : Pattern) (text : Text) :
    (pattern.findAll text).length ≤ text.length + 1 :=
  Match.length_add_le (fun _ hm => liesIn_of_mem_findAll hm) (fun _ _ => Nat.zero_le _)
    (findAll_pairwise pattern text) (Nat.zero_le _)

end Sentinels.Pattern
