import Sentinels.Proofs.Block.Expression
import Sentinels.Proofs.Block.Heading

/-!
# The entries of a text

The default pattern goes through a text from left to right: where an entry begins, it takes the
entry and goes on behind it, else it passes one character. `EntriesOf` says so of texts alone, with
no positions and no captures. Every text has such a list of entries, and the blocks of the text are
theirs (`EntriesOf.findAll_eq`). A page that is written entry by entry is read as these entries
(`findAll_sections`).
-/

set_option autoImplicit false

namespace Sentinels.Block

open Pattern

/-- The entries of a text from left to right. -/
inductive EntriesOf : Text → List Entry → Prop
  | done : EntriesOf [] []
  | pass {x : Char} {text : Text} {entries : List Entry}
    (hnone : ∀ e : Entry, ¬ e.Begins (x :: text)) (h : EntriesOf text entries) :
    EntriesOf (x :: text) entries
  | take {e : Entry} {rest : Text} {entries : List Entry} (hbegins : e.Begins (e.text ++ rest))
    (h : EntriesOf rest entries) : EntriesOf (e.text ++ rest) (e :: entries)

/-- No entry begins in the empty text. -/
theorem Entry.not_begins_nil (e : Entry) : ¬ e.Begins [] := by
  rintro ⟨rest, hrest, -⟩
  have hhead := congrArg List.head? hrest
  simp [List.head?_append, e.head?_heading] at hhead

/-- An entry begins with a capital letter. -/
theorem Entry.Begins.head? {e : Entry} {text : Text} (h : e.Begins text) :
    text.head? = some 'F' := by
  obtain ⟨rest, rfl, -⟩ := h
  simp [List.head?_append, e.head?_heading]

/-- A text that an entry begins is the entry and a rest. -/
theorem Entry.Begins.exists_eq_text {e : Entry} {text : Text} (h : e.Begins text) :
    ∃ rest, text = e.text ++ rest := by
  obtain ⟨rest, hrest⟩ := h.exists_rest
  exact ⟨rest, by rw [hrest, Entry.text, List.append_assoc]⟩

/-- An entry takes at least the beginning of its heading. -/
theorem Entry.length_text_pos (e : Entry) : 0 < e.text.length := by
  have hheading := e.length_heading_pos
  rw [Entry.text, List.length_append]
  omega

/-- Every text has a list of entries. -/
theorem exists_entriesOf (text : Text) : ∃ entries, EntriesOf text entries := by
  induction hlength : text.length using Nat.strong_induction_on generalizing text with
  | _ n ih =>
    by_cases hbegins : ∃ e : Entry, e.Begins text
    · obtain ⟨e, he⟩ := hbegins
      obtain ⟨rest, rfl⟩ := he.exists_eq_text
      have hpositive := e.length_text_pos
      rw [List.length_append] at hlength
      obtain ⟨entries, hentries⟩ := ih rest.length (by omega) rest rfl
      exact ⟨e :: entries, .take he hentries⟩
    · cases text with
      | nil => exact ⟨[], .done⟩
      | cons x text =>
        rw [List.length_cons] at hlength
        obtain ⟨entries, hentries⟩ := ih text.length (by omega) text rfl
        exact ⟨entries, .pass (fun e he => hbegins ⟨e, he⟩) hentries⟩

/-- No entry begins in a text without the letter that a heading begins with. -/
theorem EntriesOf.append_left {s t : Text} {entries : List Entry} (h : EntriesOf t entries)
    (hs : 'F' ∉ s) : EntriesOf (s ++ t) entries := by
  induction s with
  | nil => exact h
  | cons x s ih =>
    obtain ⟨hx, hs⟩ := not_or.1 (mt List.mem_cons.2 hs)
    exact .pass (fun e he => hx (Option.some.inj he.head?).symm) (ih hs)

/-- An entry begins in front of its text if a line ends behind it. -/
theorem Entry.begins_text (e : Entry) (more : Text) : e.Begins (e.text ++ '\n' :: more) := by
  refine ⟨e.division.elim [] Division.text ++ '\n' :: more, ?_, ?_⟩
  · simp [Entry.text, Entry.body]
  · cases e.division with
    | none =>
      rintro division ⟨rest, hrest⟩
      have hhead : '<' = '\n' := (List.cons.inj hrest).1
      exact absurd hhead (by decide)
    | some division => exact List.prefix_append _ _

/-- An entry on a page of its own is the only one, if none can begin around it. -/
theorem entriesOf_singleton (e : Entry) (front : Text) {behind : Text} (hfront : 'F' ∉ front)
    (hbehind : 'F' ∉ behind) : EntriesOf (front ++ (e.text ++ '\n' :: behind)) [e] := by
  have hend : EntriesOf ('\n' :: behind) [] := by
    have hdone := EntriesOf.done.append_left (s := '\n' :: behind) (by simpa using hbehind)
    rwa [List.append_nil] at hdone
  exact (EntriesOf.take (e.begins_text behind) hend).append_left hfront

/-- The default pattern does not match where no entry begins. -/
theorem first?_eq_none {c : Cursor} (h : ∀ e : Entry, ¬ e.Begins c.rest) :
    expr.first? c = none := by
  refine Option.eq_none_iff_forall_ne_some.2 fun hit hfound => ?_
  obtain ⟨e, hread⟩ := first?_eq_some_iff.1 hfound
  exact h e hread.begins

/-- From a position on, the default pattern matches the entries that are left. -/
theorem EntriesOf.exists_scans (config : Config) {text : Text} {entries : List Entry}
    (h : EntriesOf text entries) {c : Cursor} (hc : c.rest = text) :
    ∃ ms, Scans expr.first? c ms ∧ ms.map (ofMatch config) = entries.map (Entry.block config) := by
  induction h generalizing c with
  | done =>
    refine ⟨[], .done hc (first?_eq_none fun e he => ?_), rfl⟩
    exact e.not_begins_nil (hc ▸ he)
  | @pass x text entries hnone _ ih =>
    obtain ⟨ms, hscans, hblocks⟩ := ih (c := c.skip 1) (by simp [hc])
    refine ⟨ms, .pass (by simp [hc]) (first?_eq_none fun e he => ?_) hscans, hblocks⟩
    exact hnone e (hc ▸ he)
  | @take e rest entries hbegins _ ih =>
    obtain ⟨hit, hread⟩ := (hc ▸ hbegins : e.Begins c.rest).exists_read
    have hstop : hit.stop.rest = rest :=
      List.append_cancel_left (hread.reads.1.symm.trans hc)
    obtain ⟨ms, hscans, hblocks⟩ := ih hstop
    refine ⟨⟨c, hit.stop, hit.captures⟩ :: ms,
      .take (first?_eq_some_iff.2 ⟨e, hread⟩) hscans, ?_⟩
    rw [List.map_cons, List.map_cons, hread.ofMatch_eq config, hblocks]

/-- The blocks of a text are those of its entries. -/
theorem EntriesOf.findAll_eq {text : Text} {entries : List Entry} (h : EntriesOf text entries)
    (config : Config) :
    findAll config (ofExpr Config.defaultBlockPattern expr) text =
      entries.map (Entry.block config) := by
  obtain ⟨ms, hscans, hblocks⟩ := h.exists_scans config (c := Cursor.start text) rfl
  rw [findAll, (findAll_scans text).unique hscans, hblocks]

/-- Two texts have their entries one after the other if none begins that needs both. -/
theorem EntriesOf.append {s t : Text} {entries others : List Entry} (h : EntriesOf s entries)
    (h' : EntriesOf t others)
    (hseam : ∀ u, u <:+ s → u ≠ [] → ∀ e : Entry, e.Begins (u ++ t) ↔ e.Begins u) :
    EntriesOf (s ++ t) (entries ++ others) := by
  induction h with
  | done => exact h'
  | @pass x text entries hnone _ ih =>
    have htext : text <:+ x :: text := List.suffix_cons x text
    refine .pass (fun e he => hnone e ?_) (ih fun u hu => hseam u (hu.trans htext))
    exact (hseam _ List.suffix_rfl (List.cons_ne_nil x text) e).1 he
  | @take e rest entries hbegins _ ih =>
    have hne : e.text ++ rest ≠ [] := by
      intro hnil
      exact e.not_begins_nil (hnil ▸ hbegins)
    have hboth := (hseam _ List.suffix_rfl hne e).2 hbegins
    have hrest : rest <:+ e.text ++ rest := List.suffix_append _ _
    rw [List.append_assoc] at hboth ⊢
    exact .take hboth (ih fun u hu => hseam u (hu.trans hrest))

/-! ## Pages of entries -/

/-- What an entry of a page begins with. -/
def headingStart : Text := "<h3>".toList

/-- An entry between the beginning of its heading and the end of its last line. -/
def Entry.section (e : Entry) : Text := headingStart ++ (e.text ++ ['\n'])

/-- The entries of a page are those it is made of, one after the other. -/
theorem entriesOf_sections (entries : List Entry) :
    EntriesOf (entries.flatMap Entry.section) entries := by
  induction entries with
  | nil => exact .done
  | cons e entries ih =>
    have hbehind := ih.append_left (s := ['\n']) (by decide)
    have hentry := EntriesOf.take (e.begins_text (entries.flatMap Entry.section)) hbehind
    have hheading := hentry.append_left (s := headingStart) (by decide)
    rw [List.flatMap_cons, Entry.section, List.append_assoc, List.append_assoc]
    exact hheading

/-- The blocks of a page are those of its entries. -/
theorem findAll_sections (config : Config) (entries : List Entry) :
    findAll config (ofExpr Config.defaultBlockPattern expr) (entries.flatMap Entry.section) =
      entries.map (Entry.block config) :=
  (entriesOf_sections entries).findAll_eq config

end Sentinels.Block
