import Sentinels.Proofs.NormalForm.Control
import Sentinels.Report

/-!
# Normalizing line by line

Normalizing finds the normal form of a text and then ends its lines with line feeds, by two
replacements: of carriage returns with a line feed behind them, and of those that are left.
Since no step towards the normal form reaches across a line end, and none makes or hides one, the
lines of a document are normalized one by one. For the same reason the replacements do not disturb
the normal form, so normalizing again changes nothing where finding the normal form again does not.
-/

set_option autoImplicit false

namespace Sentinels

/-! ## Replacements -/

/--
Each occurrence of `needle` gives way to `sub`, from left to right, and the next one is looked for
behind it.
-/
inductive Text.Replaced (needle sub : Text) : Text → Text → Prop
  | nil : Replaced needle sub [] []
  | found {text result : Text} (h : Replaced needle sub text result) :
    Replaced needle sub (needle ++ text) (sub ++ result)
  | skip {c : Char} {text result : Text} (hc : ¬ needle <+: c :: text)
    (h : Replaced needle sub text result) : Replaced needle sub (c :: text) (c :: result)

/-- A replacement has one result. -/
theorem Text.Replaced.unique {needle sub text result result' : Text} (hne : needle ≠ [])
    (h : Replaced needle sub text result) (h' : Replaced needle sub text result') :
    result = result' := by
  induction h generalizing result' with
  | nil =>
    generalize htext : ([] : Text) = text at h'
    cases h' with
    | nil => rfl
    | found => exact absurd (List.append_eq_nil_iff.1 htext.symm).1 hne
    | skip => exact absurd htext (by simp)
  | @found text result _ ih =>
    generalize htext : needle ++ text = whole at h'
    cases h' with
    | nil => exact absurd (List.append_eq_nil_iff.1 htext).1 hne
    | found h' =>
      obtain rfl := List.append_cancel_left htext
      rw [ih h']
    | skip hc => exact absurd ⟨text, htext⟩ hc
  | @skip c text result hc _ ih =>
    generalize htext : c :: text = whole at h'
    cases h' with
    | nil => exact absurd htext (by simp)
    | found => exact absurd ⟨_, htext.symm⟩ hc
    | skip _ h' =>
      obtain ⟨rfl, rfl⟩ := List.cons.inj htext
      rw [ih h']

namespace Document

/-- Line ends are unified by two replacements. -/
theorem replaced_unifyLineEnds (text : Text) :
    ∃ feeds, Text.Replaced "\r\n".toList "\n".toList text feeds ∧
      Text.Replaced "\r".toList "\n".toList feeds (unifyLineEnds text) := by
  fun_induction unifyLineEnds text with
  | case1 => exact ⟨[], .nil, .nil⟩
  | case2 rest ih =>
    obtain ⟨feeds, hpairs, hreturns⟩ := ih
    exact ⟨'\n' :: feeds, .found hpairs, .skip (by simp) hreturns⟩
  | case3 c rest hpair ih =>
    obtain ⟨feeds, hpairs, hreturns⟩ := ih
    refine ⟨c :: feeds, .skip ?_ hpairs, ?_⟩
    · rintro ⟨behind, hbehind⟩
      have hsplit : '\r' :: '\n' :: behind = c :: rest := hbehind
      obtain ⟨hreturn, hrest⟩ := List.cons.inj hsplit
      exact hpair behind hreturn.symm hrest.symm
    · split
      · next hreturn =>
        rw [hreturn]
        exact .found hreturns
      · next hother =>
        exact .skip (by simpa [eq_comm] using hother) hreturns

/-- Unified line ends are the only result of the two replacements. -/
theorem replaced_iff_eq_unifyLineEnds {text result : Text} :
    (∃ feeds, Text.Replaced "\r\n".toList "\n".toList text feeds ∧
      Text.Replaced "\r".toList "\n".toList feeds result) ↔ result = unifyLineEnds text := by
  obtain ⟨feeds, hpairs, hreturns⟩ := replaced_unifyLineEnds text
  constructor
  · rintro ⟨feeds', hpairs', hreturns'⟩
    obtain rfl := hpairs'.unique (by simp) hpairs
    exact hreturns'.unique (by simp) hreturns
  · rintro rfl
    exact ⟨feeds, hpairs, hreturns⟩

/-! ## Cutting texts at line ends -/

/-- A character is read by itself unless it begins a pair. -/
theorem unifyLineEnds_cons {c : Char} {rest : Text} (h : ¬ (c = '\r' ∧ rest.head? = some '\n')) :
    unifyLineEnds (c :: rest) = (if c = '\r' then '\n' else c) :: unifyLineEnds rest := by
  rw [unifyLineEnds]
  rintro more rfl rfl
  exact h ⟨rfl, rfl⟩

/-- Does the cut between two texts go through a pair? -/
def CutsPair (s t : Text) : Prop := s.getLast? = some '\r' ∧ t.head? = some '\n'

/-- What stands further in front does not matter to a cut. -/
theorem CutsPair.cons {s t : Text} (h : CutsPair s t) (c : Char) : CutsPair (c :: s) t := by
  obtain ⟨hlast, hhead⟩ := h
  exact ⟨by rw [List.getLast?_cons, hlast]; rfl, hhead⟩

/-- Line ends are unified on two sides one by one, unless the cut goes through a pair. -/
theorem unifyLineEnds_append {s t : Text} (h : ¬ CutsPair s t) :
    unifyLineEnds (s ++ t) = unifyLineEnds s ++ unifyLineEnds t := by
  fun_induction unifyLineEnds s with
  | case1 => rfl
  | case2 rest ih =>
    have hrest : ¬ CutsPair rest t := fun hcut => h ((hcut.cons '\n').cons '\r')
    rw [List.cons_append, List.cons_append, unifyLineEnds, ih hrest, List.cons_append]
  | case3 c rest hpair ih =>
    have hrest : ¬ CutsPair rest t := fun hcut => h (hcut.cons c)
    have hwhole : ¬ (c = '\r' ∧ (rest ++ t).head? = some '\n') := by
      rintro ⟨hc, hhead⟩
      cases rest with
      | nil => exact h ⟨by rw [hc]; rfl, hhead⟩
      | cons d rest =>
        obtain rfl := Option.some.inj hhead
        exact hpair rest hc rfl
    rw [List.cons_append, unifyLineEnds_cons hwhole, ih hrest, List.cons_append]

/-- A text without carriage returns has unified line ends. -/
theorem unifyLineEnds_of_notMem {t : Text} (h : '\r' ∉ t) : unifyLineEnds t = t := by
  fun_induction unifyLineEnds t with
  | case1 => rfl
  | case2 rest ih => exact absurd List.mem_cons_self h
  | case3 c rest _ ih =>
    obtain ⟨hc, hrest⟩ := not_or.1 (mt List.mem_cons.2 h)
    rw [if_neg fun heq => hc heq.symm, ih hrest]

/-- A carriage return and the line feed behind it are one line end. -/
theorem unifyLineEnds_pair (s t : Text) :
    unifyLineEnds (s ++ '\r' :: '\n' :: t) = unifyLineEnds s ++ '\n' :: unifyLineEnds t := by
  rw [unifyLineEnds_append (by simp [CutsPair]), unifyLineEnds]

/-- A line feed by itself is a line end. -/
theorem unifyLineEnds_feed {s : Text} (h : s.getLast? ≠ some '\r') (t : Text) :
    unifyLineEnds (s ++ '\n' :: t) = unifyLineEnds s ++ '\n' :: unifyLineEnds t := by
  rw [unifyLineEnds_append fun hcut => h hcut.1]
  rfl

/-- A carriage return by itself is a line end. -/
theorem unifyLineEnds_return (s : Text) {t : Text} (h : t.head? ≠ some '\n') :
    unifyLineEnds (s ++ '\r' :: t) = unifyLineEnds s ++ '\n' :: unifyLineEnds t := by
  have hfirst : unifyLineEnds ('\r' :: t) = '\n' :: unifyLineEnds t :=
    unifyLineEnds_append (s := ['\r']) fun hcut => h hcut.2
  rw [unifyLineEnds_append (by simp [CutsPair]), hfirst]

/-! ## Normal forms and line ends -/

open Unicode (IsControl normalForm)

/-- A carriage return is a control. -/
theorem isControl_return : IsControl '\r' := by decide

/-- A line feed is a control. -/
theorem isControl_feed : IsControl '\n' := by decide

/-- The normal form is found on the two sides of a pair one by one. -/
theorem normalForm_pair (u v : Text) :
    normalForm (u ++ '\r' :: '\n' :: v) = normalForm u ++ '\r' :: '\n' :: normalForm v := by
  rw [Unicode.normalForm_append_control isControl_return,
    Unicode.normalForm_cons_control isControl_feed]

/-- It does not matter whether line ends are unified before or behind. -/
theorem normalForm_unifyLineEnds (t : Text) :
    normalForm (unifyLineEnds t) = unifyLineEnds (normalForm t) := by
  induction hlength : t.length using Nat.strong_induction_on generalizing t with
  | _ n ih =>
    by_cases hmem : '\r' ∈ t
    · obtain ⟨line, rest, rfl, hline⟩ := List.eq_append_cons_of_mem hmem
      have hnormal : '\r' ∉ normalForm line :=
        mt (Unicode.mem_of_mem_normalForm isControl_return) hline
      rw [List.length_append, List.length_cons] at hlength
      by_cases hfeed : rest.head? = some '\n'
      · obtain ⟨rest, rfl⟩ := List.head?_eq_some_iff.1 hfeed
        rw [List.length_cons] at hlength
        rw [unifyLineEnds_pair, normalForm_pair, unifyLineEnds_pair,
          Unicode.normalForm_append_control isControl_feed, ih rest.length (by omega) rest rfl,
          unifyLineEnds_of_notMem hline, unifyLineEnds_of_notMem hnormal]
      · have hfeed' : (normalForm rest).head? ≠ some '\n' :=
          mt (Unicode.head?_of_normalForm isControl_feed) hfeed
        rw [unifyLineEnds_return line hfeed, Unicode.normalForm_append_control isControl_return,
          unifyLineEnds_return _ hfeed', Unicode.normalForm_append_control isControl_feed,
          ih rest.length (by omega) rest rfl, unifyLineEnds_of_notMem hline,
          unifyLineEnds_of_notMem hnormal]
    · have hnormal : '\r' ∉ normalForm t :=
        mt (Unicode.mem_of_mem_normalForm isControl_return) hmem
      rw [unifyLineEnds_of_notMem hmem, unifyLineEnds_of_notMem hnormal]

/-! ## Normalized texts -/

variable {u v t : Text}

/-- The lines on the two sides of a pair are normalized one by one. -/
theorem normalized_pair (u v : Text) :
    normalized (u ++ '\r' :: '\n' :: v) = normalized u ++ '\n' :: normalized v := by
  unfold normalized
  rw [normalForm_pair, unifyLineEnds_pair]

/-- So are the lines on the two sides of a line feed. -/
theorem normalized_feed (h : u.getLast? ≠ some '\r') :
    normalized (u ++ '\n' :: v) = normalized u ++ '\n' :: normalized v := by
  have hnormal := mt (Unicode.getLast?_of_normalForm isControl_return) h
  unfold normalized
  rw [Unicode.normalForm_append_control isControl_feed, unifyLineEnds_feed hnormal]

/-- So are the lines on the two sides of a carriage return. -/
theorem normalized_return (h : v.head? ≠ some '\n') :
    normalized (u ++ '\r' :: v) = normalized u ++ '\n' :: normalized v := by
  have hnormal := mt (Unicode.head?_of_normalForm isControl_feed) h
  unfold normalized
  rw [Unicode.normalForm_append_control isControl_return, unifyLineEnds_return _ hnormal]

/-- A normalized text has no carriage returns. -/
theorem return_notMem_normalized (t : Text) : '\r' ∉ normalized t :=
  return_notMem_unifyLineEnds (normalForm t)

/-- Normalizing is idempotent on a text on which finding the normal form is. -/
theorem normalized_normalized (h : normalForm (normalForm t) = normalForm t) :
    normalized (normalized t) = normalized t := by
  calc normalized (normalized t)
      = unifyLineEnds (normalForm (unifyLineEnds (normalForm t))) := rfl
    _ = unifyLineEnds (unifyLineEnds (normalForm t)) := by rw [normalForm_unifyLineEnds, h]
    _ = normalized t := unifyLineEnds_of_notMem (return_notMem_normalized t)

end Document

/-! ## Reports -/

open Document (normalized)
open Unicode (normalForm)

/-- A run that normalizes is one that does not, on the normalized document. -/
theorem report_of_normalize {config : Config} (h : config.normalize = true) (document : Text) :
    report config document = report { config with normalize := false } (normalized document) := by
  have hpatterns : PatternSet.ofConfig { config with normalize := false } =
      PatternSet.ofConfig config := rfl
  unfold report
  rw [hpatterns]
  congr 1
  funext patterns
  unfold Report.ofDocument
  simp only [h, if_true]
  rfl

/--
**A document is normalized line by line.** A line end becomes a line feed, and the lines on its two
sides are normalized one by one; a carriage return and the line feed behind it count as one line
end. No carriage return is left. A text of seven bits is only changed by the two replacements. Where
finding the normal form again changes nothing, normalizing again changes nothing either; then the
listing is that of the normalized document, whether this is normalized once more or not.
-/
theorem normalized_line_by_line :
    (∀ u v, normalized (u ++ "\r\n".toList ++ v) = normalized u ++ "\n".toList ++ normalized v) ∧
    (∀ u v, u.getLast? ≠ some '\r' →
      normalized (u ++ "\n".toList ++ v) = normalized u ++ "\n".toList ++ normalized v) ∧
    (∀ u v, v.head? ≠ some '\n' →
      normalized (u ++ "\r".toList ++ v) = normalized u ++ "\n".toList ++ normalized v) ∧
    (∀ t, '\r' ∉ normalized t) ∧
    (∀ t : Text, (∀ c ∈ t, c.toNat < 0x80) → ∀ result,
      (∃ feeds, Text.Replaced "\r\n".toList "\n".toList t feeds ∧
        Text.Replaced "\r".toList "\n".toList feeds result) ↔ result = normalized t) ∧
    ∀ t, normalForm (normalForm t) = normalForm t →
      normalized (normalized t) = normalized t ∧
      ∀ config : Config, config.normalize = true →
        tabulate config t = tabulate config (normalized t) ∧
        tabulate config t = tabulate { config with normalize := false } (normalized t) := by
  refine ⟨?_, ?_, ?_, Document.return_notMem_normalized, ?_, ?_⟩
  · intro u v
    rw [List.append_assoc, List.append_assoc]
    exact Document.normalized_pair u v
  · intro u v hlast
    rw [List.append_assoc, List.append_assoc]
    exact Document.normalized_feed hlast
  · intro u v hhead
    rw [List.append_assoc, List.append_assoc]
    exact Document.normalized_return hhead
  · intro t hascii result
    unfold normalized
    rw [Unicode.normalForm_ascii hascii]
    exact Document.replaced_iff_eq_unifyLineEnds
  · intro t hidempotent
    have hagain := Document.normalized_normalized hidempotent
    refine ⟨hagain, ?_⟩
    intro config hconfig
    unfold tabulate
    constructor
    · rw [report_of_normalize hconfig, report_of_normalize hconfig, hagain]
    · rw [report_of_normalize hconfig]

/-- A page with a composed letter, a fraction, a wide bracket and all three line ends. -/
theorem normalized_line_by_line_page :
    ∃ page : Text, page = "e\u0301\r\n\u00BD\r\r\n\uFF1Cb>\n".toList ∧
      normalForm (normalForm page) = normalForm page ∧
      normalized page = "\u00E9\n1\u20442\n\n<b>\n".toList ∧
      normalized (normalized page) = normalized page ∧
      tabulate { Config.default with normalize := true } page =
        tabulate .default (normalized page) := by
  generalize hpage : "e\u0301\r\n\u00BD\r\r\n\uFF1Cb>\n".toList = page
  have hidempotent : normalForm (normalForm page) = normalForm page := by
    rw [← hpage]
    decide +kernel
  have hnormalized : normalized page = "\u00E9\n1\u20442\n\n<b>\n".toList := by
    rw [← hpage]
    decide +kernel
  obtain ⟨hagain, hlisting⟩ := normalized_line_by_line.2.2.2.2.2 page hidempotent
  exact ⟨page, rfl, hidempotent, hnormalized, hagain, (hlisting _ rfl).2⟩

end Sentinels
