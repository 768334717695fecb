import Sentinels.Proofs.Text
import Mathlib.Data.List.TakeWhile

/-!
# Line ends with carriage returns

A text may end its lines with a line feed alone or with a carriage return in front of it. `crlf`
rewrites the first spelling into the second. It commutes with the searches and cuts of the library
as far as these do not tell the two characters apart, and what is found behind a carriage return
was there before: a split of the rewritten text comes from one of the text.
-/

set_option autoImplicit false

namespace Sentinels.Text

/-- The text with a carriage return in front of every line feed. -/
def crlf (text : Text) : Text :=
  text.flatMap fun c => if c = '\n' then ['\r', '\n'] else [c]

/-- Does a text hold neither a carriage return nor a line feed? -/
def OneLine (text : Text) : Prop := '\r' ∉ text ∧ '\n' ∉ text

instance : DecidablePred OneLine := fun text =>
  inferInstanceAs (Decidable ('\r' ∉ text ∧ '\n' ∉ text))

/-- The empty text has no line feed. -/
@[simp] theorem crlf_nil : crlf [] = [] := rfl

/-- A line feed gets a carriage return in front of it. -/
@[simp] theorem crlf_feed (text : Text) : crlf ('\n' :: text) = '\r' :: '\n' :: crlf text := rfl

/-- Any character but a line feed stays as it is. -/
theorem crlf_cons {c : Char} (hc : c ≠ '\n') (text : Text) : crlf (c :: text) = c :: crlf text := by
  simp [crlf, hc]

/-- Two texts are written anew one by one. -/
@[simp] theorem crlf_append (s t : Text) : crlf (s ++ t) = crlf s ++ crlf t :=
  List.flatMap_append

/-- Nothing is added to the empty text, and no other text becomes empty. -/
@[simp] theorem crlf_eq_nil {text : Text} : crlf text = [] ↔ text = [] := by
  cases text with
  | nil => simp
  | cons c text =>
    by_cases hc : c = '\n'
    · simp [hc]
    · simp [crlf_cons hc]

/-- The rewritten text is empty exactly if the text is. -/
@[simp] theorem isEmpty_crlf (text : Text) : (crlf text).isEmpty = text.isEmpty := by
  rw [Bool.eq_iff_iff, List.isEmpty_iff, List.isEmpty_iff, crlf_eq_nil]

/-- A text without line feeds stays as it is. -/
theorem crlf_of_notMem {text : Text} (h : '\n' ∉ text) : crlf text = text := by
  induction text with
  | nil => rfl
  | cons c text ih =>
    obtain ⟨hc, htext⟩ := not_or.1 (mt List.mem_cons.2 h)
    rw [crlf_cons fun heq => hc heq.symm, ih htext]

/-- Any character but a carriage return stands in the rewritten text if it stands in the text. -/
theorem mem_crlf_iff {x : Char} {text : Text} (hx : x ≠ '\r') : x ∈ crlf text ↔ x ∈ text := by
  induction text with
  | nil => rfl
  | cons c text ih =>
    by_cases hc : c = '\n'
    · simp [hc, hx, ih]
    · simp [crlf_cons hc, ih]

/-- No character but a carriage return is brought in. -/
theorem notMem_crlf {x : Char} (hx : x ≠ '\r') {text : Text} (h : x ∉ text) : x ∉ crlf text :=
  mt (mem_crlf_iff hx).1 h

/-- No rewritten text begins with a line feed. -/
theorem head?_crlf_ne (text : Text) : (crlf text).head? ≠ some '\n' := by
  cases text with
  | nil => simp
  | cons c text =>
    by_cases hc : c = '\n'
    · simp [hc]
    · simpa [crlf_cons hc] using hc

/-- Any other character begins the rewritten text exactly if it begins the text. -/
theorem head?_crlf_eq_some_iff {x : Char} (hreturn : x ≠ '\r') (hfeed : x ≠ '\n') {text : Text} :
    (crlf text).head? = some x ↔ text.head? = some x := by
  cases text with
  | nil => rfl
  | cons c text =>
    by_cases hc : c = '\n'
    · simp [hc, hreturn.symm, hfeed.symm]
    · simp [crlf_cons hc]

/-- Texts that are told apart are still told apart when they are rewritten. -/
theorem crlf_injective : Function.Injective crlf := by
  intro s t h
  induction s generalizing t with
  | nil => exact (crlf_eq_nil.1 h.symm).symm
  | cons c s ih =>
    cases t with
    | nil => exact absurd (crlf_eq_nil.1 h) (List.cons_ne_nil c s)
    | cons d t =>
      by_cases hc : c = '\n'
      · by_cases hd : d = '\n'
        · subst hc hd
          rw [crlf_feed, crlf_feed] at h
          rw [ih (List.cons.inj (List.cons.inj h).2).2]
        · -- A carriage return of the text would have a line feed behind it.
          rw [hc, crlf_feed, crlf_cons hd] at h
          exact absurd (congrArg List.head? (List.cons.inj h).2).symm (head?_crlf_ne t)
      · by_cases hd : d = '\n'
        · rw [hd, crlf_feed, crlf_cons hc] at h
          exact absurd (congrArg List.head? (List.cons.inj h).2) (head?_crlf_ne s)
        · rw [crlf_cons hc, crlf_cons hd] at h
          obtain ⟨rfl, htail⟩ := List.cons.inj h
          rw [ih htail]

/-! ## Cuts -/

section Cuts

variable {p : Char → Bool} (hp : p '\r' = p '\n') (text : Text)

include hp

/-- What comes first is told by a property that does not tell the line ends apart. -/
theorem any_head?_crlf : (crlf text).head?.any p = text.head?.any p := by
  cases text with
  | nil => rfl
  | cons c text =>
    by_cases hc : c = '\n'
    · simp [hc, hp]
    · simp [crlf_cons hc]

/-- The longest beginning with a property is rewritten. -/
theorem takeWhile_crlf : (crlf text).takeWhile p = crlf (text.takeWhile p) := by
  induction text with
  | nil => rfl
  | cons c text ih =>
    by_cases hc : c = '\n'
    · subst hc
      by_cases hfeed : p '\n' = true
      · simp [hp, hfeed, ih]
      · simp [hp, hfeed]
    · by_cases hkept : p c = true
      · simp [crlf_cons hc, hkept, ih]
      · simp [crlf_cons hc, hkept]

/-- What stands behind it is rewritten. -/
theorem dropWhile_crlf : (crlf text).dropWhile p = crlf (text.dropWhile p) := by
  have hboth := congrArg crlf (List.takeWhile_append_dropWhile (p := p) (l := text))
  rw [crlf_append, ← List.takeWhile_append_dropWhile (p := p) (l := crlf text),
    takeWhile_crlf hp] at hboth
  exact (List.append_cancel_left hboth).symm

/-- A text without its end is rewritten. -/
theorem trimEnd_crlf : trimEnd p (crlf text) = crlf (trimEnd p text) := by
  induction text with
  | nil => rfl
  | cons c text ih =>
    rw [trimEnd_cons]
    by_cases hc : c = '\n'
    · subst hc
      rw [crlf_feed, trimEnd_cons, trimEnd_cons, ih, hp]
      by_cases hnil : trimEnd p text = []
      · by_cases hfeed : p '\n' = true
        · simp [hnil, hfeed]
        · simp [hnil, hfeed]
      · simp [hnil]
    · rw [crlf_cons hc, trimEnd_cons, ih]
      by_cases hnil : trimEnd p text = []
      · by_cases hdropped : p c = true
        · simp [hnil, hdropped]
        · simp [hnil, hdropped, crlf_cons hc]
      · simp [hnil, crlf_cons hc]

end Cuts

/-! ## Splits -/

section Splits

variable {m text s u : Text}

/-- What stands in one line at the beginning stood there before. -/
theorem exists_of_crlf_eq_oneLine_append (hm : OneLine m) (h : crlf text = m ++ u) :
    ∃ rest, text = m ++ rest ∧ crlf rest = u := by
  induction m generalizing text with
  | nil => exact ⟨text, rfl, h⟩
  | cons x m ih =>
    obtain ⟨hreturn, hm₁⟩ := not_or.1 (mt List.mem_cons.2 hm.1)
    obtain ⟨hfeed, hm₂⟩ := not_or.1 (mt List.mem_cons.2 hm.2)
    cases text with
    | nil => simp at h
    | cons c text =>
      have hc : c ≠ '\n' := by
        rintro rfl
        exact hreturn (List.cons.inj h).1
      rw [crlf_cons hc, List.cons_append] at h
      obtain ⟨rfl, htail⟩ := List.cons.inj h
      obtain ⟨rest, rfl, hrest⟩ := ih ⟨hm₁, hm₂⟩ htail
      exact ⟨rest, rfl, hrest⟩

/-- A split in front of anything but a line feed comes from a split of the text. -/
theorem exists_of_crlf_eq_append_cons {x : Char} (hx : x ≠ '\n') (h : crlf text = s ++ x :: u) :
    ∃ front rest, text = front ++ rest ∧ crlf front = s ∧ crlf rest = x :: u := by
  induction text generalizing s with
  | nil => simp at h
  | cons c text ih =>
    cases s with
    | nil => exact ⟨[], c :: text, rfl, rfl, h⟩
    | cons y s =>
      by_cases hc : c = '\n'
      · subst hc
        rw [crlf_feed, List.cons_append] at h
        obtain ⟨rfl, htail⟩ := List.cons.inj h
        cases s with
        | nil => exact absurd (List.cons.inj htail).1.symm hx
        | cons z s =>
          obtain ⟨rfl, hbehind⟩ := List.cons.inj htail
          obtain ⟨front, rest, rfl, rfl, hrest⟩ := ih hbehind
          exact ⟨'\n' :: front, rest, rfl, rfl, hrest⟩
      · rw [crlf_cons hc, List.cons_append] at h
        obtain ⟨rfl, htail⟩ := List.cons.inj h
        obtain ⟨front, rest, rfl, rfl, hrest⟩ := ih htail
        exact ⟨c :: front, rest, rfl, crlf_cons hc front, hrest⟩

/-- A split at what stands in one line comes from a split of the text. -/
theorem exists_of_crlf_eq_append (hm : OneLine m) (hne : m ≠ []) (h : crlf text = s ++ (m ++ u)) :
    ∃ front rest, text = front ++ (m ++ rest) ∧ crlf front = s ∧ crlf rest = u := by
  obtain ⟨x, m', rfl⟩ := List.exists_cons_of_ne_nil hne
  have hx : x ≠ '\n' := fun heq => hm.2 (heq ▸ List.mem_cons_self)
  obtain ⟨front, behind, rfl, hfront, hbehind⟩ := exists_of_crlf_eq_append_cons hx h
  obtain ⟨rest, rfl, hrest⟩ := exists_of_crlf_eq_oneLine_append hm hbehind
  exact ⟨front, rest, rfl, hfront, hrest⟩

end Splits

/-! ## Searches -/

section Searches

variable {needle : Text} (hneedle : OneLine needle) (text : Text)

include hneedle

/-- What stands in one line begins the rewritten text exactly if it begins the text. -/
theorem isPrefix_crlf_iff : needle <+: crlf text ↔ needle <+: text := by
  constructor
  · rintro ⟨u, hu⟩
    obtain ⟨rest, rfl, -⟩ := exists_of_crlf_eq_oneLine_append hneedle hu.symm
    exact List.prefix_append needle rest
  · rintro ⟨rest, rfl⟩
    rw [crlf_append, crlf_of_notMem hneedle.2]
    exact List.prefix_append needle _

/-- What is found in the rewritten text is what is found in the text, rewritten. -/
theorem suffixFrom?_crlf : suffixFrom? needle (crlf text) = (suffixFrom? needle text).map crlf := by
  have hprefix : ∀ t, needle.isPrefixOf (crlf t) = needle.isPrefixOf t := by
    intro t
    rw [Bool.eq_iff_iff, List.isPrefixOf_iff_prefix, List.isPrefixOf_iff_prefix,
      isPrefix_crlf_iff hneedle]
  induction text with
  | nil =>
    by_cases hnil : needle = []
    · simp [suffixFrom?, hnil]
    · simp [suffixFrom?, hnil]
  | cons c text ih =>
    have hhere := hprefix (c :: text)
    by_cases hc : c = '\n'
    · subst hc
      rw [crlf_feed] at hhere ⊢
      cases needle with
      | nil => simp [suffixFrom?]
      | cons x needle =>
        have hx : (x == '\n') = false :=
          beq_eq_false_iff_ne.2 fun heq => hneedle.2 (heq ▸ List.mem_cons_self)
        have hfeed : ∀ t, (x :: needle).isPrefixOf ('\n' :: t) = false := by
          intro t
          rw [List.isPrefixOf, hx, Bool.false_and]
        rw [hfeed] at hhere
        simp only [suffixFrom?, hhere, hfeed, Bool.false_eq_true, if_false, ih]
    · rw [crlf_cons hc] at hhere ⊢
      rw [suffixFrom?, suffixFrom?, hhere, ih]
      split
      · rw [Option.map_some, crlf_cons hc]
      · rfl

/-- What stands in one line is found in the rewritten text exactly if it is found in the text. -/
theorem hasInfix_crlf : hasInfix (crlf text) needle = hasInfix text needle := by
  rw [hasInfix, hasInfix, suffixFrom?_crlf hneedle, Option.isSome_map]

omit hneedle in
/-- Whether one of several texts is found does not depend on the line ends. -/
theorem any_hasInfix_crlf {needles : List Text} (hneedles : ∀ needle ∈ needles, OneLine needle) :
    (needles.any fun needle => hasInfix (crlf text) needle) =
      needles.any fun needle => hasInfix text needle := by
  induction needles with
  | nil => rfl
  | cons needle needles ih =>
    rw [List.any_cons, List.any_cons, hasInfix_crlf (hneedles needle List.mem_cons_self),
      ih fun other hother => hneedles other (List.mem_cons_of_mem needle hother)]

end Searches

end Sentinels.Text
