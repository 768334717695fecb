import Sentinels.Text
import Mathlib.Data.List.DropRight
import Mathlib.Data.List.Infix

/-!
# Searches, cuts and joins as operations on lists

The searches, cuts and joins of the library said through the relations and operations on lists.
-/

set_option autoImplicit false

namespace Sentinels.Text

/-- A search succeeds exactly if the text looked for occurs. -/
theorem hasInfix_iff {text needle : Text} : hasInfix text needle = true ↔ needle <:+: text := by
  induction text with
  | nil => by_cases h : needle = [] <;> simp [hasInfix, suffixFrom?, h]
  | cons c cs ih =>
    rw [hasInfix] at ih ⊢
    rw [suffixFrom?, List.infix_cons_iff]
    by_cases h : needle <+: c :: cs
    · simp [h, List.isPrefixOf_iff_prefix.2 h]
    · have hnot : needle.isPrefixOf (c :: cs) = false := by
        simpa [Bool.eq_false_iff] using mt List.isPrefixOf_iff_prefix.1 h
      simp [h, hnot, ih]

/-- Is `found` what a text is from the first occurrence of `needle` on? -/
def IsFrom (needle text found : Text) : Prop :=
  ∃ before, text = before ++ found ∧ needle <+: found ∧
    ∀ before' behind, text = before' ++ behind → needle <+: behind →
      before.length ≤ before'.length

/-- A search finds the first occurrence. -/
theorem isFrom_of_suffixFrom? {needle text found : Text}
    (h : suffixFrom? needle text = some found) : IsFrom needle text found := by
  induction text with
  | nil =>
    by_cases hn : needle = []
    · obtain rfl : [] = found := by simpa [suffixFrom?, hn] using h
      exact ⟨[], rfl, by simp [hn], fun _ _ _ _ => Nat.zero_le _⟩
    · simp [suffixFrom?, hn] at h
  | cons c cs ih =>
    rw [suffixFrom?] at h
    split at h
    · next hp =>
      obtain rfl := Option.some.inj h
      exact ⟨[], rfl, List.isPrefixOf_iff_prefix.1 hp, fun _ _ _ _ => Nat.zero_le _⟩
    · next hp =>
      obtain ⟨before, hbefore, hprefix, hfirst⟩ := ih h
      refine ⟨c :: before, by rw [hbefore, List.cons_append], hprefix, ?_⟩
      intro before' behind hsplit hbehind
      cases before' with
      | nil =>
        have hwhole : c :: cs = behind := hsplit
        exact absurd (List.isPrefixOf_iff_prefix.2 (hwhole ▸ hbehind)) hp
      | cons x before' =>
        have hrest : cs = before' ++ behind := (List.cons.inj hsplit).2
        exact Nat.succ_le_succ (hfirst before' behind hrest hbehind)

/-- The first occurrence is what a search finds. -/
theorem suffixFrom?_eq_some_iff {needle text found : Text} :
    suffixFrom? needle text = some found ↔ IsFrom needle text found := by
  refine ⟨isFrom_of_suffixFrom?, ?_⟩
  rintro ⟨before, rfl, hprefix, hfirst⟩
  have hthere : needle <:+: before ++ found :=
    hprefix.isInfix.trans (List.suffix_append before found).isInfix
  obtain ⟨found', hfound'⟩ := Option.isSome_iff_exists.1 (hasInfix_iff.2 hthere)
  obtain ⟨before', hsplit, hprefix', hfirst'⟩ := isFrom_of_suffixFrom? hfound'
  have hlength : before.length = before'.length :=
    Nat.le_antisymm (hfirst before' found' hsplit hprefix') (hfirst' before found rfl hprefix)
  rw [hfound', (List.append_inj hsplit hlength).2]

/-- A character is left out if it has the property and everything behind it is left out. -/
theorem trimEnd_cons (p : Char → Bool) (c : Char) (text : Text) :
    trimEnd p (c :: text) =
      if (trimEnd p text).isEmpty && p c then [] else c :: trimEnd p text := rfl

/-- The end that is left out is the longest one whose characters all have the property. -/
theorem trimEnd_eq_rdropWhile (p : Char → Bool) (text : Text) :
    trimEnd p text = text.rdropWhile p := by
  induction text with
  | nil => rfl
  | cons c cs ih =>
    have hcons : (c :: cs).rdropWhile p =
        if (cs.rdropWhile p).isEmpty && p c then [] else c :: cs.rdropWhile p := by
      unfold List.rdropWhile
      rw [List.reverse_cons, List.dropWhile_append]
      by_cases hnil : (cs.reverse.dropWhile p).isEmpty = true
      · by_cases hc : p c = true <;> simp_all
      · simp [hnil]
    rw [hcons, ← ih]
    rfl

/-- A text splits in one way at the first place where a character occurs. -/
theorem eq_of_append_cons_eq {x : Char} {s t u v : Text} (hs : x ∉ s) (ht : x ∉ t)
    (h : s ++ x :: u = t ++ x :: v) : s = t ∧ u = v := by
  induction s generalizing t with
  | nil =>
    cases t with
    | nil => exact ⟨rfl, (List.cons.inj h).2⟩
    | cons y t => exact absurd ((List.cons.inj h).1 ▸ List.mem_cons_self) ht
  | cons y s ih =>
    cases t with
    | nil => exact absurd ((List.cons.inj h).1 ▸ List.mem_cons_self) hs
    | cons z t =>
      obtain ⟨hhead, htail⟩ := List.cons.inj h
      obtain ⟨hst, huv⟩ :=
        ih (mt (List.mem_cons_of_mem y) hs) (mt (List.mem_cons_of_mem z) ht) htail
      exact ⟨by rw [hhead, hst], huv⟩

/-- In a join, every part but the first stands behind a separator. -/
theorem join_cons (separator t : Text) (ts : List Text) :
    join separator (t :: ts) = t ++ ts.flatMap (separator ++ ·) := by
  induction ts generalizing t with
  | nil => rw [join_singleton, List.flatMap_nil, List.append_nil]
  | cons t' ts ih =>
    rw [join_cons_cons, ih, List.flatMap_cons, List.append_assoc, List.append_assoc]

/-- A join holds only the characters of its parts and of the separator. -/
theorem notMem_join {c : Char} {separator : Text} {ts : List Text} (hseparator : c ∉ separator)
    (h : ∀ t ∈ ts, c ∉ t) : c ∉ join separator ts := by
  induction ts with
  | nil => exact List.not_mem_nil
  | cons t ts ih =>
    have hrest := ih fun u hu => h u (List.mem_cons_of_mem t hu)
    cases ts with
    | nil => exact h t List.mem_cons_self
    | cons t' ts => simp [h t List.mem_cons_self, hseparator, hrest]

/--
A separator can be found again in a join of texts that do not hold its first character, so they can
be told from the join. Without any text the join is that of one empty text.
-/
theorem join_injective {c : Char} {separator : Text} {ss ts : List Text} (hss : ss ≠ [])
    (hts : ts ≠ []) (hs : ∀ s ∈ ss, c ∉ s) (ht : ∀ t ∈ ts, c ∉ t)
    (h : join (c :: separator) ss = join (c :: separator) ts) : ss = ts := by
  induction ss generalizing ts with
  | nil => exact absurd rfl hss
  | cons s ss ih =>
    obtain ⟨t, ts, rfl⟩ := List.exists_cons_of_ne_nil hts
    have hcs : c ∉ s := hs s List.mem_cons_self
    have hct : c ∉ t := ht t List.mem_cons_self
    cases ss with
    | nil =>
      cases ts with
      | nil => simpa using h
      | cons t' ts =>
        rw [join_singleton] at h
        exact absurd (h ▸ by simp) hcs
    | cons s' ss =>
      cases ts with
      | nil =>
        rw [join_singleton] at h
        exact absurd (h ▸ by simp) hct
      | cons t' ts =>
        simp only [join_cons_cons, List.append_assoc, List.cons_append] at h
        obtain ⟨rfl, hrest⟩ := eq_of_append_cons_eq hcs hct h
        rw [ih (List.cons_ne_nil _ _) (List.cons_ne_nil _ _)
          (fun x hx => hs x (List.mem_cons_of_mem _ hx))
          (fun x hx => ht x (List.mem_cons_of_mem _ hx)) (List.append_cancel_left hrest)]

end Sentinels.Text
