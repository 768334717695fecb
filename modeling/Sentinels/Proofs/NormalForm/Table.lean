import Sentinels.Proofs.Utf8.Sequence
import Sentinels.Unicode.NormalForm

/-!
# What the tables say of controls

The controls are the code points below the blank; among them are the characters that end lines. The
tables map nothing to a control and pair no control with a mark, and no character of seven bits is a
mark. So a control takes no part in any of the three steps towards the normal form.
-/

set_option autoImplicit false

namespace Sentinels.Unicode

/-- Is this a control character in front of the blank? -/
def IsControl (c : Char) : Prop := c.toNat < 0x20

instance : DecidablePred IsControl := fun c => inferInstanceAs (Decidable (c.toNat < 0x20))

/-- Is this a code point of a character that is no control? -/
def IsOrdinary (n : Nat) : Prop := 0x20 ≤ n ∧ n.isValidChar

instance : DecidablePred IsOrdinary := fun n =>
  inferInstanceAs (Decidable (0x20 ≤ n ∧ (n < 0xD800 ∨ 0xDFFF < n ∧ n < 0x110000)))

/-- The character of an ordinary code point is no control. -/
theorem not_isControl_ofNat {n : Nat} (h : IsOrdinary n) : ¬ IsControl (Char.ofNat n) := by
  obtain ⟨hlarge, hvalid⟩ := h
  unfold IsControl
  rw [Utf8.toNat_ofNat hvalid]
  omega

/-! ## Decompositions -/

/-- Does a range of images begin behind the controls and lie on one side of the surrogates? -/
def imagesAreOrdinary (entry : Nat × Nat × Nat) : Bool :=
  decide (0x20 ≤ entry.2.2) &&
    (decide (entry.2.2 + (entry.2.1 - entry.1) < 0xD800) ||
      decide (0xDFFF < entry.2.2) && decide (entry.2.2 + (entry.2.1 - entry.1) < 0x110000))

/-- The table of single images, checked range by range. -/
theorem singleMappings_ordinary :
    (singleMappingParts.all fun part => part.2.all imagesAreOrdinary) = true := by
  decide +kernel

/-- The table of longer images, checked entry by entry. -/
theorem sequenceMappings_ordinary :
    (sequenceMappingParts.all fun part => part.2.all fun entry =>
      !entry.2.isEmpty && entry.2.all fun m => decide (IsOrdinary m)) = true := by
  decide +kernel

/-- A checked table of ranges maps to ordinary code points. -/
theorem isOrdinary_singleImage {table : List (Nat × Nat × Nat)} {n m : Nat}
    (htable : table.all imagesAreOrdinary = true) (h : singleImage n table = some m) :
    IsOrdinary m := by
  induction table with
  | nil => exact absurd h (by simp [singleImage])
  | cons entry rest ih =>
    obtain ⟨lo, hi, target⟩ := entry
    rw [List.all_cons, Bool.and_eq_true] at htable
    obtain ⟨hentry, hrest⟩ := htable
    rw [singleImage] at h
    split at h
    · exact absurd h (by simp)
    · split at h
      · obtain rfl := Option.some.inj h
        simp only [imagesAreOrdinary, Bool.and_eq_true, Bool.or_eq_true,
          decide_eq_true_eq] at hentry
        unfold IsOrdinary Nat.isValidChar
        omega
      · exact ih hrest h

/-- A single image is ordinary. -/
theorem isOrdinary_singleMapping {n m : Nat} (h : singleMapping? n = some m) : IsOrdinary m := by
  unfold singleMapping? at h
  split at h
  · next part hpart =>
    exact isOrdinary_singleImage
      (List.all_eq_true.1 singleMappings_ordinary part (List.mem_of_find?_eq_some hpart)) h
  · exact absurd h (by simp)

/-- An image that is found is listed for its code point. -/
theorem mem_of_sequenceImage {table : List (Nat × List Nat)} {n : Nat} {image : List Nat}
    (h : sequenceImage n table = some image) : (n, image) ∈ table := by
  induction table with
  | nil => exact absurd h (by simp [sequenceImage])
  | cons entry rest ih =>
    obtain ⟨m, found⟩ := entry
    rw [sequenceImage] at h
    split at h
    · exact absurd h (by simp)
    · split at h
      · next heq =>
        obtain rfl := Option.some.inj h
        rw [heq]
        exact List.mem_cons_self
      · exact List.mem_cons_of_mem _ (ih h)

/-- A longer image is not empty, and all of it is ordinary. -/
theorem isOrdinary_sequenceMapping {n : Nat} {image : List Nat}
    (h : sequenceMapping? n = some image) : image ≠ [] ∧ ∀ m ∈ image, IsOrdinary m := by
  unfold sequenceMapping? at h
  split at h
  · next part hpart =>
    have hall := List.all_eq_true.1 sequenceMappings_ordinary part (List.mem_of_find?_eq_some hpart)
    simpa using List.all_eq_true.1 hall _ (mem_of_sequenceImage h)
  · exact absurd h (by simp)

/-- A syllable falls into ordinary letters. -/
theorem isOrdinary_syllable {n : Nat} {parts : List Nat} (h : Hangul.decompose? n = some parts) :
    parts ≠ [] ∧ ∀ m ∈ parts, IsOrdinary m := by
  unfold Hangul.decompose? Hangul.syllableBase Hangul.syllableCount Hangul.leadBase
    Hangul.vowelBase Hangul.trailBase at h
  split at h
  · obtain rfl := Option.some.inj h
    refine ⟨by split <;> simp, ?_⟩
    intro m hm
    unfold IsOrdinary Nat.isValidChar
    split at hm
    · simp only [List.mem_cons, List.not_mem_nil, or_false] at hm
      omega
    · simp only [List.mem_append, List.mem_cons, List.not_mem_nil, or_false] at hm
      omega
  · exact absurd h (by simp)

/-- A code point of seven bits stays. -/
theorem decomposition_ascii {n : Nat} (h : n < 0x80) : decomposition n = [n] := by
  rw [decomposition, if_pos h]

/-- A code point is mapped to ordinary ones, or it stays. -/
theorem decomposition_cases (n : Nat) :
    decomposition n = [n] ∨ decomposition n ≠ [] ∧ ∀ m ∈ decomposition n, IsOrdinary m := by
  unfold decomposition
  split
  · exact Or.inl rfl
  · split
    · next parts hparts => exact Or.inr (isOrdinary_syllable hparts)
    · split
      · next m hm =>
        right
        simpa using isOrdinary_singleMapping hm
      · cases himage : sequenceMapping? n with
        | none => exact Or.inl rfl
        | some image => exact Or.inr (isOrdinary_sequenceMapping himage)

/-- No code point is mapped to nothing. -/
theorem decomposition_ne_nil (n : Nat) : decomposition n ≠ [] := by
  rcases decomposition_cases n with heq | ⟨hne, -⟩
  · rw [heq]
    exact List.cons_ne_nil _ _
  · exact hne

/-- Only a control is mapped to a control, and only to itself. -/
theorem eq_of_mem_decomposition {c x : Char} (hx : IsControl x)
    (h : x ∈ (decomposition c.toNat).map Char.ofNat) : x = c := by
  rcases decomposition_cases c.toNat with heq | ⟨-, hordinary⟩
  · rw [heq, List.map_singleton, Char.ofNat_toNat] at h
    exact List.mem_singleton.1 h
  · obtain ⟨m, hm, rfl⟩ := List.mem_map.1 h
    exact absurd hx (not_isControl_ofNat (hordinary m hm))

/-! ## Classes and composites -/

/-- The first mark is U+0300. -/
theorem combiningClass_eq_zero {c : Char} (h : c.toNat < 0x300) : combiningClass c = 0 := by
  unfold combiningClass combiningClassRanges
  rw [classInRanges, if_pos h]

/-- The table of composites, checked pair by pair. -/
theorem compositePairs_ordinary :
    (compositePairs.all fun entry => decide (0x300 ≤ entry.1) && entry.2.all fun pair =>
      decide (0x20 ≤ pair.1) && decide (IsOrdinary pair.2)) = true := by
  decide +kernel

/-- A composite that is found is listed for its two code points. -/
theorem exists_mem_of_compositeIn {table : List (Nat × List (Nat × Nat))} {first second n : Nat}
    (h : compositeIn first second table = some n) :
    ∃ composites, (second, composites) ∈ table ∧ (first, n) ∈ composites := by
  induction table with
  | nil => exact absurd h (by simp [compositeIn])
  | cons entry rest ih =>
    obtain ⟨m, composites⟩ := entry
    rw [compositeIn] at h
    split at h
    · exact absurd h (by simp)
    · split at h
      · next heq =>
        rw [heq]
        obtain ⟨before, behind, hsplit, -⟩ := List.lookup_eq_some_iff.1 h
        exact ⟨composites, List.mem_cons_self, hsplit ▸ List.mem_append_right _ List.mem_cons_self⟩
      · obtain ⟨found, hfound, hpair⟩ := ih h
        exact ⟨found, List.mem_cons_of_mem _ hfound, hpair⟩

/--
A syllable and the letters that join to it are ordinary, and the second letter is no character
in front of the first mark.
-/
theorem isOrdinary_syllable_compose {first second n : Nat}
    (h : Hangul.compose? first second = some n) :
    0x20 ≤ first ∧ 0x300 ≤ second ∧ IsOrdinary n := by
  unfold Hangul.compose? Hangul.syllableBase Hangul.syllableCount Hangul.leadBase
    Hangul.vowelBase Hangul.trailBase at h
  unfold IsOrdinary Nat.isValidChar
  split at h
  · have hn := Option.some.inj h
    omega
  · split at h
    · have hn := Option.some.inj h
      omega
    · exact absurd h (by simp)

/-- No control and no character in front of the first mark joins a starter, and none comes of it. -/
theorem composite?_bounds {first second joined : Char} (h : composite? first second = some joined) :
    0x20 ≤ first.toNat ∧ 0x300 ≤ second.toNat ∧ ¬ IsControl joined := by
  unfold composite? at h
  split at h
  · next n hn =>
    obtain rfl := Option.some.inj h
    obtain ⟨hfirst, hsecond, hordinary⟩ := isOrdinary_syllable_compose hn
    exact ⟨hfirst, hsecond, not_isControl_ofNat hordinary⟩
  · obtain ⟨n, hn, rfl⟩ := Option.map_eq_some_iff.1 h
    obtain ⟨composites, hentry, hpair⟩ := exists_mem_of_compositeIn hn
    have hall := List.all_eq_true.1 compositePairs_ordinary _ hentry
    simp only [Bool.and_eq_true, decide_eq_true_eq, List.all_eq_true] at hall
    obtain ⟨hsecond, hpairs⟩ := hall
    obtain ⟨hfirst, hordinary⟩ := hpairs _ hpair
    exact ⟨hfirst, hsecond, not_isControl_ofNat hordinary⟩

/-- Nothing joins a control, and no character in front of the first mark joins anything. -/
theorem composite?_eq_none {first second : Char}
    (h : first.toNat < 0x20 ∨ second.toNat < 0x300) : composite? first second = none := by
  cases hjoined : composite? first second with
  | none => rfl
  | some joined =>
    obtain ⟨hfirst, hsecond, -⟩ := composite?_bounds hjoined
    omega

end Sentinels.Unicode
