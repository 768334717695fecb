import Sentinels.CharSet

/-!
# Membership in sets of characters

A look-up stops at the first range above the code point, so it is right for ranges that are in
order. `Separated` says that they are, with at least one code point left out between any two, and
`insertRange` keeps it. Unions and sets of single characters have the members they should have;
so have complements where no range ends at the surrogates.
-/

set_option autoImplicit false

namespace Sentinels.CharSet

/-- Are the ranges in increasing order, none of them empty, with gaps between them? -/
def Separated (ranges : List (Nat × Nat)) : Prop :=
  (∀ r ∈ ranges, r.1 ≤ r.2) ∧ ranges.Pairwise fun r s => r.2 + 1 < s.1

/-- Does a code point lie in one of the ranges? -/
def Covers (ranges : List (Nat × Nat)) (n : Nat) : Prop := ∃ r ∈ ranges, r.1 ≤ n ∧ n ≤ r.2

/-- The ranges behind the first are separated as well, and begin above it. -/
theorem separated_cons {lo hi : Nat} {ranges : List (Nat × Nat)} :
    Separated ((lo, hi) :: ranges) ↔
      lo ≤ hi ∧ (∀ r ∈ ranges, hi + 1 < r.1) ∧ Separated ranges := by
  simp only [Separated, List.forall_mem_cons, List.pairwise_cons, and_assoc, and_left_comm]

/-- A code point lies in the first range or in one behind it. -/
theorem covers_cons {lo hi n : Nat} {ranges : List (Nat × Nat)} :
    Covers ((lo, hi) :: ranges) n ↔ (lo ≤ n ∧ n ≤ hi) ∨ Covers ranges n := by
  simp [Covers]

/-- The look-up in separated ranges finds what they cover. -/
theorem inRanges_iff {ranges : List (Nat × Nat)} (h : Separated ranges) (n : Nat) :
    inRanges n ranges = true ↔ Covers ranges n := by
  induction ranges with
  | nil => simp [inRanges, Covers]
  | cons r rest ih =>
    obtain ⟨lo, hi⟩ := r
    obtain ⟨hle, habove, hrest⟩ := separated_cons.1 h
    rw [covers_cons, inRanges]
    split
    · next hlt =>
      have hnone : ¬ Covers rest n := by
        rintro ⟨r, hr, hlo, -⟩
        have hgap := habove r hr
        omega
      simp only [Bool.false_eq_true, false_iff, hnone, or_false]
      omega
    · next hlt =>
      rw [Bool.or_eq_true, ih hrest, Nat.ble_eq]
      have hge : lo ≤ n := Nat.le_of_not_lt hlt
      simp [hge]

/-- Inserting a range adds its code points and no others. -/
theorem covers_insertRange {lo hi : Nat} {ranges : List (Nat × Nat)} (hle : lo ≤ hi)
    (h : Separated ranges) (n : Nat) :
    Covers (insertRange lo hi ranges) n ↔ (lo ≤ n ∧ n ≤ hi) ∨ Covers ranges n := by
  induction ranges generalizing lo hi with
  | nil => simp [insertRange, Covers]
  | cons r rest ih =>
    obtain ⟨a, b⟩ := r
    obtain ⟨hab, -, hrest⟩ := separated_cons.1 h
    rw [insertRange]
    split
    · rw [covers_cons]
    · split
      · next hbelow =>
        rw [covers_cons, covers_cons, ih hle hrest, or_left_comm]
      · next hbelow =>
        rw [ih (by omega) hrest, covers_cons, ← or_assoc]
        refine or_congr_left ?_
        omega

/-- Inserted ranges lie above all that the inserted range and the others lie above. -/
theorem lt_of_mem_insertRange {m lo hi : Nat} {ranges : List (Nat × Nat)} (hlo : m < lo)
    (h : ∀ r ∈ ranges, m < r.1) : ∀ r ∈ insertRange lo hi ranges, m < r.1 := by
  induction ranges generalizing lo hi with
  | nil => simpa [insertRange] using hlo
  | cons r rest ih =>
    obtain ⟨a, b⟩ := r
    obtain ⟨ha, hrest⟩ := List.forall_mem_cons.1 h
    rw [insertRange]
    split
    · exact List.forall_mem_cons.2 ⟨hlo, h⟩
    · split
      · exact List.forall_mem_cons.2 ⟨ha, ih hlo hrest⟩
      · exact ih (Nat.lt_min.2 ⟨hlo, ha⟩) hrest

/-- Ranges stay separated when one is inserted. -/
theorem separated_insertRange {lo hi : Nat} {ranges : List (Nat × Nat)} (hle : lo ≤ hi)
    (h : Separated ranges) : Separated (insertRange lo hi ranges) := by
  induction ranges generalizing lo hi with
  | nil => simpa [insertRange, Separated] using hle
  | cons r rest ih =>
    obtain ⟨a, b⟩ := r
    obtain ⟨hab, habove, hrest⟩ := separated_cons.1 h
    rw [insertRange]
    split
    · next hgap =>
      refine separated_cons.2 ⟨hle, List.forall_mem_cons.2 ⟨hgap, fun r hr => ?_⟩, h⟩
      have hr := habove r hr
      omega
    · split
      · next hgap =>
        exact separated_cons.2
          ⟨hab, lt_of_mem_insertRange hgap habove, ih hle hrest⟩
      · exact ih (by omega) hrest

/-- Ranges that are not empty, put together in any order, cover what they cover one by one. -/
theorem foldr_insertRange {ranges : List (Nat × Nat)} (h : ∀ r ∈ ranges, r.1 ≤ r.2) :
    Separated (ofRanges ranges).ranges ∧
      ∀ n, Covers (ofRanges ranges).ranges n ↔ Covers ranges n := by
  unfold ofRanges
  induction ranges with
  | nil => simp [Separated, Covers]
  | cons r rest ih =>
    obtain ⟨lo, hi⟩ := r
    obtain ⟨hle, hrest⟩ := List.forall_mem_cons.1 h
    obtain ⟨hsep, hcovers⟩ := ih hrest
    simp only [List.foldr_cons, if_pos hle]
    refine ⟨separated_insertRange hle hsep, fun n => ?_⟩
    rw [covers_insertRange hle hsep, hcovers, covers_cons]

/-! ## Complements -/

/-- The gaps above a range are separated, above its end, and cover what the ranges there leave. -/
theorem gapsAbove_spec {last : Nat} {ranges : List (Nat × Nat)} (hlast : last < 0xD7FF)
    (hsep : Separated ranges) (habove : ∀ r ∈ ranges, last + 1 < r.1)
    (hclear : ∀ r ∈ ranges, r.2 < 0xD7FF) :
    Separated (gapsAbove last ranges) ∧ (∀ r ∈ gapsAbove last ranges, last < r.1) ∧
      ∀ n ≤ maxCodePoint, Covers (gapsAbove last ranges) n ↔ last < n ∧ ¬ Covers ranges n := by
  have hnext : ∀ m < 0xD7FF, next m = m + 1 := fun m hm => if_neg (by omega)
  have hprevious : ∀ m < 0xD7FF, previous m = m - 1 := fun m hm => if_neg (by omega)
  have hmax : last < maxCodePoint := by
    unfold maxCodePoint
    omega
  induction ranges generalizing last with
  | nil =>
    rw [gapsAbove, if_pos hmax, hnext last hlast]
    refine ⟨by simpa [Separated] using Nat.succ_le_of_lt hmax, by simp, fun n hn => ?_⟩
    simp only [Covers, List.mem_singleton, exists_eq_left, List.not_mem_nil, false_and,
      exists_false, not_false_eq_true, and_true]
    omega
  | cons r rest ih =>
    obtain ⟨lo, hi⟩ := r
    obtain ⟨hle, hgap, hrest⟩ := separated_cons.1 hsep
    obtain ⟨hlo, -⟩ := List.forall_mem_cons.1 habove
    obtain ⟨hhi, hclear⟩ := List.forall_mem_cons.1 hclear
    simp only at hlo hhi
    obtain ⟨hseps, hlow, hcovers⟩ := ih hhi hrest hgap hclear (by unfold maxCodePoint; omega)
    have hbetween : between (next last) (previous lo) = (last + 1, lo - 1) := by
      rw [hnext last hlast, hprevious lo (by omega), between, Nat.min_eq_left (by omega),
        Nat.max_eq_right (by omega)]
    rw [gapsAbove, hbetween]
    refine ⟨separated_cons.2 ⟨by omega, fun r hr => ?_, hseps⟩,
      List.forall_mem_cons.2 ⟨Nat.lt_succ_self last, fun r hr => ?_⟩, fun n hn => ?_⟩
    · have hr := hlow r hr
      omega
    · have hr := hlow r hr
      omega
    · have habove : Covers rest n → hi < n := by
        rintro ⟨r, hr, hlo, -⟩
        have hr := hgap r hr
        omega
      rw [covers_cons, covers_cons, hcovers n hn]
      by_cases hmem : Covers rest n
      · have hn := habove hmem
        simp only [hmem, not_true_eq_false, and_false, or_false, or_true, iff_false]
        omega
      · simp only [hmem, not_false_eq_true, and_true, or_false]
        omega

/-- The code points of characters end at the largest one. -/
theorem toNat_le_maxCodePoint (c : Char) : c.toNat ≤ maxCodePoint := by
  have hvalid := c.valid
  simp only [UInt32.isValidChar, Nat.isValidChar] at hvalid
  show c.val.toNat ≤ 0x10FFFF
  omega

/-- A character is in the complement of a set exactly if it is not in the set. -/
theorem contains_compl {s : CharSet} (hsep : Separated s.ranges)
    (hclear : ∀ r ∈ s.ranges, r.2 < 0xD7FF) (c : Char) : s.compl.contains c = !s.contains c := by
  have hmax := toNat_le_maxCodePoint c
  obtain ⟨ranges⟩ := s
  rw [Bool.eq_iff_iff, Bool.not_eq_true', Bool.eq_false_iff, Ne]
  simp only [contains]
  cases ranges with
  | nil => simp [compl, full, inRanges, hmax]
  | cons r rest =>
    obtain ⟨lo, hi⟩ := r
    obtain ⟨hle, hgap, hrest⟩ := separated_cons.1 hsep
    obtain ⟨hhi, hclear⟩ := List.forall_mem_cons.1 hclear
    obtain ⟨hseps, hlow, hcovers⟩ := gapsAbove_spec hhi hrest hgap hclear
    have hprevious : previous lo = lo - 1 := if_neg (by simp only at hhi; omega)
    have hbehind : Covers rest c.toNat → hi < c.toNat := by
      rintro ⟨r, hr, hlo, -⟩
      have hr := hgap r hr
      omega
    rw [inRanges_iff hsep, covers_cons, compl]
    simp only [hprevious]
    by_cases hzero : lo = 0
    · rw [if_pos hzero, List.nil_append, inRanges_iff hseps, hcovers _ hmax]
      by_cases hmem : Covers rest c.toNat
      · simp [hmem]
      · simp only [hmem, not_false_eq_true, and_true, or_false]
        omega
    · have hsep' : Separated ((0, lo - 1) :: gapsAbove hi rest) := by
        refine separated_cons.2 ⟨Nat.zero_le _, fun r hr => ?_, hseps⟩
        have hr := hlow r hr
        omega
      rw [if_neg hzero, List.singleton_append, inRanges_iff hsep', covers_cons, hcovers _ hmax]
      by_cases hmem : Covers rest c.toNat
      · have hn := hbehind hmem
        simp only [hmem, not_true_eq_false, and_false, or_false, or_true, iff_false]
        omega
      · simp only [hmem, not_false_eq_true, and_true, or_false]
        omega

/-- A single character is a set of one range. -/
theorem separated_singleton (x : Char) : Separated (singleton x).ranges := by
  simp [Separated, singleton]

/-- The complement of a single character below the surrogates holds all others. -/
theorem contains_compl_singleton {x : Char} (hx : x.toNat < 0xD7FF) (y : Char) :
    (singleton x).compl.contains y = (y != x) := by
  rw [contains_compl (separated_singleton x) (by simpa [singleton] using hx), contains_singleton]
  rfl

/-- A character is in the union of two sets exactly if it is in one of them. -/
theorem contains_union {s t : CharSet} (hs : Separated s.ranges) (ht : Separated t.ranges)
    (c : Char) : (s.union t).contains c = (s.contains c || t.contains c) := by
  have hle : ∀ r ∈ s.ranges ++ t.ranges, r.1 ≤ r.2 := fun r hr =>
    (List.mem_append.1 hr).elim (hs.1 r) (ht.1 r)
  obtain ⟨hsep, hcovers⟩ := foldr_insertRange hle
  rw [Bool.eq_iff_iff, Bool.or_eq_true]
  simp only [contains, union]
  rw [inRanges_iff hsep, inRanges_iff hs, inRanges_iff ht, hcovers]
  simp [Covers, or_and_right, exists_or]

/-- A set of single characters has these as its members. -/
theorem contains_ofRanges_chars (chars : List Char) (c : Char) :
    (ofRanges (chars.map fun d => (d.toNat, d.toNat))).contains c = decide (c ∈ chars) := by
  have hle : ∀ r ∈ chars.map fun d => (d.toNat, d.toNat), r.1 ≤ r.2 := by simp
  obtain ⟨hsep, hcovers⟩ := foldr_insertRange hle
  rw [Bool.eq_iff_iff, decide_eq_true_iff, contains, inRanges_iff hsep, hcovers]
  constructor
  · rintro ⟨r, hr, hlo, hhi⟩
    obtain ⟨d, hd, rfl⟩ := List.mem_map.1 hr
    rwa [Char.toNat_inj.1 (Nat.le_antisymm hhi hlo)]
  · intro hc
    exact ⟨_, List.mem_map.2 ⟨c, hc, rfl⟩, Nat.le_refl _, Nat.le_refl _⟩

end Sentinels.CharSet
