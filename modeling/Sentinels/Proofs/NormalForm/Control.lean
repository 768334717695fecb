import Sentinels.Proofs.NormalForm.Table
import Sentinels.Proofs.Text

/-!
# Controls in the normal form

A text falls into parts at its controls, and each step towards the normal form works on the parts
one by one: nothing is reordered or joined across a control. The controls of the normal form are
those of the text, with the normal forms of the parts between them. A text of seven bits is its own
normal form.
-/

set_option autoImplicit false

namespace Sentinels.Unicode

variable {x : Char}

/-! ## Across a control -/

section Split

variable (hx : IsControl x)

include hx

/-- Controls are starters. -/
theorem combiningClass_control : combiningClass x = 0 := by
  unfold IsControl at hx
  exact combiningClass_eq_zero (by omega)

/-- A control joins no starter in front of it. -/
theorem composite?_control_right (first : Char) : composite? first x = none := by
  unfold IsControl at hx
  exact composite?_eq_none (Or.inr (by omega))

/-- No character joins a control in front of it. -/
theorem composite?_control_left (second : Char) : composite? x second = none :=
  composite?_eq_none (Or.inl hx)

/-- Characters are decomposed one by one, and a control stays as it is. -/
theorem decompose_append_control (u v : Text) :
    decompose (u ++ x :: v) = decompose u ++ x :: decompose v := by
  have hstays : decomposition x.toNat = [x.toNat] := by
    unfold IsControl at hx
    exact decomposition_ascii (by omega)
  unfold decompose
  rw [List.flatMap_append, List.flatMap_cons, hstays, List.map_singleton, Char.ofNat_toNat,
    List.singleton_append]

/-- No character is moved behind a control. -/
theorem insertOrdered_append_control (c : Char) (s t : Text) :
    insertOrdered c (s ++ x :: t) = insertOrdered c s ++ x :: t := by
  have hclass := combiningClass_control hx
  induction s with
  | nil => simp [insertOrdered, hclass]
  | cons d s ih =>
    rw [List.cons_append, insertOrdered, insertOrdered, ih]
    split
    · rfl
    · rfl

/-- The parts on the two sides of a control are ordered one by one. -/
theorem reorder_append_control (s t : Text) :
    reorder (s ++ x :: t) = reorder s ++ x :: reorder t := by
  have hclass := combiningClass_control hx
  induction s with
  | nil =>
    show insertOrdered x (reorder t) = x :: reorder t
    cases reorder t with
    | nil => rfl
    | cons d rest => simp [insertOrdered, hclass]
  | cons c s ih =>
    show insertOrdered c (reorder (s ++ x :: t)) = insertOrdered c (reorder s) ++ x :: reorder t
    rw [ih, insertOrdered_append_control hx]

/-- Nothing joins a control, so what stands behind it is composed by itself. -/
theorem composeFrom_control (marks : List Char) (blocking : Nat) (t : Text) :
    composeFrom x marks blocking t = x :: (marks.reverse ++ compose t) := by
  induction t generalizing marks blocking with
  | nil => simp [composeFrom, compose]
  | cons c t ih =>
    rw [composeFrom, compose, composite?_control_left hx, ite_self]
    dsimp only
    split
    · rfl
    · rw [ih, List.reverse_cons, List.append_assoc, List.singleton_append]

/-- A starter collects nothing from behind a control. -/
theorem composeFrom_append_control (starter : Char) (marks : List Char) (blocking : Nat)
    (s t : Text) :
    composeFrom starter marks blocking (s ++ x :: t) =
      composeFrom starter marks blocking s ++ x :: compose t := by
  induction s generalizing starter marks blocking with
  | nil =>
    have hdone : composeFrom starter marks blocking [] = starter :: marks.reverse := rfl
    rw [List.nil_append, hdone, composeFrom, composite?_control_right hx, ite_self]
    dsimp only
    rw [if_pos (combiningClass_control hx), composeFrom_control hx, List.cons_append]
    rfl
  | cons c s ih =>
    rw [List.cons_append, composeFrom, composeFrom]
    split
    · exact ih _ _ _
    · split
      · rw [ih, List.cons_append, List.append_assoc]
      · exact ih _ _ _

/-- The parts on the two sides of a control are composed one by one. -/
theorem compose_append_control (s t : Text) :
    compose (s ++ x :: t) = compose s ++ x :: compose t := by
  induction s with
  | nil =>
    show compose (x :: t) = x :: compose t
    rw [compose, if_pos (combiningClass_control hx), composeFrom_control hx]
    rfl
  | cons c s ih =>
    rw [List.cons_append, compose, compose]
    split
    · exact composeFrom_append_control hx c [] 0 s t
    · rw [ih, List.cons_append]

/-- The normal form is found on the two sides of a control one by one. -/
theorem normalForm_append_control (u v : Text) :
    normalForm (u ++ x :: v) = normalForm u ++ x :: normalForm v := by
  unfold normalForm
  rw [decompose_append_control hx, reorder_append_control hx, compose_append_control hx]

/-- A control that a text begins with stays there. -/
theorem normalForm_cons_control (v : Text) : normalForm (x :: v) = x :: normalForm v :=
  normalForm_append_control hx [] v

end Split

/-! ## Controls are neither made nor hidden -/

/-- A mark finds its place without a change of the other characters. -/
theorem insertOrdered_perm (c : Char) (s : Text) : (insertOrdered c s).Perm (c :: s) := by
  induction s with
  | nil => exact List.Perm.refl _
  | cons d s ih =>
    rw [insertOrdered]
    split
    · exact (ih.cons d).trans (List.Perm.swap c d s)
    · exact List.Perm.refl _

/-- Ordering only moves characters. -/
theorem reorder_perm (s : Text) : (reorder s).Perm s := by
  induction s with
  | nil => exact List.Perm.refl _
  | cons c s ih => exact (insertOrdered_perm c (reorder s)).trans (ih.cons c)

/-- A control that comes out of composing was given: no composite is one. -/
theorem mem_of_mem_composeFrom (hx : IsControl x) {starter : Char} {marks : List Char}
    {blocking : Nat} {s : Text} (h : x ∈ composeFrom starter marks blocking s) :
    x = starter ∨ x ∈ marks ∨ x ∈ s := by
  induction s generalizing starter marks blocking with
  | nil => simpa [composeFrom] using h
  | cons c s ih =>
    rw [composeFrom] at h
    split at h
    · next joined hjoined =>
      have hcomposite : composite? starter c = some joined := by
        split at hjoined
        · exact hjoined
        · exact absurd hjoined (by simp)
      rcases ih h with rfl | hmarks | hrest
      · exact absurd hx (composite?_bounds hcomposite).2.2
      · exact Or.inr (Or.inl hmarks)
      · exact Or.inr (Or.inr (List.mem_cons_of_mem c hrest))
    · split at h
      · rw [List.mem_cons, List.mem_append, List.mem_reverse] at h
        rcases h with rfl | hmarks | hrest
        · exact Or.inl rfl
        · exact Or.inr (Or.inl hmarks)
        · rcases ih hrest with rfl | hnone | hrest
          · exact Or.inr (Or.inr List.mem_cons_self)
          · exact absurd hnone List.not_mem_nil
          · exact Or.inr (Or.inr (List.mem_cons_of_mem c hrest))
      · rcases ih h with rfl | hmarks | hrest
        · exact Or.inl rfl
        · rcases List.mem_cons.1 hmarks with rfl | hmarks
          · exact Or.inr (Or.inr List.mem_cons_self)
          · exact Or.inr (Or.inl hmarks)
        · exact Or.inr (Or.inr (List.mem_cons_of_mem c hrest))

/-- Composing makes no controls. -/
theorem mem_of_mem_compose (hx : IsControl x) {s : Text} (h : x ∈ compose s) : x ∈ s := by
  induction s with
  | nil => exact h
  | cons c s ih =>
    rw [compose] at h
    split at h
    · rcases mem_of_mem_composeFrom hx h with rfl | hnone | hrest
      · exact List.mem_cons_self
      · exact absurd hnone List.not_mem_nil
      · exact List.mem_cons_of_mem c hrest
    · rcases List.mem_cons.1 h with rfl | hrest
      · exact List.mem_cons_self
      · exact List.mem_cons_of_mem c (ih hrest)

/-- The controls of the normal form are controls of the text. -/
theorem mem_of_mem_normalForm (hx : IsControl x) {u : Text} (h : x ∈ normalForm u) : x ∈ u := by
  have hdecompose : x ∈ decompose u := (reorder_perm _).subset (mem_of_mem_compose hx h)
  obtain ⟨c, hc, hmem⟩ := List.mem_flatMap.1 hdecompose
  rwa [eq_of_mem_decomposition hx hmem]

/-- A starter never vanishes, although it may become a composite. -/
theorem composeFrom_ne_nil (starter : Char) (marks : List Char) (blocking : Nat) (s : Text) :
    composeFrom starter marks blocking s ≠ [] := by
  induction s generalizing starter marks blocking with
  | nil => exact List.cons_ne_nil _ _
  | cons c s ih =>
    rw [composeFrom]
    split
    · exact ih _ _ _
    · split
      · exact List.cons_ne_nil _ _
      · exact ih _ _ _

/-- Composing leaves a character of each text that has one. -/
theorem compose_ne_nil {s : Text} (h : s ≠ []) : compose s ≠ [] := by
  cases s with
  | nil => exact absurd rfl h
  | cons c s =>
    rw [compose]
    split
    · exact composeFrom_ne_nil c [] 0 s
    · exact List.cons_ne_nil _ _

/-- No text vanishes. -/
theorem normalForm_eq_nil {u : Text} (h : normalForm u = []) : u = [] := by
  cases u with
  | nil => rfl
  | cons c u =>
    have hdecompose : decompose (c :: u) ≠ [] := by
      unfold decompose
      rw [List.flatMap_cons]
      intro hnil
      exact decomposition_ne_nil c.toNat (List.map_eq_nil_iff.1 (List.append_eq_nil_iff.1 hnil).1)
    have hreorder : reorder (decompose (c :: u)) ≠ [] := by
      intro hnil
      exact hdecompose (List.perm_nil.1 (hnil ▸ (reorder_perm _).symm))
    exact absurd h (compose_ne_nil hreorder)

/--
A control of the normal form comes from one of the text, and what stands on its two sides are the
normal forms of what stands on the two sides there.
-/
theorem exists_of_normalForm_eq (hx : IsControl x) {u s t : Text}
    (h : normalForm u = s ++ x :: t) :
    ∃ before behind, u = before ++ x :: behind ∧ normalForm before = s ∧ normalForm behind = t := by
  induction hlength : u.length using Nat.strong_induction_on generalizing u s with
  | _ n ih =>
    have hmem : x ∈ u := by
      apply mem_of_mem_normalForm hx
      rw [h]
      exact List.mem_append_right s List.mem_cons_self
    -- the first occurrences of the control in the text and in its normal form correspond
    obtain ⟨first, rest, rfl, hfirst⟩ := List.eq_append_cons_of_mem hmem
    have hnormal : x ∉ normalForm first := mt (mem_of_mem_normalForm hx) hfirst
    rw [normalForm_append_control hx] at h
    by_cases hs : x ∈ s
    · obtain ⟨s', s'', rfl, hs'⟩ := List.eq_append_cons_of_mem hs
      rw [List.append_assoc, List.cons_append] at h
      obtain ⟨hfront, hbehind⟩ := Text.eq_of_append_cons_eq hnormal hs' h
      have hless : rest.length < n := by
        rw [← hlength, List.length_append, List.length_cons]
        omega
      obtain ⟨before, behind, rfl, hbefore, hrest⟩ := ih rest.length hless hbehind rfl
      refine ⟨first ++ x :: before, behind, by simp, ?_, hrest⟩
      rw [normalForm_append_control hx, hfront, hbefore]
    · obtain ⟨hfront, hbehind⟩ := Text.eq_of_append_cons_eq hnormal hs h
      exact ⟨first, rest, rfl, hfront, hbehind⟩

/-- The normal form begins with a control only if the text does. -/
theorem head?_of_normalForm (hx : IsControl x) {u : Text}
    (h : (normalForm u).head? = some x) : u.head? = some x := by
  obtain ⟨t, ht⟩ := List.head?_eq_some_iff.1 h
  obtain ⟨before, behind, rfl, hbefore, -⟩ := exists_of_normalForm_eq hx (s := []) ht
  rw [normalForm_eq_nil hbefore]
  rfl

/-- The normal form ends with a control only if the text does. -/
theorem getLast?_of_normalForm (hx : IsControl x) {u : Text}
    (h : (normalForm u).getLast? = some x) : u.getLast? = some x := by
  obtain ⟨s, hs⟩ := List.getLast?_eq_some_iff.1 h
  obtain ⟨before, behind, rfl, -, hbehind⟩ := exists_of_normalForm_eq hx hs
  rw [normalForm_eq_nil hbehind, List.getLast?_concat]

/-! ## Texts of seven bits -/

/-- A text of seven bits has nothing to decompose. -/
theorem decompose_ascii {t : Text} (h : ∀ c ∈ t, c.toNat < 0x80) : decompose t = t := by
  induction t with
  | nil => rfl
  | cons c t ih =>
    obtain ⟨hc, ht⟩ := List.forall_mem_cons.1 h
    have hcons : decompose (c :: t) = (decomposition c.toNat).map Char.ofNat ++ decompose t := rfl
    rw [hcons, decomposition_ascii hc, ih ht, List.map_singleton, Char.ofNat_toNat,
      List.singleton_append]

/-- A text of seven bits has no marks to order. -/
theorem reorder_ascii {t : Text} (h : ∀ c ∈ t, c.toNat < 0x80) : reorder t = t := by
  induction t with
  | nil => rfl
  | cons c t ih =>
    obtain ⟨-, ht⟩ := List.forall_mem_cons.1 h
    show insertOrdered c (reorder t) = c :: t
    rw [ih ht]
    cases t with
    | nil => rfl
    | cons d t =>
      have hd := ht d List.mem_cons_self
      simp [insertOrdered, combiningClass_eq_zero (show d.toNat < 0x300 by omega)]

/-- No character of seven bits joins a starter. -/
theorem composeFrom_ascii {t : Text} (h : ∀ c ∈ t, c.toNat < 0x80) (starter : Char) :
    composeFrom starter [] 0 t = starter :: t := by
  induction t generalizing starter with
  | nil => rfl
  | cons c t ih =>
    obtain ⟨hc, ht⟩ := List.forall_mem_cons.1 h
    have hcomposite : composite? starter c = none := composite?_eq_none (Or.inr (by omega))
    rw [composeFrom, hcomposite, ite_self]
    dsimp only
    rw [if_pos (combiningClass_eq_zero (by omega)), ih ht]
    rfl

/-- A text of seven bits is its own normal form. -/
theorem normalForm_ascii {t : Text} (h : ∀ c ∈ t, c.toNat < 0x80) : normalForm t = t := by
  unfold normalForm
  rw [decompose_ascii h, reorder_ascii h]
  cases t with
  | nil => rfl
  | cons c t =>
    obtain ⟨hc, ht⟩ := List.forall_mem_cons.1 h
    rw [compose, if_pos (combiningClass_eq_zero (by omega)), composeFrom_ascii ht]

end Sentinels.Unicode
