import Sentinels.Proofs.Json.Lexeme

/-!
# Values are passed over

A value of the grammar is passed over to its end, however deep it nests. The reader keeps the open
enclosures on a stack, so what is shown of a value is what holds on any stack: after some steps,
each of which takes a character, the reader is where it would be behind the value.
-/

set_option autoImplicit false

namespace Sentinels.Json

/-! ## Steps of the reader -/

/-- What is left to do after a step: nothing if no enclosure is open, else the next step. -/
def resume (fuel : Nat) : Except Stop (List Enclosure × Text) → Except Stop Text
  | .error e => .error e
  | .ok ([], rest) => .ok rest
  | .ok (enclosure :: outer, item) => skipFrom fuel (enclosure :: outer) item

/-- A step reads the beginning of a value. -/
theorem skipFrom_succ (fuel : Nat) (enclosures : List Enclosure) (text : Text) :
    skipFrom (fuel + 1) enclosures text = resume fuel (skipStart enclosures text) := by
  rw [skipFrom]
  cases skipStart enclosures text with
  | error e => rfl
  | ok found =>
    obtain ⟨still, item⟩ := found
    cases still <;> rfl

/-- Is the value passed over in so many steps, on any stack and whatever stands behind it? -/
def PassedIn (steps : Nat) (value : Text) : Prop :=
  ∀ fuel enclosures blanks rest, IsBlanks blanks → Delimited rest →
    skipFrom (fuel + steps) enclosures (blanks ++ (value ++ rest)) =
      resume fuel (closeEnclosures enclosures rest)

/-- A value whose beginning is all of it is passed over in one step. -/
theorem passedIn_one {value : Text}
    (h : ∀ enclosures blanks rest, IsBlanks blanks → Delimited rest →
      skipStart enclosures (blanks ++ (value ++ rest)) = closeEnclosures enclosures rest) :
    PassedIn 1 value := by
  intro fuel enclosures blanks rest hblanks hrest
  rw [skipFrom_succ, h enclosures blanks rest hblanks hrest]

/-! ## Scalars -/

/-- A word is passed over. -/
theorem passedIn_word {c : Char} {word : Text} (h : (c, word) ∈
    [('n', ['u', 'l', 'l']), ('t', ['r', 'u', 'e']), ('f', ['a', 'l', 's', 'e'])]) :
    PassedIn 1 (c :: word) := by
  refine passedIn_one fun enclosures blanks rest hblanks _ => ?_
  have hread := readWord_append word rest
  simp only [List.mem_cons, Prod.mk.injEq, List.not_mem_nil, or_false] at h
  rcases h with ⟨rfl, rfl⟩ | ⟨rfl, rfl⟩ | ⟨rfl, rfl⟩
  all_goals
    rw [skipStart, List.cons_append, skipBlanks_append_cons hblanks rfl]
    simp only [hread, Except.bind]

/-- A string is passed over. -/
theorem passedIn_string {text : Text} (h : IsString text) :
    PassedIn 1 ('"' :: (text ++ ['"'])) := by
  refine passedIn_one fun enclosures blanks rest hblanks _ => ?_
  rw [skipStart, List.cons_append, skipBlanks_append_cons hblanks rfl]
  simp only [List.append_assoc, List.singleton_append, skipString_append h, Except.bind]

/-- The beginning of a number without sign is read as a number. -/
theorem skipStart_digit {blanks : Text} {c : Char} (hblanks : IsBlanks blanks)
    (hc : isDigit c = true) (enclosures : List Enclosure) (rest : Text) :
    skipStart enclosures (blanks ++ c :: rest) =
      (skipNumber (c :: rest)).bind (closeEnclosures enclosures) := by
  have hblank : isBlank c = false := isBlank_eq_false (notMem_delimiters_of_isDigit hc)
  rw [skipStart, skipBlanks_append_cons hblanks hblank]
  split
  · simp at *
  · next h =>
    obtain ⟨rfl, rfl⟩ := List.cons.inj h
    split <;> first | exact absurd hc (by decide) | exact if_pos hc

/-- A number is passed over. -/
theorem passedIn_number {text : Text} (h : IsNumber text) : PassedIn 1 text := by
  refine passedIn_one fun enclosures blanks rest hblanks hrest => ?_
  obtain ⟨sign, whole, fraction, exponent, rfl, hsign, hwhole, hfraction, hexponent⟩ := h
  have hread := skipNumber_append hwhole hfraction hexponent hrest
  simp only [List.append_assoc]
  rcases hsign with rfl | rfl
  · obtain ⟨c, digits, rfl, hc⟩ := exists_cons_of_isWhole hwhole
    rw [List.nil_append, List.cons_append, skipStart_digit hblanks hc, ← List.cons_append, hread]
    rfl
  · rw [skipStart, List.singleton_append, skipBlanks_append_cons hblanks rfl]
    simp only [hread, Except.bind]

/-! ## The beginning of a value -/

/-- A value begins with a character that ends no value. -/
theorem exists_cons_of_isValue {value : Text} (h : IsValue value) :
    ∃ c rest, value = c :: rest ∧ c ∉ delimiters := by
  cases h with
  | null | true | false | string => exact ⟨_, _, rfl, by decide⟩
  | number h =>
    obtain ⟨sign, whole, fraction, exponent, rfl, hsign, hwhole, -, -⟩ := h
    rcases hsign with rfl | rfl
    · obtain ⟨c, digits, rfl, hc⟩ := exists_cons_of_isWhole hwhole
      exact ⟨c, _, rfl, notMem_delimiters_of_isDigit hc⟩
    · exact ⟨_, _, rfl, by decide⟩
  | empty enclosure => exact ⟨_, _, rfl, by cases enclosure <;> decide⟩
  | items enclosure => exact ⟨_, _, rfl, by cases enclosure <;> decide⟩

/-! ## Enclosures -/

/-- A closing character may stand behind a value. -/
theorem closer_mem_delimiters (enclosure : Enclosure) : enclosure.closer ∈ delimiters := by
  cases enclosure <;> decide

/-- An opening character begins a list or an object. -/
theorem skipStart_opener {blanks : Text} (h : IsBlanks blanks) (enclosure : Enclosure)
    (outer : List Enclosure) (rest : Text) :
    skipStart outer (blanks ++ enclosure.opener :: rest) = openEnclosure enclosure outer rest := by
  cases enclosure
  all_goals
    rw [skipStart, Enclosure.opener, skipBlanks_append_cons h rfl]
    rfl

/-- A key is passed over together with its colon. -/
theorem skipKey_key {before spelling behind : Text} (hbefore : IsBlanks before)
    (hspelling : IsString spelling) (hbehind : IsBlanks behind) (rest : Text) :
    Enclosure.object.skipKey (before ++ '"' :: (spelling ++ '"' :: (behind ++ ':' :: rest))) =
      .ok rest := by
  rw [Enclosure.skipKey, skipBlanks_append_cons hbefore rfl]
  simp only [if_true, skipString_append hspelling, Except.bind, readColon_append hbehind]

/-- What leads to a value is passed over, up to blanks in front of the value. -/
theorem skipKey_lead {enclosure : Enclosure} {lead : Text} (h : enclosure.Leads lead) :
    ∃ blanks, IsBlanks blanks ∧
      ∀ rest, enclosure.skipKey (lead ++ rest) = .ok (blanks ++ rest) := by
  cases enclosure with
  | list => exact ⟨lead, h, fun _ => rfl⟩
  | object =>
    obtain ⟨hbefore, hspelling, hbehind, hspace⟩ := h
    refine ⟨_, hspace, fun rest => ?_⟩
    simpa using skipKey_key hbefore hspelling hbehind _

/-- The first item of a list or an object is reached. -/
theorem openEnclosure_item {enclosure : Enclosure} {lead value : Text}
    (hlead : enclosure.Leads lead) (hvalue : IsValue value) :
    ∃ blanks, IsBlanks blanks ∧ ∀ outer rest, openEnclosure enclosure outer
      (lead ++ (value ++ rest)) = .ok (enclosure :: outer, blanks ++ (value ++ rest)) := by
  cases enclosure with
  | list =>
    obtain ⟨c, tail, rfl, hc⟩ := exists_cons_of_isValue hvalue
    refine ⟨[], isBlanks_nil, fun outer rest => ?_⟩
    have hcloser : c ≠ Enclosure.list.closer := fun h => hc (h ▸ closer_mem_delimiters .list)
    rw [openEnclosure, List.cons_append, skipBlanks_append_cons hlead (isBlank_eq_false hc)]
    simp only [if_neg hcloser]
    rfl
  | object =>
    obtain ⟨hbefore, hspelling, hbehind, hspace⟩ := hlead
    refine ⟨_, hspace, fun outer rest => ?_⟩
    have hread := skipKey_key isBlanks_nil hspelling hbehind
    simp only [List.append_assoc, List.cons_append]
    rw [openEnclosure, skipBlanks_append_cons hbefore rfl]
    simp only [List.nil_append] at hread
    simp only [hread]
    rfl

/-- Behind a comma, what leads to the next item is passed over. -/
theorem closeEnclosures_comma {trail : Text} (h : IsBlanks trail) (enclosure : Enclosure)
    (outer : List Enclosure) (rest : Text) :
    closeEnclosures (enclosure :: outer) (trail ++ ',' :: rest) =
      (enclosure.skipKey rest).map fun item => (enclosure :: outer, item) := by
  rw [closeEnclosures, skipBlanks_append_cons h rfl]
  rfl

/-- The closing character ends the innermost enclosure. -/
theorem closeEnclosures_closer {trail : Text} (h : IsBlanks trail) (enclosure : Enclosure)
    (outer : List Enclosure) (rest : Text) :
    closeEnclosures (enclosure :: outer) (trail ++ enclosure.closer :: rest) =
      closeEnclosures outer rest := by
  have hblank : isBlank enclosure.closer = false := by cases enclosure <;> rfl
  have hcomma : enclosure.closer ≠ ',' := by cases enclosure <;> decide
  rw [closeEnclosures, skipBlanks_append_cons h hblank]
  simp only [if_neg hcomma, if_true]

/-- Neither a comma nor the end of an enclosure belongs to the value in front of it. -/
theorem delimited_behindCommas {trail : Text} (h : IsBlanks trail) (enclosure : Enclosure)
    (texts : List Text) (rest : Text) :
    Delimited (trail ++ (behindCommas texts ++ enclosure.closer :: rest)) := by
  refine delimited_append h ?_
  cases texts with
  | nil => exact delimited_cons (closer_mem_delimiters enclosure) rest
  | cons t ts => exact delimited_cons (by decide) _

/-- The items behind a value are passed over up to the end of their enclosure. -/
theorem resume_behindCommas {enclosure : Enclosure} {items : List Item}
    (hlead : ∀ item ∈ items, enclosure.Leads item.lead)
    (htrail : ∀ item ∈ items, IsBlanks item.trail)
    (hpassed : ∀ item ∈ items, ∃ steps ≤ item.value.length, PassedIn steps item.value) :
    ∃ steps ≤ (behindCommas (items.map Item.text)).length, ∀ fuel outer trail rest, IsBlanks trail →
      resume (fuel + steps) (closeEnclosures (enclosure :: outer)
        (trail ++ (behindCommas (items.map Item.text) ++ enclosure.closer :: rest))) =
      resume fuel (closeEnclosures outer rest) := by
  induction items with
  | nil =>
    refine ⟨0, le_rfl, fun fuel outer trail rest ht => ?_⟩
    exact congrArg (resume fuel) (closeEnclosures_closer ht enclosure outer rest)
  | cons item items ih =>
    obtain ⟨later, hlater, hitems⟩ := ih
      (fun i hi => hlead i (List.mem_cons_of_mem _ hi))
      (fun i hi => htrail i (List.mem_cons_of_mem _ hi))
      (fun i hi => hpassed i (List.mem_cons_of_mem _ hi))
    obtain ⟨steps, hsteps, hvalue⟩ := hpassed item List.mem_cons_self
    obtain ⟨blanks, hblanks, hkey⟩ := skipKey_lead (hlead item List.mem_cons_self)
    have hbehind := htrail item List.mem_cons_self
    refine ⟨later + steps, ?_, fun fuel outer trail rest ht => ?_⟩
    · simp only [List.map_cons, behindCommas_cons, Item.text, List.length_cons, List.length_append]
      omega
    · simp only [List.map_cons, behindCommas_cons, Item.text, List.cons_append, List.append_assoc]
      rw [closeEnclosures_comma ht, hkey, Except.map, resume, ← Nat.add_assoc,
        hvalue _ _ _ _ hblanks (delimited_behindCommas hbehind enclosure _ rest),
        hitems fuel outer _ rest hbehind]

/-! ## Values -/

/-- A value is passed over in no more steps than it has characters. -/
theorem exists_passedIn {value : Text} (h : IsValue value) :
    ∃ steps ≤ value.length, PassedIn steps value := by
  -- the hypothesis for an item holds on any stack, so also inside of this value's enclosure
  induction h with
  | null => exact ⟨1, by simp, passedIn_word (by simp)⟩
  | true => exact ⟨1, by simp, passedIn_word (by simp)⟩
  | false => exact ⟨1, by simp, passedIn_word (by simp)⟩
  | number h =>
    obtain ⟨c, rest, rfl, -⟩ := exists_cons_of_isValue (.number h)
    exact ⟨1, by simp, passedIn_number h⟩
  | string h => exact ⟨1, by simp, passedIn_string h⟩
  | empty enclosure h =>
    refine ⟨1, by simp, passedIn_one fun outer blanks rest hblanks _ => ?_⟩
    have hblank : isBlank enclosure.closer = false := by cases enclosure <;> rfl
    simp only [List.cons_append, List.append_assoc, List.nil_append]
    rw [skipStart_opener hblanks, openEnclosure, skipBlanks_append_cons h hblank]
    simp only [if_true]
  | items enclosure items hne hlead htrail hvalue ih =>
    obtain ⟨item, items, rfl⟩ := List.exists_cons_of_ne_nil hne
    obtain ⟨later, hlater, hitems⟩ := resume_behindCommas
      (fun i hi => hlead i (List.mem_cons_of_mem _ hi))
      (fun i hi => htrail i (List.mem_cons_of_mem _ hi))
      (fun i hi => ih i (List.mem_cons_of_mem _ hi))
    obtain ⟨steps, hsteps, hfirst⟩ := ih item List.mem_cons_self
    obtain ⟨blanks, hblanks, hopen⟩ :=
      openEnclosure_item (hlead item List.mem_cons_self) (hvalue item List.mem_cons_self)
    have hbehind := htrail item List.mem_cons_self
    have hjoin : Text.join [','] ((item :: items).map Item.text) =
        item.lead ++ (item.value ++ (item.trail ++ behindCommas (items.map Item.text))) := by
      simp [join_comma_cons, Item.text]
    rw [hjoin]
    -- one step opens the enclosure, then come those of the first value and of the others
    refine ⟨later + steps + 1, ?_, fun fuel outer blanks' rest hblanks' _ => ?_⟩
    · simp only [List.length_cons, List.length_append]
      omega
    · simp only [List.cons_append, List.append_assoc, List.nil_append]
      rw [← Nat.add_assoc, skipFrom_succ, skipStart_opener hblanks', hopen, resume,
        ← Nat.add_assoc, hfirst _ _ _ _ hblanks (delimited_behindCommas hbehind enclosure _ rest),
        hitems fuel outer _ rest hbehind]

/-- A value is passed over together with the blanks in front of it. -/
theorem skipValue_append {blanks value rest : Text} (hblanks : IsBlanks blanks)
    (hvalue : IsValue value) (hrest : Delimited rest) :
    skipValue (blanks ++ (value ++ rest)) = .ok rest := by
  obtain ⟨steps, hsteps, hpassed⟩ := exists_passedIn hvalue
  have hfuel : (blanks ++ (value ++ rest)).length + 1 =
      (blanks.length + (value.length - steps) + rest.length + 1) + steps := by
    simp only [List.length_append]
    omega
  rw [skipValue, hfuel, hpassed _ _ _ _ hblanks hrest]
  rfl

end Sentinels.Json
