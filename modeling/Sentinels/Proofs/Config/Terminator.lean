import Sentinels.Listing
import Sentinels.Proofs.Config.Reader
import Sentinels.Proofs.Json.Integer

/-!
# The terminator from a configuration to the listing

A configuration may give the terminator any literal of an integer. Either the literal denotes an
integer of 64 bits with sign, and then every array of a listing ends with the literal as it was
written, or loading fails: no other number takes its place (`terminator_recovered`).
-/

set_option autoImplicit false

namespace Sentinels.Config

open Json

/-! ## Members that are refused -/

/-- A member is refused if its value is. -/
theorem readMember_refused {behind value : Text} {field : Field} (hbehind : IsBlanks behind)
    (h : ∃ stop, field.kind.read value = .error stop) (config : Config) (seen : List Field) :
    ∃ stop, readMember config seen field.name (behind ++ ':' :: value) = .error stop := by
  obtain ⟨stop, hstop⟩ := h
  rw [readMember, named?_name]
  simp only
  split
  · exact ⟨_, rfl⟩
  · refine ⟨stop, ?_⟩
    simp only [readColon_append hbehind, Except.bind, readField, hstop, Except.map]

/-- Members are refused if the first of them is, or what follows it. -/
theorem readMembers_key_refused {first : Bool} {text key behind : Text} {fuel : Nat}
    {config : Config} {seen : List Field} (hkey : nextKey first text = .ok (some (key, behind)))
    (h : ∀ config' seen' rest, readMember config seen key behind = .ok (config', seen', rest) →
      ∃ stop, readMembers fuel config' seen' false rest = .error stop) :
    ∃ stop, readMembers (fuel + 1) config seen first text = .error stop := by
  rw [readMembers, hkey]
  simp only
  cases hmember : readMember config seen key behind with
  | error stop => exact ⟨stop, rfl⟩
  | ok state => exact h state.1 state.2.1 state.2.2 hmember

section Refused

variable {field : Field} {lead value trail : Text}

/-- The members of an object are refused if the value of one of them is. -/
theorem readMembers_refused (hlead : LeadsFrom (Spells · field.name) lead)
    (htrail : IsBlanks trail)
    (hvalue : ∀ space rest, IsBlanks space → Delimited rest →
      ∃ stop, field.kind.read (space ++ (value ++ rest)) = .error stop)
    {texts : List Text} {members : List Member} (h : List.Forall₂ SpellsMember texts members)
    {first : Bool} {front : Text} (hfront : Separator first front) (later : List Text)
    (rest : Text) (fuel : Nat) (config : Config) (seen : List Field) :
    ∃ stop, readMembers fuel config seen first (front ++
      (Text.join [','] (texts ++ (lead ++ (value ++ trail)) :: later) ++ '}' :: rest)) =
        .error stop := by
  -- without fuel there is a fault as well, so the fuel need not be enough
  induction h generalizing first front fuel config seen with
  | nil =>
    cases fuel with
    | zero => exact ⟨_, rfl⟩
    | succ fuel =>
      obtain @⟨before, spelling, behind, space, hbefore, hspelling, hbehind, hspace⟩ := hlead
      have hread := hvalue space _ hspace (delimited_members htrail later rest)
      obtain ⟨stop, hstop⟩ := readMember_refused hbehind hread config seen
      simp only [List.nil_append, join_comma_cons, List.cons_append, List.append_assoc]
      apply readMembers_key_refused (nextKey_separator hfront hbefore hspelling _)
      intro config' seen' tail hok
      rw [hstop] at hok
      cases hok
  | @cons _ member texts members hmember _ ih =>
    cases fuel with
    | zero => exact ⟨_, rfl⟩
    | succ fuel =>
      obtain ⟨before, spelling, behind, key, blanks, hbefore, hspelling, hblanks, rfl, hread⟩ :=
        readMember_spelling hmember
      have hcomma : ',' ∈ delimiters := by decide
      have hlater := fun tail => delimited_append hblanks (delimited_cons hcomma tail)
      rw [List.cons_append, join_comma_append _ (by simp)]
      simp only [List.append_assoc, List.cons_append]
      apply readMembers_key_refused (nextKey_separator hfront hbefore hspelling _)
      intro config' seen' tail hok
      have happlied := congrArg (Except.mapError Stop.fault) hok
      rw [hread _ _ _ (hlater _)] at happlied
      cases happly : member.apply config seen with
      | error fault => simp [happly, Except.map, Except.mapError] at happlied
      | ok state =>
        simp only [happly, Except.map, Except.mapError, Except.ok.injEq, Prod.mk.injEq] at happlied
        obtain ⟨-, -, rfl⟩ := happlied
        simpa only [List.append_assoc, List.singleton_append] using
          ih (.comma hblanks) fuel config' seen'

end Refused

/-! ## Objects with a literal for the terminator -/

/--
The texts that hold an object with a literal in the place of the terminator's value, wherever it
stands among other members.
-/
inductive GivesTerminator (literal : Text) : Text → List Member → Prop
  | among {before lead trail behind : Text} {texts laterTexts : List Text}
      {members later : List Member} (hbefore : IsBlanks before)
      (h : List.Forall₂ SpellsMember texts members)
      (hlead : LeadsFrom (Spells · Field.terminator.name) lead) (htrail : IsBlanks trail)
      (hlater : List.Forall₂ SpellsMember laterTexts later) (hbehind : IsBlanks behind) :
      GivesTerminator literal (before ++ '{' ::
        (Text.join [','] (texts ++ (lead ++ (literal ++ trail)) :: laterTexts) ++ '}' :: behind))
        (members ++ later)

variable {literal text : Text} {others : List Member}

/-- A literal of an integer of 64 bits makes such a text the spelling of an object. -/
theorem GivesTerminator.exists_spellsObject (h : GivesTerminator literal text others)
    {n : Int} (hliteral : SpellsInteger literal n) :
    ∃ members, SpellsObject text members ∧
      members.Perm (.setting .terminator n :: others) := by
  obtain ⟨hbefore, h, hlead, htrail, hlater, hbehind⟩ := h
  have hmember : SpellsMember _ (.setting .terminator n) := .setting hlead hliteral htrail
  exact ⟨_, .members hbefore (by simp) (List.rel_append h (.cons hmember hlater)) hbehind,
    List.perm_middle⟩

/-- Any other literal makes it a text that is refused. -/
theorem GivesTerminator.ofJson_refused (h : GivesTerminator literal text others)
    (hliteral : IsIntegerLiteral literal) (hfits : ¬ FitsInteger literal) :
    ∃ stop, ofJson text = .error stop := by
  obtain @⟨before, lead, trail, behind, texts, laterTexts, _, _, hbefore, h, hlead, htrail, -, -⟩ :=
    h
  have hrefused := readMembers_refused hlead htrail
    (fun _ _ hspace hrest => readInteger_of_not_fits hspace hliteral hfits hrest) h .first
    laterTexts behind
  rw [ofJson, read, skipBlanks_append_cons hbefore rfl]
  simp only
  generalize List.length _ + 1 = fuel
  obtain ⟨stop, hstop⟩ := hrefused fuel default []
  rw [List.nil_append] at hstop
  exact ⟨stop, by rw [hstop]⟩

/-- The lines of a listing whose terminator is written as the literal. -/
theorem lines_of_ofInt_eq {config : Config} (h : Text.ofInt config.terminator = literal)
    (found : Extraction) :
    Listing.lines config found =
      [Listing.includeLine config] ++
        found.table.map (fun entry => "int ".toList ++ entry.1 ++ config.arraySuffix ++
          "[] = \x7b".toList ++
          Text.join ", ".toList (entry.2.map Sentinel.text ++ [literal]) ++ "\x7d;".toList) ++
        [[], Listing.tableLine config] ++
        found.table.map (fun entry => Listing.row config entry.1) ++
        ["\x7d;".toList, Listing.countLine found.voidCount] := by
  have hopen : "[] = \x7b".toList = "[] = ".toList ++ ['{'] := rfl
  unfold Listing.lines Listing.arrayLine Listing.items Listing.arrayName
  simp only [hopen, h, List.append_assoc]
  rfl

/--
**The terminator survives or is refused.** Let an object give the terminator a literal of an
integer, among members of which no two name the same field. If the literal is not minus zero and
denotes an integer of 64 bits with sign, the object is loaded, the terminator is the denoted
integer, and in every listing the last item of every array is the literal, character for character.
Any other literal is refused.
-/
theorem terminator_recovered (hliteral : IsIntegerLiteral literal)
    (h : GivesTerminator literal text others)
    (hnodup : (Field.terminator :: namedFields others).Nodup) (path : Text) :
    (literal ≠ "-0".toList ∧ -9223372036854775808 ≤ integerValue literal ∧
        integerValue literal ≤ 9223372036854775807 →
      ∃ config, Config.ofFile path (.ok (Utf8.encode text)) = .ok config ∧
        config.terminator = integerValue literal ∧
        ∀ found : Extraction, Listing.lines config found =
          [Listing.includeLine config] ++
            found.table.map (fun entry => "int ".toList ++ entry.1 ++ config.arraySuffix ++
              "[] = \x7b".toList ++
              Text.join ", ".toList (entry.2.map Sentinel.text ++ [literal]) ++ "\x7d;".toList) ++
            [[], Listing.tableLine config] ++
            found.table.map (fun entry => Listing.row config entry.1) ++
            ["\x7d;".toList, Listing.countLine found.voidCount]) ∧
    (¬ (literal ≠ "-0".toList ∧ -9223372036854775808 ≤ integerValue literal ∧
        integerValue literal ≤ 9223372036854775807) →
      ∃ fault, Config.ofFile path (.ok (Utf8.encode text)) = .error (.configParse path fault)) := by
  refine ⟨fun hfits => ?_, fun hfits => ?_⟩
  · have hspells := spellsInteger_integerValue hliteral hfits
    obtain ⟨members, hobject, hperm⟩ := h.exists_spellsObject hspells
    have hnodup : (namedFields members).Nodup := (hperm.filterMap _).nodup_iff.2 hnodup
    obtain ⟨config, happly, hset, -⟩ :=
      applyMembers_of_nodup default [] hnodup fun _ _ => List.not_mem_nil
    have hterminator : config.terminator = integerValue literal :=
      hset .terminator _ (hperm.mem_iff.2 List.mem_cons_self)
    have hload := mapError_fault_eq_ok.1 ((ofJson_spelling hobject).trans happly)
    refine ⟨config, ofFile_of_ofJson_ok hload path, hterminator, lines_of_ofInt_eq ?_⟩
    rw [hterminator]
    exact ofInt_integerValue hliteral hfits.1
  · obtain ⟨stop, hstop⟩ := h.ofJson_refused hliteral hfits
    exact ⟨_, ofFile_of_ofJson_error hstop path⟩

/-- The least integer of 64 bits is loaded, the one behind the largest and minus zero are not. -/
theorem terminator_recovered_edges :
    (∃ config, Config.ofFile ['c'] (.ok (Utf8.encode
        "\x7b\"normalize\":true, \"terminator\": -9223372036854775808 \x7d".toList)) =
          .ok config ∧ config.terminator = -9223372036854775808) ∧
    ∀ literal ∈ ["9223372036854775808".toList, "-0".toList],
      ∃ fault, Config.ofFile ['c'] (.ok (Utf8.encode
        ("\x7b\"terminator\":".toList ++ literal ++ "\x7d".toList))) =
          .error (.configParse ['c'] fault) := by
  have hspace : IsBlanks [' '] := by simp [IsBlanks]
  have hname : Spells "terminator".toList Field.terminator.name := spells_self (by simp [IsPlain])
  have hflagName : Spells "normalize".toList Field.normalize.name :=
    spells_self (by simp [IsPlain])
  have hflag : SpellsMember _ (.setting .normalize true) :=
    .setting (.key isBlanks_nil hflagName isBlanks_nil isBlanks_nil) .true isBlanks_nil
  have hwhole : IsWhole "9223372036854775808".toList := isWhole_ofNat 9223372036854775808
  constructor
  · have hliteral : IsIntegerLiteral "-9223372036854775808".toList :=
      ⟨['-'], _, rfl, .inr rfl, hwhole⟩
    have hobject : GivesTerminator "-9223372036854775808".toList _ _ :=
      .among isBlanks_nil (.cons hflag .nil) (.key hspace hname isBlanks_nil hspace) hspace .nil
        isBlanks_nil
    obtain ⟨config, hload, hterminator, -⟩ :=
      (terminator_recovered hliteral hobject (by decide) ['c']).1 (by decide)
    exact ⟨config, hload, hterminator⟩
  · intro literal hmem
    have hliteral : IsIntegerLiteral literal ∧ ¬ FitsInteger literal := by
      rcases List.mem_pair.1 hmem with rfl | rfl
      · exact ⟨⟨[], _, rfl, .inl rfl, hwhole⟩, by unfold FitsInteger; decide⟩
      · exact ⟨⟨['-'], ['0'], rfl, .inr rfl, .inl rfl⟩, by unfold FitsInteger; decide⟩
    have hobject : GivesTerminator literal _ _ :=
      .among isBlanks_nil .nil (.key isBlanks_nil hname isBlanks_nil isBlanks_nil) isBlanks_nil .nil
        isBlanks_nil
    obtain ⟨fault, hfault⟩ :=
      (terminator_recovered hliteral.1 hobject (by decide) ['c']).2 hliteral.2
    exact ⟨fault, by simpa using hfault⟩

end Sentinels.Config
