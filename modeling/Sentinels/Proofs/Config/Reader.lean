import Sentinels.Proofs.Json.Skip
import Sentinels.Proofs.Json.Typed
import Sentinels.Proofs.Utf8
import Sentinels.Source

/-!
# Configurations are read from their spellings

A configuration is spelled as an object: its members are values of fields, in any order, and values
of other keys. Reading such a text applies the members one after the other to the default
configuration; a field that is named again is refused, however far the two members are apart.
-/

set_option autoImplicit false

namespace Sentinels.Config

open Json

/-! ## Spellings -/

/-- The spellings of a value of a kind. -/
def Kind.Spells : (kind : Kind) → Text → kind.Value → Prop
  | .strings => SpellsList
  | .string => SpellsString
  | .integer => SpellsInteger
  | .boolean => SpellsBoolean

/-- A member of an object: a value of a field, or something under another key. -/
inductive Member
  | setting (field : Field) (value : field.kind.Value)
  | other (key : Text)

/-- The spellings of a member, with the blanks around it. -/
inductive SpellsMember : Text → Member → Prop
  | setting {lead spelling trail : Text} {field : Field} {value : field.kind.Value}
      (hlead : LeadsFrom (Spells · field.name) lead)
      (hvalue : field.kind.Spells spelling value) (htrail : IsBlanks trail) :
      SpellsMember (lead ++ (spelling ++ trail)) (.setting field value)
  | other {lead value trail key : Text} (hkey : ∀ field : Field, field.name ≠ key)
      (hlead : LeadsFrom (Spells · key) lead) (hvalue : IsValue value)
      (htrail : IsBlanks trail) : SpellsMember (lead ++ (value ++ trail)) (.other key)

/-- The texts that hold an object with these members and nothing else. -/
inductive SpellsObject : Text → List Member → Prop
  | empty {before space behind : Text} (hbefore : IsBlanks before) (hspace : IsBlanks space)
      (hbehind : IsBlanks behind) : SpellsObject (before ++ '{' :: (space ++ '}' :: behind)) []
  | members {before behind : Text} {texts : List Text} {members : List Member}
      (hbefore : IsBlanks before) (hne : texts ≠ [])
      (h : List.Forall₂ SpellsMember texts members) (hbehind : IsBlanks behind) :
      SpellsObject (before ++ '{' :: (Text.join [','] texts ++ '}' :: behind)) members

/-! ## What members do -/

/-- Applies a member to a configuration of which the fields in `seen` were named before. -/
def Member.apply (config : Config) (seen : List Field) :
    Member → Except Fault (Config × List Field)
  | .setting field value =>
    if seen.contains field then .error (.duplicateField field.name)
    else .ok (config.set field value, field :: seen)
  | .other _ => .ok (config, seen)

/-- Applies members one after the other. -/
def applyMembers (config : Config) (seen : List Field) :
    List Member → Except Fault Config
  | [] => .ok config
  | member :: members =>
    (member.apply config seen).bind fun (config, seen) => applyMembers config seen members

/-- The fields that members name, in their order. -/
def namedFields (members : List Member) : List Field :=
  members.filterMap fun
    | .setting field _ => some field
    | .other _ => none

/-- No member names no field. -/
@[simp] theorem namedFields_nil : namedFields [] = [] := rfl

/-- A setting names its field. -/
@[simp] theorem namedFields_setting (field : Field) (value : field.kind.Value)
    (members : List Member) :
    namedFields (.setting field value :: members) = field :: namedFields members := rfl

/-! ## Fields -/

/-- A field is found by its name. -/
theorem named?_name (field : Field) : Field.named? field.name = some field := by
  cases field <;> decide

/-- No field is found by another key. -/
theorem named?_eq_none {key : Text} (h : ∀ field : Field, field.name ≠ key) :
    Field.named? key = none := by
  rw [Field.named?, List.find?_eq_none]
  intro field _
  simp [h field]

/-! ## Faults without their places -/

section Places

variable {α : Type} {x : Except Stop α}

/-- What is read does not depend on the places of faults. -/
theorem mapError_fault_eq_ok {a : α} : x.mapError Stop.fault = .ok a ↔ x = .ok a := by
  cases x <;> simp [Except.mapError]

/-- A fault has some place. -/
theorem mapError_fault_eq_error {fault : Fault} :
    x.mapError Stop.fault = .error fault ↔ ∃ stop, x = .error stop ∧ stop.fault = fault := by
  cases x <;> simp [Except.mapError]

end Places

/-! ## Members -/

/-- A value of a kind is read. -/
theorem read_spelling {kind : Kind} {blanks text : Text} {value : kind.Value}
    (hblanks : IsBlanks blanks) (h : kind.Spells text value) {rest : Text}
    (hrest : Delimited rest) :
    kind.read (blanks ++ (text ++ rest)) = .ok (value, rest) := by
  cases kind with
  | strings => exact readStrings_spelling hblanks h rest
  | string => exact readStringValue_spelling hblanks h rest
  | integer => exact readInteger_spelling hblanks h hrest
  | boolean => exact readBoolean_spelling hblanks h rest

/-- A value of a field is read behind its key and applied. -/
theorem readMember_setting {behind space text rest : Text} {field : Field}
    {value : field.kind.Value} (hbehind : IsBlanks behind) (hspace : IsBlanks space)
    (h : field.kind.Spells text value) (hrest : Delimited rest) (config : Config)
    (seen : List Field) :
    (readMember config seen field.name
        (behind ++ ':' :: (space ++ (text ++ rest)))).mapError Stop.fault =
      ((Member.setting field value).apply config seen).map fun s => (s.1, s.2, rest) := by
  rw [readMember, named?_name, Member.apply]
  simp only
  split
  · rfl
  · simp only [readColon_append hbehind, Except.bind, readField,
      read_spelling hspace h hrest, Except.map, Except.mapError]

/-- A value under another key is passed over. -/
theorem readMember_other {behind space value rest key : Text}
    (hkey : ∀ field : Field, field.name ≠ key) (hbehind : IsBlanks behind)
    (hspace : IsBlanks space) (h : IsValue value) (hrest : Delimited rest)
    (config : Config) (seen : List Field) :
    (readMember config seen key
        (behind ++ ':' :: (space ++ (value ++ rest)))).mapError Stop.fault =
      ((Member.other key).apply config seen).map fun s => (s.1, s.2, rest) := by
  rw [readMember, named?_eq_none hkey]
  simp only [readColon_append hbehind, Except.bind, skipValue_append hspace h hrest]
  rfl

/-- A spelling of a member begins with a key, and what is behind the key is read as the member. -/
theorem readMember_spelling {text : Text} {member : Member} (h : SpellsMember text member) :
    ∃ before spelling behind key trail, IsBlanks before ∧ Spells spelling key ∧ IsBlanks trail ∧
      text = before ++ '"' :: (spelling ++ '"' :: behind) ∧
      ∀ config seen rest, Delimited (trail ++ rest) →
        (readMember config seen key (behind ++ rest)).mapError Stop.fault =
          (member.apply config seen).map fun s => (s.1, s.2, trail ++ rest) := by
  cases h with
  | @setting _ text trail field value hlead hvalue htrail =>
    obtain @⟨before, spelling, behind, space, hbefore, hspelling, hbehind, hspace⟩ := hlead
    refine ⟨before, spelling, behind ++ ':' :: (space ++ (text ++ trail)), field.name, trail,
      hbefore, hspelling, htrail, ?_, fun config seen rest hrest => ?_⟩
    · simp only [List.append_assoc, List.cons_append]
    · simpa only [List.append_assoc, List.cons_append] using
        readMember_setting hbehind hspace hvalue hrest config seen
  | @other _ value trail key hkey hlead hvalue htrail =>
    obtain @⟨before, spelling, behind, space, hbefore, hspelling, hbehind, hspace⟩ := hlead
    refine ⟨before, spelling, behind ++ ':' :: (space ++ (value ++ trail)), key, trail,
      hbefore, hspelling, htrail, ?_, fun config seen rest hrest => ?_⟩
    · simp only [List.append_assoc, List.cons_append]
    · simpa only [List.append_assoc, List.cons_append] using
        readMember_other hkey hbehind hspace hvalue hrest config seen

/-! ## Objects -/

/-- Behind a key the member is applied, then the members that follow it. -/
theorem readMembers_key {first : Bool} {text key behind trail rest : Text} {member : Member}
    {members : List Member} {fuel : Nat} {config : Config} {seen : List Field}
    (hkey : nextKey first text = .ok (some (key, behind)))
    (hmember : (readMember config seen key behind).mapError Stop.fault =
      (member.apply config seen).map fun s => (s.1, s.2, trail))
    (hlater : ∀ config seen, (readMembers fuel config seen false trail).mapError Stop.fault =
      (applyMembers config seen members).map fun config => (config, rest)) :
    (readMembers (fuel + 1) config seen first text).mapError Stop.fault =
      (applyMembers config seen (member :: members)).map fun config => (config, rest) := by
  rw [readMembers, hkey, applyMembers]
  cases happly : member.apply config seen with
  | error fault =>
    rw [happly] at hmember
    obtain ⟨stop, hstop, rfl⟩ := mapError_fault_eq_error.1 hmember
    simp only [hstop]
    rfl
  | ok state =>
    rw [happly] at hmember
    simp only [mapError_fault_eq_ok.1 hmember]
    exact hlater state.1 state.2

/-- Neither a comma nor the closing brace belongs to the value in front of it. -/
theorem delimited_members {trail : Text} (h : IsBlanks trail) (texts : List Text)
    (rest : Text) : Delimited (trail ++ (behindCommas texts ++ '}' :: rest)) :=
  delimited_behindCommas h .object texts rest

/-- The members behind another one are applied up to the end of the object. -/
theorem readMembers_behindCommas {texts : List Text} {members : List Member}
    (h : List.Forall₂ SpellsMember texts members) {blanks : Text} (hblanks : IsBlanks blanks)
    {fuel : Nat} (hfuel : texts.length < fuel) (config : Config) (seen : List Field)
    (rest : Text) :
    (readMembers fuel config seen false
        (blanks ++ (behindCommas texts ++ '}' :: rest))).mapError Stop.fault =
      (applyMembers config seen members).map fun config => (config, rest) := by
  -- the blanks in front of the comma are those behind the member before
  induction h generalizing blanks fuel config seen with
  | nil =>
    obtain ⟨fuel, rfl⟩ := Nat.exists_eq_succ_of_ne_zero (Nat.ne_of_gt hfuel)
    rw [behindCommas_nil, List.nil_append, readMembers, nextKey_closer hblanks]
    simp only [endObject_closer hblanks]
    rfl
  | @cons _ member texts members hmember _ ih =>
    obtain ⟨fuel, rfl⟩ := Nat.exists_eq_succ_of_ne_zero (Nat.ne_zero_of_lt hfuel)
    obtain ⟨before, spelling, behind, key, trail, hbefore, hspelling, htrail, rfl, hread⟩ :=
      readMember_spelling hmember
    simp only [behindCommas_cons, List.cons_append, List.append_assoc]
    exact readMembers_key (nextKey_comma hblanks hbefore hspelling _)
      (hread _ _ _ (delimited_members htrail texts rest))
      (ih htrail (Nat.lt_of_succ_lt_succ hfuel))

/-- The members of an object are applied. -/
theorem readMembers_join {texts : List Text} {members : List Member} (hne : texts ≠ [])
    (h : List.Forall₂ SpellsMember texts members) (config : Config) (seen : List Field)
    (rest : Text) {fuel : Nat} (hfuel : texts.length < fuel) :
    (readMembers fuel config seen true
        (Text.join [','] texts ++ '}' :: rest)).mapError Stop.fault =
      (applyMembers config seen members).map fun config => (config, rest) := by
  cases h with
  | nil => exact absurd rfl hne
  | @cons _ member texts members hmember h =>
    obtain ⟨fuel, rfl⟩ := Nat.exists_eq_succ_of_ne_zero (Nat.ne_zero_of_lt hfuel)
    obtain ⟨before, spelling, behind, key, trail, hbefore, hspelling, htrail, rfl, hread⟩ :=
      readMember_spelling hmember
    simp only [join_comma_cons, List.cons_append, List.append_assoc]
    exact readMembers_key (nextKey_first hbefore hspelling _)
      (hread _ _ _ (delimited_members htrail texts rest)) fun config seen =>
        readMembers_behindCommas h htrail (Nat.lt_of_succ_lt_succ hfuel) config seen rest

/-- A text that holds an object is read as its members, applied to the default configuration. -/
theorem ofJson_spelling {text : Text} {members : List Member} (h : SpellsObject text members) :
    (ofJson text).mapError Stop.fault = applyMembers default [] members := by
  cases h with
  | empty hbefore hspace hbehind =>
    rw [ofJson, read, skipBlanks_append_cons hbefore rfl]
    simp only [readMembers, nextKey_closer hspace, endObject_closer hspace, Except.map,
      endText_blanks hbehind]
    rfl
  | @members before behind texts members hbefore hne h hbehind =>
    have hfuel : texts.length < (Text.join [','] texts ++ '}' :: behind).length + 1 := by
      have hlength := length_le_join texts
      rw [List.length_append, List.length_cons]
      omega
    have hread := readMembers_join hne h default [] behind hfuel
    rw [ofJson, read, skipBlanks_append_cons hbefore rfl]
    cases happly : applyMembers default [] members with
    | error fault =>
      rw [happly] at hread
      obtain ⟨stop, hstop, rfl⟩ := mapError_fault_eq_error.1 hread
      simp only [hstop]
      rfl
    | ok config =>
      rw [happly] at hread
      simp only [mapError_fault_eq_ok.1 hread, Except.map, endText_blanks hbehind, Except.mapError]

/-! ## The result -/

/-- Members whose fields are new replace the values of these fields and no others. -/
theorem applyMembers_of_nodup {members : List Member} (config : Config) (seen : List Field)
    (hnodup : (namedFields members).Nodup) (hnew : ∀ field ∈ namedFields members, field ∉ seen) :
    ∃ result, applyMembers config seen members = .ok result ∧
      (∀ field value, .setting field value ∈ members → result.get field = value) ∧
      ∀ field ∉ namedFields members, result.get field = config.get field := by
  induction members generalizing config seen with
  | nil => exact ⟨config, rfl, by simp, fun _ _ => rfl⟩
  | cons member members ih =>
    cases member with
    | other key =>
      obtain ⟨result, happly, hset, hkept⟩ := ih config seen hnodup hnew
      refine ⟨result, happly, fun field value hmem => ?_, hkept⟩
      exact hset field value ((List.mem_cons.1 hmem).resolve_left (by simp))
    | setting field value =>
      rw [namedFields_setting, List.nodup_cons] at hnodup
      have hseen : seen.contains field = false := by
        simpa using hnew field List.mem_cons_self
      have hlater : ∀ other ∈ namedFields members, other ∉ field :: seen := by
        intro other hother hmem
        rcases List.mem_cons.1 hmem with rfl | hmem
        · exact hnodup.1 hother
        · exact hnew other (List.mem_cons_of_mem _ hother) hmem
      obtain ⟨result, happly, hset, hkept⟩ :=
        ih (config.set field value) (field :: seen) hnodup.2 hlater
      refine ⟨result, ?_, fun other v hmem => ?_, fun other hother => ?_⟩
      · rw [applyMembers, Member.apply, hseen]
        exact happly
      · rcases List.mem_cons.1 hmem with heq | hmem
        · obtain ⟨rfl, hv⟩ := Member.setting.inj heq
          rw [hkept other hnodup.1, get_set_self, eq_of_heq hv]
        · exact hset other v hmem
      · rw [namedFields_setting, List.mem_cons, not_or] at hother
        rw [hkept other hother.2, get_set_of_ne config value hother.1]

/-- Members fail at the first field that was named before. -/
theorem applyMembers_of_duplicate {members : List Member} (config : Config) (seen : List Field)
    (h : ¬ ((namedFields members).Nodup ∧ ∀ field ∈ namedFields members, field ∉ seen)) :
    ∃ field, (field ∈ seen ∧ field ∈ namedFields members ∨ 1 < (namedFields members).count field) ∧
      applyMembers config seen members = .error (.duplicateField field.name) := by
  induction members generalizing config seen with
  | nil => exact absurd ⟨List.nodup_nil, by simp⟩ h
  | cons member members ih =>
    cases member with
    | other key => exact ih config seen h
    | setting field value =>
      by_cases hseen : field ∈ seen
      · refine ⟨field, Or.inl ⟨hseen, List.mem_cons_self⟩, ?_⟩
        rw [applyMembers, Member.apply, if_pos (by simpa using hseen)]
        rfl
      · have hlater : ¬ ((namedFields members).Nodup ∧
            ∀ other ∈ namedFields members, other ∉ field :: seen) := by
          rintro ⟨hnodup, hnew⟩
          refine h ⟨List.nodup_cons.2 ⟨fun hmem => hnew field hmem List.mem_cons_self, hnodup⟩, ?_⟩
          intro other hother
          rcases List.mem_cons.1 hother with rfl | hother
          · exact hseen
          · exact fun hmem => hnew other hother (List.mem_cons_of_mem _ hmem)
        obtain ⟨other, hother, hfault⟩ := ih (config.set field value) (field :: seen) hlater
        refine ⟨other, ?_, ?_⟩
        · rw [namedFields_setting]
          rcases hother with ⟨hmem, hnamed⟩ | hcount
          · rcases List.mem_cons.1 hmem with rfl | hmem
            · have hcount := List.count_pos_iff.2 hnamed
              exact Or.inr (by rw [List.count_cons_self]; omega)
            · exact Or.inl ⟨hmem, List.mem_cons_of_mem _ hnamed⟩
          · exact Or.inr (hcount.trans_le (List.count_le_count_cons))
        · rw [applyMembers, Member.apply, if_neg (by simpa using hseen)]
          exact hfault

/-- A file with a text that is read as a configuration is loaded as this configuration. -/
theorem ofFile_of_ofJson_ok {text : Text} {config : Config} (h : ofJson text = .ok config)
    (path : Text) : Config.ofFile path (.ok (Utf8.encode text)) = .ok config := by
  simp only [Config.ofFile, Utf8.decode?_encode, h]

/-- A file with a text that is refused is refused at the same place. -/
theorem ofFile_of_ofJson_error {text : Text} {stop : Stop} (h : ofJson text = .error stop)
    (path : Text) :
    Config.ofFile path (.ok (Utf8.encode text)) =
      .error (.configParse path (.ofStop text stop)) := by
  simp only [Config.ofFile, Utf8.decode?_encode, h]

/--
Loading undoes every spelling of an object. If no field is named twice, the result is the default
configuration with the named fields replaced by their values; else loading fails because of a field
that is named twice.
-/
theorem ofFile_spelling {text : Text} {members : List Member} (h : SpellsObject text members)
    (path : Text) :
    ((namedFields members).Nodup →
      ∃ config, Config.ofFile path (.ok (Utf8.encode text)) = .ok config ∧
        (∀ field value, .setting field value ∈ members → config.get field = value) ∧
        ∀ field ∉ namedFields members, config.get field = default.get field) ∧
    (¬ (namedFields members).Nodup →
      ∃ field line column, 1 < (namedFields members).count field ∧
        Config.ofFile path (.ok (Utf8.encode text)) =
          .error (.configParse path ⟨.duplicateField field.name, line, column⟩)) := by
  have hread := ofJson_spelling h
  refine ⟨fun hnodup => ?_, fun hduplicate => ?_⟩
  · obtain ⟨config, happly, hset, hkept⟩ :=
      applyMembers_of_nodup default [] hnodup fun _ _ => List.not_mem_nil
    have hload := mapError_fault_eq_ok.1 (hread.trans happly)
    exact ⟨config, ofFile_of_ofJson_ok hload path, hset, hkept⟩
  · obtain ⟨field, hfield, hfault⟩ := applyMembers_of_duplicate default []
      fun hnodup => hduplicate hnodup.1
    obtain ⟨⟨fault, left⟩, hstop, rfl⟩ := mapError_fault_eq_error.1 (hread.trans hfault)
    exact ⟨field, _, _, hfield.resolve_left fun hseen => List.not_mem_nil hseen.1,
      ofFile_of_ofJson_error hstop path⟩

/--
A key and a content are escaped, and a list of an empty object and a number is passed over; a flag
is named twice with another key in between.
-/
theorem ofFile_spelling_escaped :
    (∃ config, Config.ofFile ['c'] (.ok (Utf8.encode
        "\x7b\"heade\\u0072\" : \"\\ud83d\\uDE00\" ,\"x\":[ \x7b\x7d,-1.5e+3]\x7d\n".toList)) =
          .ok config ∧ config.header = ['😀'] ∧ config.terminator = 12345) ∧
    ∃ (field : Field) (line column : Nat), Config.ofFile ['c'] (.ok (Utf8.encode
        "\x7b\"normalize\":true,\"x\":null,\"normalize\":true\x7d".toList)) =
          .error (.configParse ['c'] ⟨.duplicateField field.name, line, column⟩) := by
  have hspace : IsBlanks [' '] := by simp [IsBlanks]
  have hnewline : IsBlanks ['\n'] := by simp [IsBlanks]
  have hother : ∀ field : Field, field.name ≠ ['x'] := by
    intro field
    cases field <;> decide
  have hx : Spells ['x'] ['x'] := spells_self (by simp [IsPlain])
  have hletter : SpellsChar ['\\', 'u', '0', '0', '7', '2'] 'r' :=
    .unit (.digits (a := 0) (b := 0) (c := 7) (d := 2) (.inl rfl) (.inl rfl) (.inl rfl) (.inl rfl))
  have hstem : Spells "heade".toList "heade".toList := spells_self (by simp [IsPlain])
  have hname : Spells _ Field.header.name := hstem.append (.cons hletter .nil)
  have hlead : SpellsUnit "d83d".toList 0xD83D :=
    .digits (a := 13) (b := 8) (c := 3) (d := 13) (.inl rfl) (.inl rfl) (.inl rfl) (.inl rfl)
  have htrail : SpellsUnit "DE00".toList 0xDE00 :=
    .digits (a := 13) (b := 14) (c := 0) (d := 0) (.inr rfl) (.inr rfl) (.inl rfl) (.inl rfl)
  have hface : SpellsChar ('\\' :: 'u' :: "d83d".toList ++ '\\' :: 'u' :: "DE00".toList) '😀' :=
    .pair hlead htrail (by decide) (by decide) (by decide) (by decide) (by decide)
  have hheader : SpellsMember _ (.setting .header ['😀']) :=
    .setting (.key isBlanks_nil hname hspace hspace) (.quoted (.cons hface .nil)) hspace
  have hnumber : IsNumber "-1.5e+3".toList :=
    ⟨['-'], ['1'], ['.', '5'], ['e', '+', '3'], rfl, by simp, by simp [IsWhole, IsDigits],
      .inr ⟨['5'], rfl, by simp [IsDigits]⟩,
      .inr ⟨'e', ['+'], ['3'], rfl, by simp, by simp, by simp [IsDigits]⟩⟩
  have hitems := IsValue.items .list [⟨[' '], _, []⟩, ⟨[], _, []⟩] (by simp)
    (by simpa using ⟨hspace, isBlanks_nil⟩) (by simp [isBlanks_nil])
    (by simpa using ⟨.empty .object isBlanks_nil, .number hnumber⟩)
  have hlist : SpellsMember _ (.other ['x']) :=
    .other hother (.key isBlanks_nil hx isBlanks_nil isBlanks_nil) hitems isBlanks_nil
  have hnull : SpellsMember _ (.other ['x']) :=
    .other hother (.key isBlanks_nil hx isBlanks_nil isBlanks_nil) .null isBlanks_nil
  have hflagName : Spells "normalize".toList "normalize".toList := spells_self (by simp [IsPlain])
  have hflag : SpellsMember _ (.setting .normalize true) :=
    .setting (.key isBlanks_nil hflagName isBlanks_nil isBlanks_nil) .true isBlanks_nil
  have hfirst : SpellsObject _ _ := .members isBlanks_nil (List.cons_ne_nil _ _)
    (.cons hheader (.cons hlist .nil)) hnewline
  have hsecond : SpellsObject _ _ := .members isBlanks_nil (List.cons_ne_nil _ _)
    (.cons hflag (.cons hnull (.cons hflag .nil))) isBlanks_nil
  obtain ⟨config, hload, hset, hkept⟩ := (ofFile_spelling hfirst ['c']).1 (by decide)
  obtain ⟨field, line, column, -, hfault⟩ := (ofFile_spelling hsecond ['c']).2 (by decide)
  exact ⟨⟨config, hload, hset .header _ (by simp), hkept .terminator (by decide)⟩,
    field, line, column, hfault⟩

end Sentinels.Config
