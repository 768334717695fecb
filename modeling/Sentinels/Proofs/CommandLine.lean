import Sentinels.CommandLine
import Sentinels.Proofs.Defaults

/-!
# Outcomes of the command line

The arguments that are understood are a document, a configuration in either spelling and the flag
for normalizing, each at most once and in any order. Reading them one by one sets one option each,
so only what is given matters. A run may fail for three reasons at once: the configuration is looked
at first, then the document, then the patterns (`run_arguments`).
-/

set_option autoImplicit false

namespace Sentinels.CommandLine

/-! ## Arguments -/

/-- Can the text name a file? It is not empty and does not begin like an option. -/
def IsPath (path : Text) : Prop := path ≠ [] ∧ path.head? ≠ some '-'

instance : DecidablePred IsPath := fun path =>
  inferInstanceAs (Decidable (path ≠ [] ∧ path.head? ≠ some '-'))

/-- An argument that is understood; the path of a configuration may stand behind a sign. -/
inductive Argument
  | document (path : Text)
  | config (path : Text) (joined : Bool)
  | normalize
deriving DecidableEq

namespace Argument

/-- The words of an argument. -/
def words : Argument → List Text
  | document path => [path]
  | config path joined => if joined then [configEquals ++ path] else [configOption, path]
  | normalize => [normalizeFlag]

/-- The document that an argument names. -/
def document? : Argument → Option Text
  | document path => some path
  | _ => none

/-- The configuration that an argument names. -/
def config? : Argument → Option Text
  | config path _ => some path
  | _ => none

end Argument

/-- Is each of the three kinds given at most once, and may every path name a file? -/
structure AtMostOnce (arguments : List Argument) : Prop where
  document : (arguments.filterMap Argument.document?).length ≤ 1
  config : (arguments.filterMap Argument.config?).length ≤ 1
  normalize : arguments.count .normalize ≤ 1
  isPath : ∀ path ∈ arguments.filterMap Argument.document? ++ arguments.filterMap Argument.config?,
    IsPath path

/-- What the arguments give. -/
def given (arguments : List Argument) : Options where
  document := (arguments.filterMap Argument.document?).head?
  config := (arguments.filterMap Argument.config?).head?
  normalize := arguments.contains .normalize

/-- Do the arguments add what is missing in some options to reach others, each once? -/
structure Adds (before : Options) (arguments : List Argument) (after : Options) : Prop where
  document : before.document.toList ++ arguments.filterMap Argument.document? =
    after.document.toList
  config : before.config.toList ++ arguments.filterMap Argument.config? = after.config.toList
  normalize : before.normalize.toNat + arguments.count .normalize = after.normalize.toNat
  isPath : ∀ path, after.document = some path ∨ after.config = some path → IsPath path

/-! ## Reading the arguments -/

section Reading

variable {options after : Options} {path : Text} {rest : List Text}

/-- A path is none of the words that begin like an option. -/
theorem IsPath.ne_minus (h : IsPath path) (word : Text) : path ≠ '-' :: word := by
  rintro rfl
  exact h.2 rfl

/-- A path is no option. -/
theorem IsPath.isOption_eq (h : IsPath path) : isOption path = false := by
  unfold isOption
  split
  · next c more => exact absurd rfl (h.ne_minus _)
  · rfl

/-- The document is set from a path. -/
theorem parse_document (h : IsPath path) (hfree : options.document = none) :
    parse options (path :: rest) = parse { options with document := some path } rest := by
  have hequals : configEquals.isPrefixOf path = false := by
    refine Bool.eq_false_iff.2 fun hprefix => ?_
    obtain ⟨more, rfl⟩ := List.isPrefixOf_iff_prefix.1 hprefix
    exact h.ne_minus _ rfl
  have hset : options.setDocument? path = some { options with document := some path } := by
    simp [Options.setDocument?, hfree, h.1]
  have hdashes : path ≠ ['-', '-'] := h.ne_minus ['-']
  have hhelp : path ≠ helpFlag := h.ne_minus "-help".toList
  have hnormalize : path ≠ normalizeFlag := h.ne_minus "-normalize".toList
  have hconfig : path ≠ configOption := h.ne_minus "-config".toList
  rw [parse.eq_def]
  simp only [hdashes, hhelp, hnormalize, hconfig, hequals, h.isOption_eq, hset, if_false,
    Bool.false_eq_true]

/-- The configuration is set from a path in the next word. -/
theorem parse_configOption (h : IsPath path) (hfree : options.config = none) :
    parse options (configOption :: path :: rest) =
      parse { options with config := some path } rest := by
  have hset : options.setConfig? path = some { options with config := some path } := by
    simp [Options.setConfig?, hfree, h.1]
  rw [parse.eq_def]
  simp only [show configOption ≠ ['-', '-'] by decide, show configOption ≠ helpFlag by decide,
    show configOption ≠ normalizeFlag by decide, h.isOption_eq, hset, if_false, if_true,
    Bool.false_eq_true]

/-- The configuration is set from a path in the same word. -/
theorem parse_configEquals (h : IsPath path) (hfree : options.config = none) :
    parse options ((configEquals ++ path) :: rest) =
      parse { options with config := some path } rest := by
  have hset : options.setConfig? path = some { options with config := some path } := by
    simp [Options.setConfig?, hfree, h.1]
  have hequals : configEquals.isPrefixOf (configEquals ++ path) = true :=
    List.isPrefixOf_iff_prefix.2 (List.prefix_append _ _)
  have hdrop : (configEquals ++ path).drop configEquals.length = path := List.drop_left
  have hword : ∀ word : Text, configEquals <+: word ∨ configEquals ++ path ≠ word := by
    intro word
    by_cases heq : configEquals ++ path = word
    · exact Or.inl (heq ▸ List.prefix_append _ _)
    · exact Or.inr heq
  have hdashes := (hword ['-', '-']).resolve_left (by decide)
  have hhelp := (hword helpFlag).resolve_left (by decide)
  have hnormalize := (hword normalizeFlag).resolve_left (by decide)
  have hconfig := (hword configOption).resolve_left (by decide)
  rw [parse.eq_def]
  simp only [hdashes, hhelp, hnormalize, hconfig, hequals, hdrop, hset, if_false, if_true]

/-- The flag for normalizing is set. -/
theorem parse_normalizeFlag (hfree : options.normalize = false) :
    parse options (normalizeFlag :: rest) = parse { options with normalize := true } rest := by
  have hset : options.setNormalize? = some { options with normalize := true } := by
    simp [Options.setNormalize?, hfree]
  rw [parse.eq_def]
  simp only [show normalizeFlag ≠ ['-', '-'] by decide, show normalizeFlag ≠ helpFlag by decide,
    hset, if_false, if_true]

/-- What is given once more was not given before. -/
theorem eq_none_of_toList_append_cons {given wanted : Option Text} {others : List Text}
    (h : given.toList ++ path :: others = wanted.toList) :
    given = none ∧ wanted = some path ∧ others = [] := by
  cases given with
  | none =>
    cases wanted with
    | none => simp at h
    | some value => simpa [eq_comm] using h
  | some value =>
    cases wanted with
    | none => simp at h
    | some value' => simp at h

/-- Each argument in turn adds a part of what is missing. -/
theorem Adds.parse_words {argument : Argument} {arguments : List Argument}
    (h : Adds options (argument :: arguments) after) (rest : List Text) :
    ∃ next, parse options (argument.words ++ rest) = parse next rest ∧
      Adds next arguments after := by
  cases argument with
  | document path =>
    obtain ⟨hfree, hafter, hothers⟩ := eq_none_of_toList_append_cons h.document
    have hpath := h.isPath path (Or.inl hafter)
    refine ⟨_, parse_document hpath hfree, ?_, h.config, ?_, h.isPath⟩
    · simp [hafter, hothers]
    · simpa using h.normalize
  | config path joined =>
    obtain ⟨hfree, hafter, hothers⟩ := eq_none_of_toList_append_cons h.config
    have hpath := h.isPath path (Or.inr hafter)
    have hnext : Adds { options with config := some path } arguments after :=
      ⟨h.document, by simp [hafter, hothers], by simpa using h.normalize, h.isPath⟩
    cases joined with
    | true => exact ⟨_, parse_configEquals hpath hfree, hnext⟩
    | false => exact ⟨_, parse_configOption hpath hfree, hnext⟩
  | normalize =>
    have hcount := h.normalize
    rw [List.count_cons_self] at hcount
    have hle := Bool.toNat_le after.normalize
    have hfree : options.normalize = false := by
      cases hgiven : options.normalize with
      | false => rfl
      | true =>
        rw [hgiven] at hcount
        simp only [Bool.toNat_true] at hcount
        omega
    refine ⟨_, parse_normalizeFlag hfree, h.document, h.config, ?_, h.isPath⟩
    rw [hfree] at hcount
    simp only [Bool.toNat_true, Bool.toNat_false] at hcount ⊢
    omega

/-- The arguments are read as the options that they give. -/
theorem Adds.parse_eq {arguments : List Argument} (h : Adds options arguments after) :
    parse options (arguments.flatMap Argument.words) = .run after := by
  induction arguments generalizing options with
  | nil =>
    obtain ⟨document, config, normalize⟩ := options
    obtain ⟨document', config', normalize'⟩ := after
    have hdocument : document = document' := by
      simpa using congrArg List.head? h.document
    have hconfig : config = config' := by
      simpa using congrArg List.head? h.config
    have hnormalize : normalize = normalize' := by
      have hcount := h.normalize
      cases normalize <;> cases normalize' <;> simp_all
    rw [hdocument, hconfig, hnormalize]
    rfl
  | cons argument arguments ih =>
    obtain ⟨next, hnext, hadds⟩ := h.parse_words (arguments.flatMap Argument.words)
    rw [List.flatMap_cons, hnext, ih hadds]

end Reading

/-- A list of one thing at most is that of its first. -/
theorem toList_head? {given : List Text} (h : given.length ≤ 1) : given.head?.toList = given := by
  match given with
  | [] => rfl
  | [_] => rfl
  | _ :: _ :: _ => simp at h

/-- Arguments of which each is given at most once add all that they give. -/
theorem AtMostOnce.adds {arguments : List Argument} (h : AtMostOnce arguments) :
    Adds .default arguments (given arguments) where
  document := (toList_head? h.document).symm
  config := (toList_head? h.config).symm
  normalize := by
    have hcount := h.normalize
    have hpositive := List.count_pos_iff (a := Argument.normalize) (l := arguments)
    rw [given, ← List.elem_eq_contains]
    by_cases hmem : Argument.normalize ∈ arguments
    · have := hpositive.2 hmem
      simp [hmem, Options.default]
      omega
    · simp [hmem, Options.default, List.count_eq_zero]
  isPath := by
    intro path hpath
    refine h.isPath path (List.mem_append.2 ?_)
    exact hpath.imp List.mem_of_mem_head? List.mem_of_mem_head?

/-! ## The log -/

section Log

variable {console : Console}

/-- What happens later is logged later. -/
theorem log_append (events others : List Event) :
    console.log (events ++ others) = console.log events ++ console.log others := by
  rw [Console.log, List.filter_append, List.flatMap_append]
  rfl

/-- Unless the environment says otherwise, the event of a document is not logged. -/
theorem log_fileEvents (h : console.filter? = none) (path : Text) (found : ReadResult) :
    console.log (Document.fileEvents path found) = [] := by
  cases found <;> simp [Document.fileEvents, Console.log, Console.accepts, h, Event.severity]

/-- The line that is logged for a document without blocks. -/
theorem line_noBlocks (console : Console) :
    console.line .noBlocks =
      console.heading .noBlocks ++ "no function blocks found in document\n".toList := by
  rw [Console.line, List.append_assoc]
  rfl

/-- Unless the environment says otherwise, a run over a document logs just that it has no blocks. -/
theorem log_eventsOf (h : console.filter? = none) (patterns : PatternSet) (text stripped : Text)
    (blocks : List Block) (found : Extraction) :
    console.log (Report.eventsOf patterns text stripped blocks found) =
      if blocks = [] then console.line .noBlocks else [] := by
  unfold Report.eventsOf Console.log Console.accepts
  cases blocks <;> cases patterns.tags <;> simp [h, Event.severity]

end Log

/-! ## Outcomes -/

/-- The outcome of a run, where `files` tells what reading each path gives. -/
def outcomeWith (console : Console) (files : Text → ReadResult) (arguments : List Argument) :
    Outcome :=
  Id.run (run console (fun path => pure (files path)) (arguments.flatMap Argument.words))

/-- The configuration of a run. -/
def configOf (files : Text → ReadResult) (options : Options) : Except Failure Config :=
  match options.config with
  | none => .ok .default
  | some path => Config.ofFile path (files path)

section Outcomes

variable {console : Console} {files : Text → ReadResult} {arguments : List Argument}

/-- What a run does depends on what is given only. -/
theorem AtMostOnce.outcomeWith_eq (h : AtMostOnce arguments) :
    outcomeWith console files arguments =
      match (given arguments).document with
      | none => Outcome.ofLines [usageLine]
      | some path =>
        match configOf files (given arguments) with
        | .error error => ⟨1, [], console.errorLine error⟩
        | .ok config => outcomeOf console ((given arguments).apply config) path (files path) := by
  rw [outcomeWith, run, h.adds.parse_eq]
  generalize given arguments = options
  obtain ⟨document, config, normalize⟩ := options
  cases document with
  | none => rfl
  | some path =>
    cases config with
    | none =>
      simp only [runOptions, readConfig, configOf, pure_bind, Id.run]
      rfl
    | some configPath =>
      simp only [runOptions, readConfig, configOf, pure_bind, Id.run]
      cases Config.ofFile configPath (files configPath) <;> rfl

variable {config : Config} {path : Text} {bytes : List UInt8}

/-- A document that cannot be read is reported on the standard output. -/
theorem outcomeOf_error (cause : ReadError) :
    outcomeOf console config path (.error cause) =
      ⟨0, "Invalid file/address provided: ".toList ++ path ++ ['\n'],
        console.log [.unreadable path cause]⟩ := by
  unfold outcomeOf Document.ofFile
  rfl

/-- The patterns do not depend on the setting for normalizing, so the flag does not matter here. -/
theorem outcomeOf_invalid {error : Failure} (options : Options)
    (herror : PatternSet.ofConfig config = .error error) :
    outcomeOf console (options.apply config) path (.ok bytes) =
      ⟨1, [], console.log [.loaded bytes.length path] ++ console.errorLine error⟩ := by
  have hfails : PatternSet.ofConfig (options.apply config) = .error error := herror
  unfold outcomeOf Document.ofFile report
  rw [hfails]
  rfl

/-- The listing is printed, and what happens on the way to it is logged. -/
theorem outcomeOf_report {found : Report} (options : Options)
    (hreport : report (options.apply config) (Utf8.decodeLossy bytes) = .ok found) :
    outcomeOf console (options.apply config) path (.ok bytes) =
      ⟨0, found.output, console.log (.loaded bytes.length path :: found.events)⟩ := by
  unfold outcomeOf Document.ofFile
  simp only [hreport]
  rfl

end Outcomes

/--
**The outcome of the command line.** Let `files` tell what reading each path gives, and let each
argument be given at most once. Any other arguments that give the same have the same outcome.
Without a document the usage is printed. With one, a configuration that cannot be used is an error
whatever the document is; otherwise a document that cannot be read is reported on the standard
output whatever the patterns are; otherwise a pattern that cannot be used is an error; and otherwise
the listing of the decoded document is printed, under the configuration with its setting for
normalizing or that of the flag.

The standard error holds the log of what happened, and an error with all its text behind it. Unless
the environment asks for more, nothing is logged but a warning about a document without blocks.
-/
theorem run_arguments (console : Console) (files : Text → ReadResult) (arguments : List Argument)
    (honce : AtMostOnce arguments) :
    (∀ arguments' : List Argument, AtMostOnce arguments' → given arguments' = given arguments →
      outcomeWith console files arguments' = outcomeWith console files arguments) ∧
    ((given arguments).document = none →
      outcomeWith console files arguments =
        ⟨0, "Usage: sentinelgen [OPTIONS] [DOCUMENT]\n".toList, []⟩) ∧
    ∀ document, (given arguments).document = some document →
      (∀ error, configOf files (given arguments) = .error error →
        outcomeWith console files arguments =
          ⟨1, [], "error: ".toList ++ error.message console.complaint ++ ['\n']⟩) ∧
      ∀ config, configOf files (given arguments) = .ok config →
        (∀ cause, files document = .error cause →
          outcomeWith console files arguments =
            ⟨0, "Invalid file/address provided: ".toList ++ document ++ ['\n'],
              console.log [.unreadable document cause]⟩ ∧
          (console.filter? = none → console.log [.unreadable document cause] = [])) ∧
        ∀ bytes, files document = .ok bytes →
          (console.filter? = none → console.log [.loaded bytes.length document] = []) ∧
          (∀ error, PatternSet.ofConfig config = .error error →
            outcomeWith console files arguments =
              ⟨1, [], console.log [.loaded bytes.length document] ++
                ("error: ".toList ++ error.message console.complaint ++ ['\n'])⟩) ∧
          ∀ patterns, PatternSet.ofConfig config = .ok patterns →
            ∃ found, report
                { config with normalize := config.normalize || arguments.contains .normalize }
                (Utf8.decodeLossy bytes) = .ok found ∧
              tabulate
                { config with normalize := config.normalize || arguments.contains .normalize }
                (Utf8.decodeLossy bytes) = .ok found.output ∧
              outcomeWith console files arguments =
                ⟨0, found.output, console.log (.loaded bytes.length document :: found.events)⟩ ∧
              (console.filter? = none →
                console.log (.loaded bytes.length document :: found.events) =
                  if found.blocks = [] then
                    console.heading .noBlocks ++
                      "no function blocks found in document\n".toList
                  else []) := by
  refine ⟨fun arguments' honce' hsame => ?_, fun hnone => ?_, fun document hdocument => ?_⟩
  · rw [honce.outcomeWith_eq, honce'.outcomeWith_eq, hsame]
  · rw [honce.outcomeWith_eq, hnone]
    rfl
  · rw [honce.outcomeWith_eq, hdocument]
    refine ⟨fun error herror => by rw [herror]; rfl, fun config hconfig => ?_⟩
    simp only [hconfig]
    refine ⟨fun cause hcause => ?_, fun bytes hbytes => ?_⟩
    · rw [hcause]
      exact ⟨outcomeOf_error cause, fun hquiet => log_fileEvents hquiet document (.error cause)⟩
    · rw [hbytes]
      have hloaded : console.filter? = none → console.log [.loaded bytes.length document] = [] :=
        fun hquiet => log_fileEvents hquiet document (.ok bytes)
      refine ⟨hloaded, fun error => outcomeOf_invalid (given arguments),
        fun patterns hpatterns => ?_⟩
      have hcompiles : PatternSet.ofConfig ((given arguments).apply config) = .ok patterns :=
        hpatterns
      have hreport : report ((given arguments).apply config) (Utf8.decodeLossy bytes) =
          .ok (Report.ofDocument ((given arguments).apply config) patterns
            (Utf8.decodeLossy bytes)) := by
        rw [report, hcompiles]
        rfl
      refine ⟨_, hreport, ?_, outcomeOf_report (given arguments) hreport, fun hquiet => ?_⟩
      · exact congrArg (Except.map Report.output) hreport
      · rw [← List.singleton_append, log_append, hloaded hquiet, List.nil_append, ← line_noBlocks]
        exact log_eventsOf hquiet ..

/--
The configuration is no JSON and the document cannot be read: the configuration is reported, with
the place of the fault. A document without blocks gives an empty table, and a warning.
-/
theorem run_arguments_refused :
    ∃ console : Console, console.heading .noBlocks = "WARN ".toList ∧
      outcomeWith console
          (fun path =>
            if path = "c.json".toList then .ok (Utf8.encode "\n[,]".toList) else .error .notFound)
          [.normalize, .document "api.html".toList, .config "c.json".toList true] =
        ⟨1, [],
          "error: invalid config JSON in c.json: expected value at line 2 column 2\n".toList⟩ ∧
      outcomeWith console (fun _ => .ok (Utf8.encode "<p>".toList))
          [.document "api.html".toList] =
        ⟨0, Listing.text .default ⟨[], 0⟩,
          "WARN no function blocks found in document\n".toList⟩ := by
  obtain ⟨console, hquiet, hheading⟩ : ∃ console : Console,
      console.filter? = none ∧ console.heading .noBlocks = "WARN ".toList :=
    ⟨⟨none, fun _ => "WARN ".toList, fun _ => [], fun _ => []⟩, rfl, rfl⟩
  refine ⟨console, hheading, ?_, ?_⟩
  · have honce : AtMostOnce
        [.normalize, .document "api.html".toList, .config "c.json".toList true] :=
      ⟨by decide, by decide, by decide, by decide⟩
    obtain ⟨-, -, hdocument⟩ := run_arguments console
      (fun path =>
        if path = "c.json".toList then .ok (Utf8.encode "\n[,]".toList) else .error .notFound)
      _ honce
    have houtcome := (hdocument "api.html".toList rfl).1
      (.configParse "c.json".toList ⟨.expectedValue, 2, 2⟩) (by decide +kernel)
    exact houtcome
  · have honce : AtMostOnce [.document "api.html".toList] :=
      ⟨by decide, by decide, by decide, by decide⟩
    obtain ⟨-, -, hdocument⟩ := run_arguments console (fun _ => .ok (Utf8.encode "<p>".toList))
      _ honce
    obtain ⟨tags, hpatterns, -⟩ := PatternSet.exists_ofConfig_default
    obtain ⟨found, hreport, -, houtcome, hlog⟩ :=
      ((hdocument "api.html".toList rfl).2 _ rfl).2 _ rfl |>.2.2 _ hpatterns
    have hr := Report.isDefault_of_report_eq hreport
    have hstripped : found.stripped = "<p>".toList := by
      rw [hr.stripped_eq]
      decide +kernel
    have hblocks : found.blocks = [] := by
      rw [hr.blocks_eq, hstripped]
      decide +kernel
    rw [houtcome, hlog hquiet, if_pos hblocks, hheading, hr.output_eq, hr.extraction_eq, hblocks]
    rfl

end Sentinels.CommandLine
