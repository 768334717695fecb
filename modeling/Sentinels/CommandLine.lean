import Sentinels.Console
import Sentinels.Source

/-!
# The command line

The arguments name a document, possibly a configuration, and whether to normalize. Without a
document the usage is printed. A configuration that cannot be used is an error, found before the
document is read; a document that cannot be read is reported on the standard output and is no
error; a pattern that cannot be used is an error, found after the document is read. The log goes to
the standard error, in front of an error that ends the run.
-/

set_option autoImplicit false

namespace Sentinels.CommandLine

/-- What the arguments ask for. -/
structure Options where
  document : Option Text
  config : Option Text
  normalize : Bool
deriving DecidableEq, Repr

/-- The arguments as a whole. -/
inductive Request
  | run (options : Options)
  | help
  | invalid
deriving DecidableEq, Repr

/-- The options that hold without arguments. -/
def Options.default : Options := ⟨none, none, false⟩

/-- Sets the document, which may be given once and must not be empty. -/
def Options.setDocument? (options : Options) (value : Text) : Option Options :=
  if options.document.isSome || value.isEmpty then none
  else some { options with document := some value }

/-- Sets the configuration, which may be given once and must not be empty. -/
def Options.setConfig? (options : Options) (value : Text) : Option Options :=
  if options.config.isSome || value.isEmpty then none
  else some { options with config := some value }

/-- Sets the flag for normalizing, which may be given once. -/
def Options.setNormalize? (options : Options) : Option Options :=
  if options.normalize then none else some { options with normalize := true }

/-- Does the argument look like an option? A hyphen alone does not. -/
def isOption : Text → Bool
  | '-' :: _ :: _ => true
  | _ => false

/-- Reads arguments behind `--`, which are all operands. -/
def parseOperands (options : Options) : List Text → Request
  | [] => .run options
  | arg :: args =>
    match options.setDocument? arg with
    | some options => parseOperands options args
    | none => .invalid

/-- The option that takes a value. -/
def configOption : Text := "--config".toList

/-- The option that takes a value, with the sign that may stand in front of the value. -/
def configEquals : Text := "--config=".toList

/-- The flag for normalizing. -/
def normalizeFlag : Text := "--normalize".toList

/-- The flag that asks for help. -/
def helpFlag : Text := "--help".toList

/--
Reads arguments in their order; the first one that is not understood makes them all invalid.
-/
def parse (options : Options) : List Text → Request
  | [] => .run options
  | arg :: args =>
    if arg = ['-', '-'] then parseOperands options args
    else if arg = helpFlag then .help
    else if arg = normalizeFlag then
      match options.setNormalize? with
      | some options => parse options args
      | none => .invalid
    else if arg = configOption then
      match args with
      | [] => .invalid
      | value :: args =>
        if isOption value then .invalid
        else match options.setConfig? value with
          | some options => parse options args
          | none => .invalid
    else if configEquals.isPrefixOf arg then
      match options.setConfig? (arg.drop configEquals.length) with
      | some options => parse options args
      | none => .invalid
    else if isOption arg then
      if ['-', 'h'].isPrefixOf arg then .help else .invalid
    else match options.setDocument? arg with
      | some options => parse options args
      | none => .invalid

/-- What a run leaves behind: its exit status and what it prints. -/
structure Outcome where
  status : Nat
  stdout : Text
  stderr : Text
deriving DecidableEq, Repr

/-- The line that tells how the program is used. -/
def usageLine : Text := "Usage: sentinelgen [OPTIONS] [DOCUMENT]".toList

/-- The lines of the help. -/
def helpLines : List Text :=
  ["Tabulate the documented error return values of a C API as C source".toList,
    [],
    usageLine,
    [],
    "Arguments:".toList,
    "  [DOCUMENT]  HTML API reference document".toList,
    [],
    "Options:".toList,
    "      --config <CONFIG>  Config file path (JSON)".toList,
    "      --normalize        ".toList ++
      "Apply NFKC and line-ending normalization to the document first".toList,
    "  -h, --help             Print help".toList]

/-- Prints lines and succeeds. -/
def Outcome.ofLines (lines : List Text) : Outcome :=
  ⟨0, lines.flatMap fun line => line ++ ['\n'], []⟩

/-- The outcome of a run over a document, given what reading it gave. -/
def outcomeOf (console : Console) (config : Config) (path : Text) (found : ReadResult) : Outcome :=
  let events := Document.fileEvents path found
  match Document.ofFile path found with
  | .error error => ⟨0, error.message console.complaint ++ ['\n'], console.log events⟩
  | .ok document =>
    match report config document with
    | .error error => ⟨1, [], console.log events ++ console.errorLine error⟩
    | .ok found => ⟨0, found.output, console.log (events ++ found.events)⟩

/-- The configuration with the flag of the command line. -/
def Options.apply (options : Options) (config : Config) : Config :=
  { config with normalize := config.normalize || options.normalize }

variable {m : Type → Type} [Monad m]

/-- The configuration that the options ask for. -/
def readConfig (read : Text → m ReadResult) (options : Options) : m (Except Failure Config) :=
  match options.config with
  | none => pure (.ok Config.default)
  | some path => do return Config.ofFile path (← read path)

/-- Runs the program for options that were understood. -/
def runOptions (console : Console) (read : Text → m ReadResult) (options : Options) : m Outcome :=
  match options.document with
  | none => pure (Outcome.ofLines [usageLine])
  | some path => do
    match ← readConfig read options with
    | .error error => return ⟨1, [], console.errorLine error⟩
    | .ok config => return outcomeOf console (options.apply config) path (← read path)

/-- Runs the program for a list of arguments; files are read by `read`. -/
def run (console : Console) (read : Text → m ReadResult) (args : List Text) : m Outcome :=
  match parse Options.default args with
  | .help => pure (Outcome.ofLines helpLines)
  | .invalid => pure ⟨2, [], console.usageError args⟩
  | .run options => runOptions console read options

end Sentinels.CommandLine
