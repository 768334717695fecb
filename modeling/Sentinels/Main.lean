import Sentinels.CommandLine

/-!
# The program

Reads the files and the setting of the logger, prints what a run leaves behind and returns its
status. The time is left out of the log, and short words stand in for those of the libraries.
-/

set_option autoImplicit false

open Sentinels

/--
The reason for which the system did not read a file. The code 20, in either sign, tells that a
part of the path is no directory.
-/
def readErrorOf : IO.Error → ReadError
  | .noFileOrDirectory .. => .notFound
  | .inappropriateType _ code _ =>
    if code = 20 ∨ code = -20 then .notDirectory else .isDirectory
  | error => .other (toString error).toList (toString error).toList

/-- Reads the bytes of a file. -/
def readBytes (path : Text) : IO ReadResult := do
  try
    return .ok (← IO.FS.readBinFile (String.ofList path)).toList
  catch error =>
    return .error (readErrorOf error)

/-- The part of the program that logs an event. -/
def moduleOf : Event → String
  | .loaded .. => "sentinelgen::load"
  | .stripped .. => "sentinelgen::sanitize"
  | .matchedBlocks .. => "sentinelgen::blocks"
  | .recorded .. => "sentinelgen::sentinels"
  | .unreadable .. | .noBlocks => "sentinelgen"

/-- The severities that a word lets through, if it is the name of a severity. -/
def severities? (word : String) : Option (List Severity) :=
  match word.trimAscii.toString.toLower with
  | "off" | "error" => some []
  | "warn" | "info" => some [.warning]
  | "debug" | "trace" => some [.warning, .debug]
  | _ => none

/-- One part of the logger's setting: a severity, a part of the program, or both. -/
def directive? (setting : String) : Option (String × List Severity) :=
  match setting.splitOn "=" with
  | [word] =>
    match severities? word with
    | some severities => some ("", severities)
    | none => some (word, [.warning, .debug])
  | [name, word] =>
    if word.isEmpty then some (name, [.warning, .debug])
    else (severities? word).map fun severities => (name.trimAscii.toString, severities)
  | _ => none

/-- Does the logger's setting ask for an event? What it says of the longest name decides. -/
def asksFor (setting : String) (event : Event) : Bool :=
  let parts := (setting.splitOn ",").map fun part => part.trimAscii.toString
  let directives := (parts.filter (!·.isEmpty)).filterMap directive?
  let fitting := directives.filter fun directive => directive.1.isPrefixOf (moduleOf event)
  let severities := fitting.foldl (fun best directive =>
    if best.1.length ≤ directive.1.length then directive else best) ("", [])
  severities.2.contains event.severity

/-- What the logger writes in front of a message. -/
def headingOf (event : Event) : Text :=
  let severity := match event.severity with
    | .debug => "DEBUG "
    | .warning => "WARN  "
  ("[" ++ severity ++ moduleOf event ++ "] ").toList

/-- The console, where the logger's setting is as given. -/
def consoleOf (setting : Option String) : Console where
  filter? := setting.map asksFor
  heading := headingOf
  complaint source := "regex parse error:\n    ".toList ++ source
  usageError _ :=
    "error: invalid arguments\n\n".toList ++ CommandLine.usageLine ++
      "\n\nFor more information, try '--help'.\n".toList

/-- Runs the program. -/
def main (args : List String) : IO UInt32 := do
  let console := consoleOf (← IO.getEnv "RUST_LOG")
  let outcome ← CommandLine.run console readBytes (args.map String.toList)
  IO.print (String.ofList outcome.stdout)
  IO.eprint (String.ofList outcome.stderr)
  return UInt32.ofNat outcome.status
