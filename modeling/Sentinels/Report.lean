import Sentinels.Document
import Sentinels.Listing

/-!
# From a document to a listing

The whole run: the patterns are compiled, the document is prepared, its blocks are extracted,
their sentinels are collected and the listing is written. A report keeps what each step found, and
the log.
-/

set_option autoImplicit false

namespace Sentinels

/-- The severity of a log record. -/
inductive Severity
  | debug
  | warning
deriving DecidableEq, Repr

/-- An event that is worth a log record. -/
inductive Event
  | loaded (bytes : Nat) (path : Text)
  | unreadable (path : Text) (cause : ReadError)
  | stripped (bytes : Nat)
  | matchedBlocks (count : Nat)
  | noBlocks
  | recorded (functions voidCount : Nat)
deriving DecidableEq, Repr

namespace Event

/-- The severity of an event. -/
def severity : Event → Severity
  | .noBlocks => .warning
  | _ => .debug

/-- The wording of an event. -/
def message : Event → Text
  | .loaded bytes path =>
    "loaded ".toList ++ Text.ofNat bytes ++ " bytes from ".toList ++ path
  | .unreadable path cause =>
    "Unreadable \x7b path: ".toList ++ path.quoted ++ ", source: ".toList ++ cause.details ++
      " \x7d".toList
  | .stripped bytes =>
    "sanitizer removed ".toList ++ Text.ofNat bytes ++ " bytes of markup".toList
  | .matchedBlocks count => "matched ".toList ++ Text.ofNat count ++ " function blocks".toList
  | .noBlocks => "no function blocks found in document".toList
  | .recorded functions voidCount =>
    "recorded sentinels for ".toList ++ Text.ofNat functions ++ " functions, ".toList ++
      Text.ofNat voidCount ++ " void functions without annotation".toList

/-- The log record of an event. -/
def record (event : Event) : Text :=
  (match event.severity with
    | .debug => "DEBUG ".toList
    | .warning => "WARN ".toList) ++ event.message

end Event

/-- What the steps of a run found. -/
structure Report where
  stripped : Text
  blocks : List Block
  extraction : Extraction
  output : Text
  events : List Event
deriving DecidableEq, Repr

namespace Report

/-- The events of a run that removed tags from `text` and found what is given. -/
def eventsOf (patterns : PatternSet) (text stripped : Text) (blocks : List Block)
    (found : Extraction) : List Event :=
  (if patterns.tags.isSome then [.stripped (text.byteSize - stripped.byteSize)] else []) ++
    [.matchedBlocks blocks.length] ++ (if blocks.isEmpty then [.noBlocks] else []) ++
    [.recorded found.table.length found.voidCount]

/-- The run over a document with compiled patterns. -/
def ofDocument (config : Config) (patterns : PatternSet) (document : Text) : Report :=
  let text := if config.normalize then Document.normalized document else document
  let stripped := Document.withoutTags patterns.tags text
  let blocks := Block.findAll config patterns.block stripped
  let found := Extraction.ofBlocks config patterns.sentinel blocks
  { stripped
    blocks
    extraction := found
    output := Listing.text config found
    events := eventsOf patterns text stripped blocks found }

end Report

/-- The report of a run. -/
def report (config : Config) (document : Text) : Except Failure Report :=
  (PatternSet.ofConfig config).map fun patterns => Report.ofDocument config patterns document

/-- The listing for a document. -/
def tabulate (config : Config) (document : Text) : Except Failure Text :=
  (report config document).map Report.output

end Sentinels
