import Sentinels.Config.Field
import Sentinels.Utf8

/-!
# Reading a configuration

A configuration is written as a JSON object or as a JSON list. The object names the fields that
differ from the default; a field may be named once, and members of other names are passed over.
The list gives the fields in their order, and those that it leaves out at its end keep their
default.
-/

set_option autoImplicit false

namespace Sentinels.Config

/-- Reads the value of a field and stores it. -/
def readField (config : Config) (field : Field) (text : Text) :
    Except Json.Stop (Config × Text) :=
  (field.kind.read text).map fun (v, rest) => (config.set field v, rest)

/-- Reads the items of a list as values of the given fields. -/
def readItems (config : Config) (first : Bool) :
    List Field → Text → Except Json.Stop (Config × Text)
  | [], text => (Json.endList text).map fun rest => (config, rest)
  | field :: fields, text =>
    match Json.nextItem first text with
    | .error e => .error e
    | .ok none => (Json.endList text).map fun rest => (config, rest)
    | .ok (some item) =>
      match readField config field item with
      | .error e => .error e
      | .ok (config, rest) => readItems config false fields rest

/--
What is left where reading stops at a field that is named again: the blanks behind its key are
passed over, and then a closing brace if one stands there.
-/
def behindRepeatedKey (text : Text) : Text :=
  match Json.skipBlanks text with
  | '}' :: rest => rest
  | other => other

/--
Reads one member of an object, behind its key; `seen` holds the fields that were named before.
-/
def readMember (config : Config) (seen : List Field) (key text : Text) :
    Except Json.Stop (Config × List Field × Text) :=
  match Field.named? key with
  | none =>
    (Json.readColon text).bind fun value =>
      (Json.skipValue value).map fun rest => (config, seen, rest)
  | some field =>
    if seen.contains field then
      .error ((Json.Fault.duplicateField key).before (behindRepeatedKey text))
    else (Json.readColon text).bind fun value =>
      (readField config field value).map fun (config, rest) => (config, field :: seen, rest)

/-- Reads the members of an object; each member takes one unit of fuel. -/
def readMembers : Nat → Config → List Field → Bool → Text → Except Json.Stop (Config × Text)
  | 0, _, _, _, _ => .error (Json.Fault.endInside .object).atEnd
  | fuel + 1, config, seen, first, text =>
    match Json.nextKey first text with
    | .error e => .error e
    | .ok none => (Json.endObject text).map fun rest => (config, rest)
    | .ok (some (key, behind)) =>
      match readMember config seen key behind with
      | .error e => .error e
      | .ok (config, seen, rest) => readMembers fuel config seen false rest

/-- The shape of a configuration, as faults name it. -/
def shape : Json.Shape := .record "Config".toList

/-- Reads a configuration at the beginning of a text. -/
def read (text : Text) : Except Json.Stop (Config × Text) :=
  match Json.skipBlanks text with
  | [] => .error (Json.Fault.endInside .value).atEnd
  | '[' :: rest => readItems default true Field.all rest
  | '{' :: rest => readMembers (rest.length + 1) default [] true rest
  | other => .error (Json.wrongType shape other)

/-- Reads a text that holds a configuration and nothing else. -/
def ofJson (text : Text) : Except Json.Stop Config :=
  match read text with
  | .error e => .error e
  | .ok (config, rest) => (Json.endText rest).map fun _ => config

end Sentinels.Config
