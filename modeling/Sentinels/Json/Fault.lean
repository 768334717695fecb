import Sentinels.Decimal.Shortest
import Sentinels.Text.Quoted
import Sentinels.Utf8

/-!
# Faults of a JSON text

Reading stops at the first fault. A fault is a cause; its wording is in one place. A reader that
stops says how much of the text it has not yet looked at, and the whole text turns this into a line
and a column. Most readers look at the next byte before they take it, so they tell of the place
behind that byte.
-/

set_option autoImplicit false

namespace Sentinels.Json

/-- What the reader was inside of when the text ended. -/
inductive Place
  | value
  | string
  | list
  | object
deriving DecidableEq, Repr

/-- What a reader of a typed value asks for. -/
inductive Shape
  | string
  | sequence
  | integer
  | boolean
  | record (name : Text)
deriving DecidableEq, Repr

/-- A value of the wrong type, as far as a fault describes it. -/
inductive Found
  | null
  | boolean (b : Bool)
  | integer (n : Int)
  | float (x : Decimal.Binary64)
  | string (s : Text)
  | sequence
  | map
deriving DecidableEq, Repr

/-- The reasons to refuse a JSON text. -/
inductive Fault
  | endInside (place : Place)
  | expectedValue
  | expectedIdent
  | expectedColon
  | expectedListCommaOrEnd
  | expectedObjectCommaOrEnd
  | keyMustBeString
  | trailingComma
  | trailingCharacters
  | invalidNumber
  | numberOutOfRange
  | invalidEscape
  | loneSurrogate
  | unexpectedEndOfHexEscape
  | controlCharacter
  | invalidType (found : Found) (expected : Shape)
  | invalidValue (found : Found) (expected : Shape)
  | duplicateField (name : Text)
deriving DecidableEq, Repr

/-- The word for a place. -/
def Place.text : Place → Text
  | .value => "a value".toList
  | .string => "a string".toList
  | .list => "a list".toList
  | .object => "an object".toList

/-- The words for a shape. -/
def Shape.text : Shape → Text
  | .string => "a string".toList
  | .sequence => "a sequence".toList
  | .integer => "i64".toList
  | .boolean => "a boolean".toList
  | .record name => "struct ".toList ++ name

/-- A text between backquotes. -/
def backquoted (text : Text) : Text := ['\x60'] ++ text ++ ['\x60']

/-- The description of a value. -/
def Found.text : Found → Text
  | .null => "null".toList
  | .boolean true => "boolean ".toList ++ backquoted "true".toList
  | .boolean false => "boolean ".toList ++ backquoted "false".toList
  | .integer n => "integer ".toList ++ backquoted (Text.ofInt n)
  | .float x => "floating point ".toList ++ backquoted x.text
  | .string s => "string ".toList ++ s.quoted
  | .sequence => "sequence".toList
  | .map => "map".toList

/-- The wording of a fault. -/
def Fault.message : Fault → Text
  | .endInside place => "EOF while parsing ".toList ++ place.text
  | .expectedValue => "expected value".toList
  | .expectedIdent => "expected ident".toList
  | .expectedColon => "expected ".toList ++ backquoted [':']
  | .expectedListCommaOrEnd =>
    "expected ".toList ++ backquoted [','] ++ " or ".toList ++ backquoted [']']
  | .expectedObjectCommaOrEnd =>
    "expected ".toList ++ backquoted [','] ++ " or ".toList ++ backquoted ['}']
  | .keyMustBeString => "key must be a string".toList
  | .trailingComma => "trailing comma".toList
  | .trailingCharacters => "trailing characters".toList
  | .invalidNumber => "invalid number".toList
  | .numberOutOfRange => "number out of range".toList
  | .invalidEscape => "invalid escape".toList
  | .loneSurrogate => "lone leading surrogate in hex escape".toList
  | .unexpectedEndOfHexEscape => "unexpected end of hex escape".toList
  | .controlCharacter =>
    "control character (\\u0000-\\u001F) found while parsing a string".toList
  | .invalidType found expected =>
    "invalid type: ".toList ++ found.text ++ ", expected ".toList ++ expected.text
  | .invalidValue found expected =>
    "invalid value: ".toList ++ found.text ++ ", expected ".toList ++ expected.text
  | .duplicateField name => "duplicate field ".toList ++ backquoted name

/-! ## Places of faults -/

/-- Where a reader stops: at a fault, with so many bytes behind the place it is told of. -/
structure Stop where
  fault : Fault
  left : Nat
deriving DecidableEq, Repr

namespace Fault

/-- The fault is told of the place in front of what is left. -/
def before (fault : Fault) (rest : Text) : Stop := ⟨fault, rest.byteSize⟩

/-- The fault is told of the place behind the first byte of what is left, if there is one. -/
def ahead (fault : Fault) (rest : Text) : Stop := ⟨fault, rest.byteSize - 1⟩

/-- The fault is told of the end of the text. -/
def atEnd (fault : Fault) : Stop := ⟨fault, 0⟩

end Fault

/-- Why a text is refused: the fault, its line and the bytes of the line in front of it. -/
structure Refusal where
  fault : Fault
  line : Nat
  column : Nat
deriving DecidableEq, Repr

namespace Refusal

/-- The byte at the end of a line. -/
def lineFeed : UInt8 := 10

/-- The refusal of a text whose reader stopped. Lines are counted from one. -/
def ofStop (text : Text) (stop : Stop) : Refusal :=
  let bytes := Utf8.encode text
  let behind := bytes.take (bytes.length - stop.left)
  { fault := stop.fault
    line := 1 + behind.count lineFeed
    column := (behind.reverse.takeWhile (· != lineFeed)).length }

/-- The wording of a refusal. -/
def message (refusal : Refusal) : Text :=
  refusal.fault.message ++ " at line ".toList ++ Text.ofNat refusal.line ++
    " column ".toList ++ Text.ofNat refusal.column

end Refusal

end Sentinels.Json
