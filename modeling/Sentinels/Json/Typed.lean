import Sentinels.Json.Number

/-!
# Values of a wanted type

A reader asks for a value of one type and refuses any other. A refused scalar is read to its end
before it is refused, so a fault inside it is found first; a refused list or object is not. Lists
and objects are read step by step: is there a next item, and where does it begin?
-/

set_option autoImplicit false

namespace Sentinels.Json

/-- The description of a number. -/
def Number.found : Number → Found
  | .integer n => .integer n
  | .float x => .float x

/--
Refuses a scalar of which a description was read, behind the scalar, or stops where reading it did.
-/
def refuse (expected : Shape) (read : Except Stop (Found × Text)) : Stop :=
  match read with
  | .ok (found, rest) => (Fault.invalidType found expected).before rest
  | .error stop => stop

/-- The description of a word, once the rest of it is read. -/
def readAs (found : Found) (word rest : Text) : Except Stop (Found × Text) :=
  (readWord word rest).map fun rest => (found, rest)

/--
Where reading stops at a value that is not of the wanted shape; the text begins with the value.
-/
def wrongType (expected : Shape) (text : Text) : Stop :=
  match text with
  | [] => Fault.expectedValue.atEnd
  | c :: rest =>
    match c with
    | 'n' => refuse expected (readAs .null ['u', 'l', 'l'] rest)
    | 't' => refuse expected (readAs (.boolean true) ['r', 'u', 'e'] rest)
    | 'f' => refuse expected (readAs (.boolean false) ['a', 'l', 's', 'e'] rest)
    | '"' => refuse expected ((readString rest).map fun (s, rest) => (.string s, rest))
    | '[' => (Fault.invalidType .sequence expected).before text
    | '{' => (Fault.invalidType .map expected).before text
    | '-' => refuse expected ((readNumber true rest).map fun (n, rest) => (n.found, rest))
    | _ =>
      if isDigit c then
        refuse expected ((readNumber false text).map fun (n, rest) => (n.found, rest))
      else Fault.expectedValue.ahead text

/-- Reads a value that is a string. -/
def readStringValue (text : Text) : Except Stop (Text × Text) :=
  match skipBlanks text with
  | [] => .error (Fault.endInside .value).atEnd
  | '"' :: rest => readString rest
  | other => .error (wrongType .string other)

/-- Reads a value that is a truth value. -/
def readBoolean (text : Text) : Except Stop (Bool × Text) :=
  match skipBlanks text with
  | [] => .error (Fault.endInside .value).atEnd
  | 't' :: rest => (readWord ['r', 'u', 'e'] rest).map fun rest => (true, rest)
  | 'f' :: rest => (readWord ['a', 'l', 's', 'e'] rest).map fun rest => (false, rest)
  | other => .error (wrongType .boolean other)

/-- The largest integer of 64 bits with sign. -/
def maxInteger : Int := 9223372036854775807

/-- Accepts a number that is an integer of 64 bits with sign. -/
def acceptInteger (found : Number × Text) : Except Stop (Int × Text) :=
  match found.1 with
  | .integer n =>
    if n ≤ maxInteger then .ok (n, found.2)
    else .error ((Fault.invalidValue (.integer n) .integer).before found.2)
  | .float x => .error ((Fault.invalidType (.float x) .integer).before found.2)

/-- Reads a value that is an integer of 64 bits with sign. -/
def readInteger (text : Text) : Except Stop (Int × Text) :=
  match skipBlanks text with
  | [] => .error (Fault.endInside .value).atEnd
  | '-' :: rest => (readNumber true rest).bind acceptInteger
  | c :: rest =>
    if isDigit c then (readNumber false (c :: rest)).bind acceptInteger
    else .error (wrongType .integer (c :: rest))

/-- Where the next item of a list begins; none in front of the closing bracket. -/
def nextItem (first : Bool) (text : Text) : Except Stop (Option Text) :=
  match skipBlanks text with
  | [] => .error (Fault.endInside .list).atEnd
  | c :: rest =>
    if c = ']' then .ok none
    else if first then .ok (some (c :: rest))
    else if c = ',' then
      match skipBlanks rest with
      | [] => .error (Fault.endInside .value).atEnd
      | d :: behind =>
        if d = ']' then .error (Fault.trailingComma.ahead (d :: behind))
        else .ok (some (d :: behind))
    else .error (Fault.expectedListCommaOrEnd.ahead (c :: rest))

/-- Reads the closing bracket of a list from which no more items are wanted. -/
def endList (text : Text) : Except Stop Text :=
  match skipBlanks text with
  | [] => .error (Fault.endInside .list).atEnd
  | c :: rest =>
    if c = ']' then .ok rest
    else if c = ',' then
      match skipBlanks rest with
      | ']' :: behind => .error (Fault.trailingComma.ahead (']' :: behind))
      | other => .error (Fault.trailingCharacters.ahead other)
    else .error (Fault.trailingCharacters.ahead (c :: rest))

/-- Reads the items of a list of strings; each item takes at least one unit of fuel. -/
def readStringsFrom : Nat → Bool → Text → Except Stop (List Text × Text)
  | 0, _, _ => .error (Fault.endInside .list).atEnd
  | fuel + 1, first, text =>
    match nextItem first text with
    | .error e => .error e
    | .ok none => (endList text).map fun rest => ([], rest)
    | .ok (some item) =>
      match readStringValue item with
      | .error e => .error e
      | .ok (s, rest) =>
        (readStringsFrom fuel false rest).map fun (others, rest) => (s :: others, rest)

/-- Reads a value that is a list of strings. -/
def readStrings (text : Text) : Except Stop (List Text × Text) :=
  match skipBlanks text with
  | [] => .error (Fault.endInside .value).atEnd
  | '[' :: rest => readStringsFrom (rest.length + 1) true rest
  | other => .error (wrongType .sequence other)

/-- The next key of an object and the text behind it; none in front of the closing brace. -/
def nextKey (first : Bool) (text : Text) : Except Stop (Option (Text × Text)) :=
  match skipBlanks text with
  | [] => .error (Fault.endInside .object).atEnd
  | c :: rest =>
    if c = '}' then .ok none
    else if first then
      if c = '"' then (readString rest).map some
      else .error (Fault.keyMustBeString.ahead (c :: rest))
    else if c = ',' then
      match skipBlanks rest with
      | [] => .error (Fault.endInside .value).atEnd
      | d :: behind =>
        if d = '"' then (readString behind).map some
        else if d = '}' then .error (Fault.trailingComma.ahead (d :: behind))
        else .error (Fault.keyMustBeString.ahead (d :: behind))
    else .error (Fault.expectedObjectCommaOrEnd.ahead (c :: rest))

/-- Reads the colon behind a key. -/
def readColon (text : Text) : Except Stop Text :=
  match skipBlanks text with
  | [] => .error (Fault.endInside .object).atEnd
  | c :: rest => if c = ':' then .ok rest else .error (Fault.expectedColon.ahead (c :: rest))

/-- Reads the closing brace of an object from which no more members are wanted. -/
def endObject (text : Text) : Except Stop Text :=
  match skipBlanks text with
  | [] => .error (Fault.endInside .object).atEnd
  | c :: rest =>
    if c = '}' then .ok rest
    else if c = ',' then .error (Fault.trailingComma.ahead (c :: rest))
    else .error (Fault.trailingCharacters.ahead (c :: rest))

/-- Accepts the end of a text behind which only blanks may stand. -/
def endText (text : Text) : Except Stop Unit :=
  match skipBlanks text with
  | [] => .ok ()
  | c :: rest => .error (Fault.trailingCharacters.ahead (c :: rest))

end Sentinels.Json
