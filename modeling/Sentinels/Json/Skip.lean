import Sentinels.Json.Typed

/-!
# Values that are passed over

A value that nobody asked for is read for its form only. The lists and objects that are open are
kept on a stack, the innermost first, so the depth of nesting has no bound.
-/

set_option autoImplicit false

namespace Sentinels.Json

/-- A list or an object that is open. -/
inductive Enclosure
  | list
  | object
deriving DecidableEq, Repr

/-- The place to name if the text ends inside. -/
def Enclosure.place : Enclosure → Place
  | .list => .list
  | .object => .object

/-- The character that closes a list or an object. -/
def Enclosure.closer : Enclosure → Char
  | .list => ']'
  | .object => '}'

/-- The fault if neither a comma nor the closing character stands behind an item. -/
def Enclosure.separatorFault : Enclosure → Fault
  | .list => .expectedListCommaOrEnd
  | .object => .expectedObjectCommaOrEnd

/-- Passes over what stands in front of an item: in an object a key and a colon. -/
def Enclosure.skipKey (enclosure : Enclosure) (text : Text) : Except Stop Text :=
  match enclosure with
  | .list => .ok text
  | .object =>
    match skipBlanks text with
    | [] => .error (Fault.endInside .object).atEnd
    | c :: rest =>
      if c = '"' then (skipString rest).bind readColon
      else .error (Fault.keyMustBeString.ahead (c :: rest))

/--
Reads on behind a value: closes what ends here, up to a comma with an item behind it. Gives the
enclosures that are still open and the text at the next item, or none of them at the end.
-/
def closeEnclosures : List Enclosure → Text → Except Stop (List Enclosure × Text)
  | [], text => .ok ([], text)
  | enclosure :: outer, text =>
    match skipBlanks text with
    | [] => .error (Fault.endInside enclosure.place).atEnd
    | c :: rest =>
      if c = ',' then (enclosure.skipKey rest).map fun item => (enclosure :: outer, item)
      else if c = enclosure.closer then closeEnclosures outer rest
      else .error (enclosure.separatorFault.ahead (c :: rest))

/-- Reads on behind the opening character of a list or an object. -/
def openEnclosure (enclosure : Enclosure) (outer : List Enclosure) (text : Text) :
    Except Stop (List Enclosure × Text) :=
  match skipBlanks text with
  | [] => .error (Fault.endInside enclosure.place).atEnd
  | c :: rest =>
    if c = enclosure.closer then closeEnclosures outer rest
    else (enclosure.skipKey (c :: rest)).map fun item => (enclosure :: outer, item)

/-- Reads the beginning of a value: a whole scalar, or the opening of a list or an object. -/
def skipStart (enclosures : List Enclosure) (text : Text) :
    Except Stop (List Enclosure × Text) :=
  match skipBlanks text with
  | [] => .error (Fault.endInside .value).atEnd
  | c :: rest =>
    match c with
    | 'n' => (readWord ['u', 'l', 'l'] rest).bind (closeEnclosures enclosures)
    | 't' => (readWord ['r', 'u', 'e'] rest).bind (closeEnclosures enclosures)
    | 'f' => (readWord ['a', 'l', 's', 'e'] rest).bind (closeEnclosures enclosures)
    | '"' => (skipString rest).bind (closeEnclosures enclosures)
    | '-' => (skipNumber rest).bind (closeEnclosures enclosures)
    | '[' => openEnclosure .list enclosures rest
    | '{' => openEnclosure .object enclosures rest
    | _ =>
      if isDigit c then (skipNumber (c :: rest)).bind (closeEnclosures enclosures)
      else .error (Fault.expectedValue.ahead (c :: rest))

/-- Reads values until nothing is open; each step takes one unit of fuel. -/
def skipFrom : Nat → List Enclosure → Text → Except Stop Text
  | 0, _, _ => .error (Fault.endInside .value).atEnd
  | fuel + 1, enclosures, text =>
    match skipStart enclosures text with
    | .error e => .error e
    | .ok ([], rest) => .ok rest
    | .ok (still, item) => skipFrom fuel still item

/-- Passes over a value. -/
def skipValue (text : Text) : Except Stop Text :=
  skipFrom (text.length + 1) [] text

end Sentinels.Json
