import Sentinels.Json.Lexeme

/-!
# The numbers of JSON

A number without fraction and exponent is read as an integer if it lies between -2^63 and 2^64 -
1; minus zero and all other numbers are floating point. Digits are collected in a significand of
64 bits. Digits of the integer part that no longer fit only raise the exponent, and digits of the
fraction that no longer fit are passed over. A floating point number is the rounded significand
times or over a rounded power of ten.
-/

set_option autoImplicit false

namespace Sentinels.Json

open Decimal (Magnitude Binary64)

/-- A number as it is read. -/
inductive Number
  | integer (n : Int)
  | float (x : Binary64)
deriving DecidableEq, Repr

/-- The largest significand. -/
def maxSignificand : Nat := Nat.pow 2 64 - 1

/-- The largest power of ten that is used in one step. -/
def maxPower : Nat := 308

/-- The value of a decimal digit. -/
def digitValue (c : Char) : Nat := c.toNat - '0'.toNat

/-- Appends digits to a significand while they fit; the second part counts those that do not. -/
def collect (significand : Nat) : Text → Nat × Nat
  | [] => (significand, 0)
  | d :: ds =>
    let next := significand * 10 + digitValue d
    if maxSignificand < next then (significand, (d :: ds).length) else collect next ds

/-- A power of ten in the double format. -/
def powerOfTen (k : Nat) : Magnitude := (Magnitude.round? (Nat.pow 10 k) 1).getD Magnitude.zero

/-- Divides by ten to the power `k`, in steps of at most 308 and until nothing is left. -/
def scaleDown (x : Magnitude) (k : Nat) : Magnitude :=
  if k ≤ maxPower then (x.div? (powerOfTen k)).getD Magnitude.zero
  else if x.mantissa = 0 then x
  else scaleDown ((x.div? (powerOfTen maxPower)).getD Magnitude.zero) (k - maxPower)
termination_by k
decreasing_by
  have : 0 < maxPower := by decide
  omega

/-- The magnitude of `significand * 10 ^ exponent`; numbers beyond the format are refused. -/
def magnitude (significand : Nat) (exponent : Int) : Except Fault Magnitude :=
  let x := (Magnitude.round? significand 1).getD Magnitude.zero
  if exponent < 0 then .ok (scaleDown x exponent.natAbs)
  else if exponent.toNat ≤ maxPower then
    match x.mul? (powerOfTen exponent.toNat) with
    | some y => .ok y
    | none => .error .numberOutOfRange
  else if x.mantissa = 0 then .ok x
  else .error .numberOutOfRange

/-- The floating point number with this sign, significand and exponent. -/
def floating (negative : Bool) (significand : Nat) (exponent : Int) : Except Fault Number :=
  (magnitude significand exponent).map fun x => .float ⟨negative, x⟩

/-- What was read, with what is left; a fault is told of the place in front of what is left. -/
def leaving (rest : Text) (found : Except Fault Number) : Except Stop (Number × Text) :=
  match found with
  | .ok x => .ok (x, rest)
  | .error fault => .error (fault.before rest)

/-- The largest exponent that is read; a larger one makes the number zero or too large. -/
def maxExponent : Nat := Nat.pow 2 31 - 1

/--
The value of a row of digits, or the digits behind the one with which the value exceeds the bound.
-/
def boundedValue (bound : Nat) (value : Nat) : Text → Except Text Nat
  | [] => .ok value
  | d :: ds =>
    let next := value * 10 + digitValue d
    if bound < next then .error ds else boundedValue bound next ds

/-- The least and the greatest exponent of 32 bits. -/
def clampExponent (n : Int) : Int := max (-2147483648) (min n 2147483647)

/-- Reads the digits of an exponent, behind its sign. -/
def readExponentDigits (negative : Bool) (significand : Nat) (exponent : Int) (down : Bool)
    (text : Text) : Except Stop (Number × Text) :=
  match text with
  | [] => .error (Fault.endInside .value).atEnd
  | c :: _ =>
    if !isDigit c then .error (Fault.invalidNumber.ahead text)
    else
      let digits := text.takeWhile isDigit
      let rest := text.dropWhile isDigit
      match boundedValue maxExponent 0 digits with
      | .ok n =>
        let total := if down then exponent - n else exponent + n
        leaving rest (floating negative significand (clampExponent total))
      | .error unread =>
        if significand ≠ 0 ∧ down = false then
          .error (Fault.numberOutOfRange.before (unread ++ rest))
        else .ok (.float ⟨negative, Magnitude.zero⟩, rest)

/-- Reads an exponent, behind its letter. -/
def readExponent (negative : Bool) (significand : Nat) (exponent : Int) (text : Text) :
    Except Stop (Number × Text) :=
  match text with
  | '+' :: rest => readExponentDigits negative significand exponent false rest
  | '-' :: rest => readExponentDigits negative significand exponent true rest
  | rest => readExponentDigits negative significand exponent false rest

/-- Does an exponent begin with this character? -/
def isExponentMark (c : Char) : Bool := c == 'e' || c == 'E'

/-- Reads a fraction, behind its point. -/
def readFraction (negative : Bool) (significand : Nat) (exponent : Int) (text : Text) :
    Except Stop (Number × Text) :=
  let digits := text.takeWhile isDigit
  let rest := text.dropWhile isDigit
  if digits.isEmpty then
    .error ((if rest.isEmpty then Fault.endInside .value else .invalidNumber).ahead rest)
  else
    let (significand, unused) := collect significand digits
    let exponent := exponent - (digits.length - unused : Nat)
    match rest with
    | [] => leaving rest (floating negative significand exponent)
    | c :: behind =>
      if isExponentMark c then readExponent negative significand exponent behind
      else leaving rest (floating negative significand exponent)

/-- The integer with this sign and magnitude, or the floating point number that stands for it. -/
def whole (negative : Bool) (n : Nat) : Except Fault Number :=
  if negative then
    if 0 < n ∧ n ≤ Nat.pow 2 63 then .ok (.integer (-(n : Int)))
    else floating true n 0
  else .ok (.integer n)

/-- Reads what may follow the integer part, of which `unused` digits did not fit. -/
def readTail (negative : Bool) (significand unused : Nat) (text : Text) :
    Except Stop (Number × Text) :=
  let integer :=
    if unused = 0 then whole negative significand else floating negative significand unused
  match text with
  | [] => leaving text integer
  | c :: rest =>
    if c = '.' then readFraction negative significand unused rest
    else if isExponentMark c then readExponent negative significand unused rest
    else leaving text integer

/-- Reads a number, behind its sign if it has one. -/
def readNumber (negative : Bool) (text : Text) : Except Stop (Number × Text) :=
  match text with
  | [] => .error (Fault.endInside .value).atEnd
  | c :: rest =>
    if c = '0' then
      match rest with
      | [] => readTail negative 0 0 rest
      | d :: _ =>
        if isDigit d then .error (Fault.invalidNumber.ahead rest)
        else readTail negative 0 0 rest
    else if isDigit c then
      let (significand, unused) := collect 0 (text.takeWhile isDigit)
      readTail negative significand unused (text.dropWhile isDigit)
    else .error (Fault.invalidNumber.ahead text)

/-- The text behind the digits at its beginning, of which there must be one. -/
def skipDigits (text : Text) : Except Stop Text :=
  match text with
  | [] => .error Fault.invalidNumber.atEnd
  | c :: _ =>
    if isDigit c then .ok (text.dropWhile isDigit) else .error (Fault.invalidNumber.ahead text)

/-- Reads an exponent for its form only, if there is one. -/
def skipExponent (text : Text) : Except Stop Text :=
  match text with
  | [] => .ok text
  | c :: rest =>
    if isExponentMark c then
      match rest with
      | '+' :: behind => skipDigits behind
      | '-' :: behind => skipDigits behind
      | behind => skipDigits behind
    else .ok text

/-- Reads a fraction and an exponent for their form only, if there are any. -/
def skipTail (text : Text) : Except Stop Text :=
  match text with
  | '.' :: rest => (skipDigits rest).bind skipExponent
  | rest => skipExponent rest

/-- Reads a number for its form only, behind its sign if it has one. -/
def skipNumber (text : Text) : Except Stop Text :=
  match text with
  | [] => .error Fault.invalidNumber.atEnd
  | c :: rest =>
    if c = '0' then
      match rest with
      | [] => .ok rest
      | d :: _ => if isDigit d then .error (Fault.invalidNumber.ahead rest) else skipTail rest
    else if isDigit c then skipTail (text.dropWhile isDigit)
    else .error (Fault.invalidNumber.ahead text)

end Sentinels.Json
