import Sentinels.Decimal.Binary64
import Sentinels.Text

/-!
# The shortest decimal text of a number

A number of the double format is written with the fewest digits that read back as the same number;
among those of that length the nearest one is taken, and of two equally near ones the even one.
Numbers from 10^-5 up to 10^16 are written positionally and keep one digit behind the point, all
others with a power of ten.
-/

set_option autoImplicit false

namespace Sentinels.Decimal

/-- Decimal digits read as an integer, times a power of ten. -/
structure Digits where
  digits : Nat
  power : Int
deriving DecidableEq, Repr

namespace Magnitude

/-- The quotient of `num / den` by a power of ten. -/
def overTen (num den : Nat) (power : Int) : Nat × Nat :=
  if 0 ≤ power then (num, den * Nat.pow 10 power.toNat)
  else (num * Nat.pow 10 (-power).toNat, den)

/-- The least `j` from `start` on with `num * 10 ^ j ≥ den`, looked for in `fuel` steps. -/
def leadingZeros (num den : Nat) : Nat → Nat → Nat
  | 0, start => start
  | fuel + 1, start =>
    if den ≤ num * Nat.pow 10 start then start else leadingZeros num den fuel (start + 1)

/-- The power of ten of the leading digit of a positive quotient. -/
def leadingPower (num den : Nat) : Int :=
  if den ≤ num then ((Nat.toDigits 10 (num / den)).length : Int) - 1
  else -(leadingZeros num den 400 1 : Int)

/--
Does the decimal read back as `x`? The numbers that do lie within half a step of `x`; the step
below a power of two is half as wide, and the two ends belong to `x` if its mantissa is even.
-/
def readsBack (x : Magnitude) (d : Digits) : Bool :=
  let quarter : Magnitude := ⟨1, x.exponent - 2⟩
  let (n, den) := overTen d.digits 1 (-d.power)
  let narrow := x.mantissa = Nat.pow 2 52 ∧ minExponent < x.exponent
  let low := (4 * x.mantissa - (if narrow then 1 else 2)) * quarter.ratio.1 * den
  let high := (4 * x.mantissa + 2) * quarter.ratio.1 * den
  let value := n * quarter.ratio.2
  if x.mantissa % 2 = 0 then low ≤ value && value ≤ high else low < value && value < high

/--
The two neighbours of `x` with decimal steps of the given power, the nearer one first. Of two that
are equally near the even one comes first.
-/
def neighbours (x : Magnitude) (power : Int) : List Digits :=
  let (n, d) := overTen x.ratio.1 x.ratio.2 power
  let below := n / d
  if 2 * (n % d) < d ∨ (2 * (n % d) = d ∧ below % 2 = 0) then
    [⟨below, power⟩, ⟨below + 1, power⟩]
  else [⟨below + 1, power⟩, ⟨below, power⟩]

/-- The first decimal that reads back, with one digit, two digits and so on. -/
def shortestFrom (x : Magnitude) (leading : Int) : Nat → Nat → Digits
  | 0, count => ((neighbours x (leading - count + 1)).head?).getD ⟨0, 0⟩
  | fuel + 1, count =>
    match (neighbours x (leading - count + 1)).find? fun d => readsBack x d with
    | some d => d
    | none => shortestFrom x leading fuel (count + 1)

/-- The shortest decimal that reads back as a positive magnitude. -/
def shortest (x : Magnitude) : Digits :=
  shortestFrom x (leadingPower x.ratio.1 x.ratio.2) 17 1

end Magnitude

/-- Drops the zeros at the end of a row of digits. -/
def stripZeros (digits : Text) : Text :=
  match Text.trimEnd (· == '0') digits with
  | [] => ['0']
  | kept => kept

/-- Numbers whose leading digit has a power of ten in this range are written positionally. -/
def positionalPowers : Int × Int := (-5, 15)

/-- The exponent of a number in powers of ten: a sign and the digits. -/
def exponentText (power : Int) : Text :=
  (if power < 0 then '-' else '+') :: Text.ofNat power.natAbs

/-- Digits written with the point behind the digit of power zero. -/
def positional (digits : Text) (leading : Int) : Text :=
  if leading < 0 then
    ['0', '.'] ++ List.replicate (leading.natAbs - 1) '0' ++ digits
  else
    let whole := leading.toNat + 1
    let before := digits.take whole ++ List.replicate (whole - digits.length) '0'
    let behind := digits.drop whole
    before ++ ['.'] ++ (if behind = [] then ['0'] else behind)

/-- Digits written with the point behind the first one and a power of ten. -/
def scientific (digits : Text) (leading : Int) : Text :=
  match digits with
  | [] => []
  | [d] => [d, 'e'] ++ exponentText leading
  | d :: behind => [d, '.'] ++ behind ++ ['e'] ++ exponentText leading

/-- The text of a magnitude. -/
def Magnitude.text (x : Magnitude) : Text :=
  if x.mantissa = 0 then ['0', '.', '0']
  else
    let d := x.shortest
    let row := Text.ofNat d.digits
    let leading := d.power + row.length - 1
    let digits := stripZeros row
    if positionalPowers.1 ≤ leading ∧ leading ≤ positionalPowers.2 then positional digits leading
    else scientific digits leading

/-- The text of a number of the double format. -/
def Binary64.text (x : Binary64) : Text :=
  if x.negative then '-' :: x.magnitude.text else x.magnitude.text

end Sentinels.Decimal
