/-!
# Binary floating point

A finite number of the double format is an integer mantissa below 2^53 times a power of two. The
operations here compute the exact result as a quotient of natural numbers and round it once, to
the nearest number of the format, an exact tie to the even mantissa.
-/

set_option autoImplicit false

namespace Sentinels.Decimal

/-- The magnitude `mantissa * 2 ^ exponent`, with the mantissa below 2^53. -/
structure Magnitude where
  mantissa : Nat
  exponent : Int
deriving DecidableEq, Repr

/-- A finite number of the double format. -/
structure Binary64 where
  negative : Bool
  magnitude : Magnitude
deriving DecidableEq, Repr

namespace Magnitude

/-- The exponent of the smallest steps of the format. -/
def minExponent : Int := -1074

/-- The exponent of the largest steps of the format. -/
def maxExponent : Int := 971

/-- The magnitude zero. -/
def zero : Magnitude := ⟨0, minExponent⟩

/-- The quotient `num / den` of a magnitude. -/
def ratio (x : Magnitude) : Nat × Nat :=
  if 0 ≤ x.exponent then (x.mantissa * Nat.pow 2 x.exponent.toNat, 1)
  else (x.mantissa, Nat.pow 2 (-x.exponent).toNat)

/-- The quotient `num / den` divided by a power of two. -/
def scaled (num den : Nat) (exponent : Int) : Nat × Nat :=
  if 0 ≤ exponent then (num, den * Nat.pow 2 exponent.toNat)
  else (num * Nat.pow 2 (-exponent).toNat, den)

/-- The exponent at which the quotient has a mantissa of 53 bits, or the least of the format. -/
def exponentOf (num den : Nat) : Int :=
  let guess : Int := (Nat.log2 num : Int) - (Nat.log2 den : Int) - 52
  let (n, d) := scaled num den guess
  let fitted := if n / d < Nat.pow 2 52 then guess - 1 else guess
  max fitted minExponent

/-- The quotient rounded to the format; none if it is too large. -/
def round? (num den : Nat) : Option Magnitude :=
  if num = 0 then some zero
  else
    let exponent := exponentOf num den
    let (n, d) := scaled num den exponent
    let below := n / d
    let twiceRest := 2 * (n % d)
    let mantissa :=
      if d < twiceRest ∨ (twiceRest = d ∧ below % 2 = 1) then below + 1 else below
    let carried : Magnitude :=
      if mantissa = Nat.pow 2 53 then ⟨Nat.pow 2 52, exponent + 1⟩ else ⟨mantissa, exponent⟩
    if maxExponent < carried.exponent then none else some carried

/-- The product, rounded. -/
def mul? (x y : Magnitude) : Option Magnitude :=
  round? (x.ratio.1 * y.ratio.1) (x.ratio.2 * y.ratio.2)

/-- The quotient, rounded. -/
def div? (x y : Magnitude) : Option Magnitude :=
  round? (x.ratio.1 * y.ratio.2) (x.ratio.2 * y.ratio.1)

end Magnitude

end Sentinels.Decimal
