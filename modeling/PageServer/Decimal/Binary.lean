/-! Binary floating-point numbers of double width, as exact mantissas and exponents. -/

namespace PageServer.Decimal

/-- A double: a finite one is its mantissa times two to its exponent, with a sign. -/
inductive Binary where
  | finite (negative : Bool) (mantissa : Nat) (exponent : Int)
  | infinite (negative : Bool)
  /-- What is not a number at all. -/
  | undefined
  deriving DecidableEq, Repr

/-- The quotient rounded to the nearest whole number, a half to the even one. -/
def roundDiv (numerator denominator : Nat) : Nat :=
  let floor := numerator / denominator
  let rest := numerator % denominator
  if 2 * rest < denominator then floor
  else if 2 * rest > denominator then floor + 1
  else if floor % 2 = 0 then floor else floor + 1

/-- A ratio times ten or two or any base to a power, as a ratio. -/
def scaleRatio (base : Nat) (power : Int) (ratio : Nat × Nat) : Nat × Nat :=
  if 0 ≤ power then (ratio.1 * Nat.pow base power.toNat, ratio.2)
  else (ratio.1, ratio.2 * Nat.pow base (-power).toNat)

namespace Binary

/-- The least mantissa above the least exponent: fifty-two zeros after a one. -/
def leastMantissa : Nat := 4503599627370496

/-- The least exponent, reached by the smallest doubles. -/
def leastExponent : Int := -1074

/-- The greatest exponent of a finite double. -/
def greatestExponent : Int := 971

/-- The double nearest to a positive ratio, a tie going to the even mantissa. -/
def ofRatio (negative : Bool) (numerator denominator : Nat) : Binary :=
  if numerator = 0 then finite negative 0 leastExponent
  else
    let power : Int := (numerator.log2 : Int) - denominator.log2
    -- The ratio lies on one side of two to that power or just below it.
    let (low, high) := scaleRatio 2 (-power) (numerator, denominator)
    let exponent := max (if high ≤ low then power - 52 else power - 53) leastExponent
    let (top, bottom) := scaleRatio 2 (-exponent) (numerator, denominator)
    let mantissa := roundDiv top bottom
    let (mantissa, exponent) :=
      if mantissa = 2 * leastMantissa then (leastMantissa, exponent + 1) else (mantissa, exponent)
    if exponent > greatestExponent then infinite negative else finite negative mantissa exponent

/-- The double nearest to a decimal: a whole number of digits times a power of ten. -/
def ofDecimal (negative : Bool) (digits : Nat) (power : Int) : Binary :=
  let magnitude : Int := (Nat.toDigits 10 digits).length + power
  -- Beyond these magnitudes the nearest double is known without the ratio.
  if digits = 0 || magnitude < -330 then finite negative 0 leastExponent
  else if magnitude > 310 then infinite negative
  else
    let (top, bottom) := scaleRatio 10 power (digits, 1)
    ofRatio negative top bottom

/-- The magnitude of a finite double as a ratio. -/
def ratio (mantissa : Nat) (exponent : Int) : Nat × Nat := scaleRatio 2 exponent (mantissa, 1)

/-- Whether the number is zero, of either sign. -/
def isZero : Binary → Bool
  | finite _ mantissa _ => mantissa == 0
  | infinite _ | undefined => false

/-- The whole number left when the fraction is cut off, if the double is finite. -/
def truncate? : Binary → Option Int
  | finite negative mantissa exponent =>
    let (top, bottom) := ratio mantissa exponent
    some (if negative then -((top / bottom : Nat) : Int) else (top / bottom : Nat))
  | infinite _ | undefined => none

/-- The whole number a double equals, if it equals one. -/
def toInt? : Binary → Option Int
  | finite negative mantissa exponent =>
    let (top, bottom) := ratio mantissa exponent
    if top % bottom = 0 then
      some (if negative then -((top / bottom : Nat) : Int) else (top / bottom : Nat))
    else none
  | infinite _ | undefined => none

/-- Compares two doubles by their exact values; what is not a number comes last. -/
def compare : Binary → Binary → Ordering
  | undefined, undefined => .eq
  | undefined, _ => .gt
  | _, undefined => .lt
  | infinite true, infinite true => .eq
  | infinite false, infinite false => .eq
  | infinite negative, _ => if negative then .lt else .gt
  | _, infinite negative => if negative then .gt else .lt
  | finite negative mantissa exponent, finite negative' mantissa' exponent' =>
    let (top, bottom) := ratio mantissa exponent
    let (top', bottom') := ratio mantissa' exponent'
    let left : Int := if negative then -(top : Int) else top
    let right : Int := if negative' then -(top' : Int) else top'
    Ord.compare (left * bottom') (right * bottom)

/-- Compares a whole number with a double by their exact values. -/
def compareInt (n : Int) : Binary → Ordering
  | undefined => .lt
  | infinite negative => if negative then .gt else .lt
  | finite negative mantissa exponent =>
    let (top, bottom) := ratio mantissa exponent
    Ord.compare (n * bottom) (if negative then -(top : Int) else top)

end Binary

end PageServer.Decimal
