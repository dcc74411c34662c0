import PageServer.Decimal.Binary

/-! The shortest decimal that reads back as a given double, and its text. -/

namespace PageServer.Decimal

/-- The number of places before the point: the least power of ten above a positive ratio. -/
def leadingPlaces (numerator denominator : Nat) : Int :=
  if denominator ≤ numerator then (Nat.toDigits 10 (numerator / denominator)).length
  else
    -- Below one, count the powers of ten that still keep the ratio under one.
    let inverse := (denominator - 1) / numerator
    if inverse = 0 then 0 else 1 - ((Nat.toDigits 10 inverse).length : Int)

/-- The decimals that round to a double: its neighbourhood in quarters of its last place. -/
structure Neighbourhood where
  low : Nat
  value : Nat
  high : Nat
  /-- The power of two that one quarter stands for. -/
  exponent : Int
  /-- Whether the two ends belong to it. -/
  closed : Bool

/-- The neighbourhood of a finite double; below a power of two the spacing halves. -/
def neighbourhood (mantissa : Nat) (exponent : Int) : Neighbourhood :=
  let narrow := mantissa = Binary.leastMantissa && exponent > Binary.leastExponent
  { low := 4 * mantissa - (if narrow then 1 else 2)
    value := 4 * mantissa
    high := 4 * mantissa + 2
    exponent := exponent - 2
    closed := mantissa % 2 = 0 }

/-- Whether `candidate * 10 ^ power` lies in the neighbourhood. -/
def Neighbourhood.holds (near : Neighbourhood) (candidate : Nat) (power : Int) : Bool :=
  let (top, bottom) := scaleRatio 2 (-near.exponent) (scaleRatio 10 power (candidate, 1))
  if near.closed then near.low * bottom ≤ top && top ≤ near.high * bottom
  else near.low * bottom < top && top < near.high * bottom

/-- The decimal with so many digits that lies in the neighbourhood, the nearer of two. -/
def Neighbourhood.withDigits? (near : Neighbourhood) (places : Int) (count : Nat) :
    Option (Nat × Int) :=
  let power := places - count
  let (top, bottom) := scaleRatio 10 (-power) (scaleRatio 2 near.exponent (near.value, 1))
  let below := top / bottom
  let rest := top % bottom
  match near.holds below power, near.holds (below + 1) power with
  | true, false => some (below, power)
  | false, true => some (below + 1, power)
  | true, true =>
    if 2 * rest < bottom || (2 * rest = bottom && below % 2 = 0) then some (below, power)
    else some (below + 1, power)
  | false, false => none

/-- The shortest decimal that reads back as the double: digits and a power of ten. -/
def shortest (mantissa : Nat) (exponent : Int) : Nat × Int :=
  let near := neighbourhood mantissa exponent
  let (top, bottom) := Binary.ratio mantissa exponent
  let places := leadingPlaces top bottom
  ((List.range 17).findSome? fun fewer => near.withDigits? places (fewer + 1)).getD (mantissa, 0)

/-- Removes the zeros at the end of a digit string, one digit being kept. -/
def dropTrailingZeros (digits : List Char) : List Char :=
  match (digits.reverse.dropWhile (· == '0')).reverse with
  | [] => ['0']
  | kept => kept

/-- Writes an exponent with its sign and at least two digits. -/
def exponentText (exponent : Int) : List Char :=
  let digits := Nat.toDigits 10 exponent.natAbs
  (if exponent < 0 then '-' else '+') ::
    (if digits.length < 2 then '0' :: digits else digits)

/--
Lays out digits with the point after `places` of them.

Between four zeros after the point and sixteen places before it the number is positional and keeps
a digit on both sides of the point; outside that range it has an exponent.
-/
def layOut (digits : List Char) (places : Int) : List Char :=
  if places ≤ -4 || places > 16 then
    let fraction := digits.drop 1
    digits.take 1 ++ (if fraction.isEmpty then [] else '.' :: fraction) ++
      'e' :: exponentText (places - 1)
  else if places ≤ 0 then
    '0' :: '.' :: List.replicate (-places).toNat '0' ++ digits
  else
    let whole := places.toNat
    let fraction := digits.drop whole
    digits.take whole ++ List.replicate (whole - digits.length) '0' ++
      '.' :: (if fraction.isEmpty then ['0'] else fraction)

/-- The text of a double: the fewest digits that read back. -/
def Binary.text : Binary → String
  | .infinite negative => if negative then "-inf" else "inf"
  | .undefined => "nan"
  | .finite negative mantissa exponent =>
    let body :=
      if mantissa = 0 then ['0', '.', '0']
      else
        let (digits, power) := shortest mantissa exponent
        let written := Nat.toDigits 10 digits
        layOut (dropTrailingZeros written) (written.length + power)
    String.ofList (if negative then '-' :: body else body)

end PageServer.Decimal
