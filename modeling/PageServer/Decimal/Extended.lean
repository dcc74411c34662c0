import PageServer.Decimal.Binary

/-!
Positive numbers with sixty-four significant bits, in which decimals are scaled before they are
rounded to doubles. Every operation gives the nearest such number to the exact result.
-/

namespace PageServer.Decimal

/-- A mantissa below two to the sixty-fourth times a power of two. -/
structure Extended where
  mantissa : Nat
  exponent : Int
  deriving DecidableEq, Repr

namespace Extended

/-- The least mantissa of a number other than zero: sixty-three zeros after a one. -/
def leastMantissa : Nat := 9223372036854775808

/-- The number zero. -/
def zero : Extended := ⟨0, 0⟩

/-- The number nearest to a ratio, a tie going to the even mantissa. -/
def ofRatio (numerator denominator : Nat) : Extended :=
  if numerator = 0 then zero
  else
    let power : Int := (numerator.log2 : Int) - denominator.log2
    -- The ratio lies on one side of two to that power or just below it.
    let (low, high) := scaleRatio 2 (-power) (numerator, denominator)
    let exponent := if high ≤ low then power - 63 else power - 64
    let (top, bottom) := scaleRatio 2 (-exponent) (numerator, denominator)
    let mantissa := roundDiv top bottom
    if mantissa = 2 * leastMantissa then ⟨leastMantissa, exponent + 1⟩ else ⟨mantissa, exponent⟩

/-- The number nearest to a whole number. -/
def ofNat (n : Nat) : Extended := ofRatio n 1

/-- The exact value as a ratio. -/
def ratio (x : Extended) : Nat × Nat := Binary.ratio x.mantissa x.exponent

/-- A positive double, which is always exact. -/
def ofBinary : Binary → Extended
  | .finite _ mantissa exponent =>
    let (top, bottom) := Binary.ratio mantissa exponent
    ofRatio top bottom
  | _ => zero

/-- The nearest double. -/
def toBinary (negative : Bool) (x : Extended) : Binary :=
  let (top, bottom) := x.ratio
  Binary.ofRatio negative top bottom

/-- The sum. -/
def add (x y : Extended) : Extended :=
  let (a, b) := x.ratio
  let (c, d) := y.ratio
  ofRatio (a * d + c * b) (b * d)

/-- The difference, zero if the second is greater. -/
def sub (x y : Extended) : Extended :=
  let (a, b) := x.ratio
  let (c, d) := y.ratio
  ofRatio (a * d - c * b) (b * d)

/-- The product. -/
def mul (x y : Extended) : Extended :=
  let (a, b) := x.ratio
  let (c, d) := y.ratio
  ofRatio (a * c) (b * d)

/-- The quotient. -/
def div (x y : Extended) : Extended :=
  let (a, b) := x.ratio
  let (c, d) := y.ratio
  ofRatio (a * d) (b * c)

/-- Whether the first is less than the second. -/
def less (x y : Extended) : Bool :=
  let (a, b) := x.ratio
  let (c, d) := y.ratio
  a * d < c * b

/-- The whole number left when the fraction is cut off. -/
def floor (x : Extended) : Nat :=
  let (top, bottom) := x.ratio
  top / bottom

/-- The powers of ten from one on, each the square of the one before, multiplied as `n` asks. -/
def pow10From : Nat → Nat → Extended → Extended → Extended
  | 0, _, _, product => product
  | fuel + 1, n, square, product =>
    let product := if n % 2 = 1 then product.mul square else product
    if n / 2 = 0 then product else pow10From fuel (n / 2) (square.mul square) product

/-- A power of ten by repeated squaring, each product rounded. -/
def pow10 (n : Nat) : Extended := pow10From (n + 1) n (ofNat 10) (ofNat 1)

end Extended

end PageServer.Decimal
