import PageServer.Store.Number

/-!
Numbers as the store writes them.

Digits are taken one by one from a number with sixty-four bits, so they are not always those of the
exact value.
-/

namespace PageServer.Store

open Decimal (Binary Extended)

/-- One digit from a number below ten, and ten times what is left of it. -/
def nextDigit (x : Extended) : Nat × Extended :=
  let digit := x.floor
  (digit, (x.sub (.ofNat digit)).mul (.ofNat 10))

/-- So many digits of a number below ten; beyond the supply they are zeros. -/
def digitsFrom : Nat → Nat → Extended → List Nat
  | 0, _, _ => []
  | count + 1, supply, x =>
    -- The number has no true digits left: what follows would be noise of the arithmetic.
    if supply = 0 then 0 :: digitsFrom count 0 x
    else
      let (digit, rest) := nextDigit x
      digit :: digitsFrom count (supply - 1) rest

/-- Multiplies a scale by a step while the number is not below the scaled bound. -/
def scaleUp (x bound step : Extended) (gain : Nat) : Nat → Extended × Nat → Extended × Nat
  | 0, state => state
  | fuel + 1, (scale, exponent) =>
    -- No double reaches the power 350, so the second test only ends a search in an infinity.
    if x.less (bound.mul scale) || exponent > 350 then (scale, exponent)
    else scaleUp x bound step gain fuel (scale.mul step, exponent + gain)

/-- Multiplies a number by a step while it is below a bound. -/
def liftUp (bound step : Extended) (loss : Nat) : Nat → Extended × Int → Extended × Int
  | 0, state => state
  | fuel + 1, (x, exponent) =>
    if x.less bound then liftUp bound step loss fuel (x.mul step, exponent - loss)
    else (x, exponent)

/-- A positive number as one below ten and at least one, and its power of ten. -/
def normalised (x : Extended) : Extended × Int :=
  let power (n : Nat) : Extended := .ofBinary (.ofDecimal false 1 n)
  let start : Extended × Nat := (.ofNat 1, 0)
  -- Coarse steps first: hundreds, then tens, then single powers of ten.
  let (scale, exponent) :=
    scaleUp x (power 1) (power 1) 1 400
      (scaleUp x (power 10) (power 10) 10 40 (scaleUp x (power 100) (power 100) 100 4 start))
  let small (n : Nat) : Extended := .ofBinary (.ofDecimal false 1 (-n))
  -- A number below one is lifted the same way, by eights and then by single powers.
  liftUp (.ofNat 1) (power 1) 1 400
    (liftUp (small 8) (power 8) 8 60 (x.div scale, exponent))

/-- Digits as characters. -/
def digitChars (digits : List Nat) : List Char := digits.map fun d => Char.ofNat ('0'.toNat + d)

/-- Which form a double is written in. -/
inductive Form where
  /-- All places before the point. -/
  | fixed
  /-- One place before the point, and an exponent. -/
  | scientific
  /-- With an exponent only for small and large numbers. -/
  | general
  deriving DecidableEq, Repr

/-- How a double is laid out. -/
structure Layout where
  form : Form
  /-- How many digits follow the point, or count at all in the general form. -/
  precision : Nat
  /-- Whether the point stays without digits after it, and zeros stay in the general form. -/
  alternate : Bool := false
  /-- Whether twenty-six digits are taken, not sixteen, and zeros at the end removed up to one. -/
  full : Bool := false
  /-- The mark before an exponent. -/
  mark : Char := 'e'
  deriving DecidableEq, Repr

namespace Layout

/-- Half a unit of the digit at a place after the point, counted from zero. -/
def half (place : Nat) : Binary :=
  let tenth : Binary := .ofDecimal false 1 (-10)
  (List.range (place / 10)).foldl (fun unit _ => unit.mul tenth)
    (.ofDecimal false 5 (-(place % 10 : Nat) - 1))

/-- What is added to a number before its digits are cut off, if it has so many after the point. -/
def rounder (precision : Nat) (mantissa : Nat) (exponent : Int) : Binary :=
  let unit := half (precision % 4096)
  -- The power of ten is estimated as a third of this binary one.
  let power : Int := if mantissa < Binary.leastMantissa then -1023 else exponent + 52
  if (precision : Int) + Int.tdiv power 3 < 15 then
    let slight : Extended := .ofBinary (.ofDecimal false 3 (-16))
    let value : Extended := .ofBinary (.finite false mantissa exponent)
    ((Extended.ofBinary unit).add (value.mul slight)).toBinary false
  else unit

/-- The exponent at the end of a number: its sign and at least two digits. -/
def exponentChars (mark : Char) (exponent : Int) : List Char :=
  let digits := Nat.toDigits 10 exponent.natAbs
  mark :: (if exponent < 0 then '-' else '+') ::
    (if digits.length < 2 then '0' :: digits else digits)

/-- The digits after a point without the zeros at their end. -/
def withoutZeros (digits : List Nat) : List Nat := (digits.reverse.dropWhile (· == 0)).reverse

/--
A number below ten times a power of ten as characters, with so many digits after the point.

The power moves the point, unless it is written at the end.
-/
def place (layout : Layout) (trimmed written : Bool) (precision : Nat) (x : Extended)
    (exponent : Int) : List Char :=
  let supply := if layout.full then 26 else 16
  let power := if written then 0 else exponent
  -- A negative power puts zeros between the point and the first digit.
  let places := (power + 1).toNat
  let zeros := min (-power - 1).toNat precision
  let digits := digitsFrom (places + (precision - zeros)) supply x
  let whole := if power < 0 then [0] else digits.take places
  let fraction := List.replicate zeros 0 ++ digits.drop places
  let pointed := precision > 0 || layout.alternate || layout.full
  let kept := if trimmed && pointed then withoutZeros fraction else fraction
  let fraction :=
    if !pointed then []
    else if trimmed && kept.isEmpty then if layout.full then ['.', '0'] else []
    else '.' :: digitChars kept
  digitChars whole ++ fraction ++ (if written then exponentChars layout.mark exponent else [])

/-- A finite number without its sign as characters. -/
def magnitude (layout : Layout) (mantissa : Nat) (exponent : Int) : List Char :=
  let value : Extended := .ofBinary (.finite false mantissa exponent)
  let scaled (x : Extended) : Extended × Int := if x.mantissa = 0 then (x, 0) else normalised x
  match layout.form with
  | .fixed =>
    let (x, power) := scaled (value.add (.ofBinary (rounder layout.precision mantissa exponent)))
    layout.place layout.full false layout.precision x power
  | .scientific =>
    let (x, power) := rounded (scaled value) layout.precision
    layout.place layout.full true layout.precision x power
  | .general =>
    let precision := layout.precision - 1
    let (x, power) := rounded (scaled value) precision
    -- Outside this range the exponent is shorter than the zeros it stands for.
    if power < -4 || power > precision then
      layout.place (!layout.alternate) true precision x power
    else layout.place (!layout.alternate) false (precision - power).toNat x power
where
  /-- A number below ten with half a unit of its last digit added. -/
  rounded (value : Extended × Int) (precision : Nat) : Extended × Int :=
    let x := value.1.add (.ofBinary (half (precision % 4096)))
    if x.less (.ofNat 10) then (x, value.2)
    -- Nine and more may round up to ten, which moves the point.
    else (x.mul (.ofBinary (.ofDecimal false 1 (-1))), value.2 + 1)

/-- The characters of a double without its sign; those of no number never are padded with zeros. -/
def chars (layout : Layout) : Binary → List Char
  | .undefined => "NaN".toList
  | .infinite _ => "Inf".toList
  | .finite _ mantissa exponent => layout.magnitude mantissa exponent

end Layout

/-- Whether a double is less than zero. -/
def isNegative : Binary → Bool
  | .undefined => false
  | .infinite negative => negative
  | .finite negative mantissa _ => negative && mantissa != 0

/-- A double in a layout, with a sign if it is less than zero. -/
def Layout.text (layout : Layout) (x : Binary) : String :=
  String.ofList (if isNegative x then '-' :: layout.chars x else layout.chars x)

/-- The layout of a double as text: fifteen digits, and at least one on each side of the point. -/
def plainLayout : Layout := { form := .general, precision := 15, full := true }

/-- A double as text. -/
def doubleText (x : Binary) : String := plainLayout.text x

end PageServer.Store
