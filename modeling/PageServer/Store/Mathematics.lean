import PageServer.Store.Conversion

/-!
Mathematical functions on cells.

They take whole numbers, doubles, and texts that spell one; of anything else the result is missing,
as it is where a function has no value. Those that are not computed exactly come from the machine's
own arithmetic on doubles.
-/

namespace PageServer.Decimal.Binary

/-- The bits of a double in the machine. -/
def toBits : Binary → UInt64
  | undefined => 0x7FF8000000000000
  | infinite negative => signed negative 0x7FF0000000000000
  | finite negative mantissa exponent =>
    -- A double with a shorter mantissa is one of the least exponent, which is written as zero.
    if mantissa < leastMantissa then signed negative mantissa
    else signed negative ((exponent + 1075).toNat * leastMantissa + (mantissa - leastMantissa))
where
  /-- Bits with the sign in front. -/
  signed (negative : Bool) (bits : Nat) : UInt64 :=
    UInt64.ofNat (if negative then bits + 9223372036854775808 else bits)

/-- The double of the machine's bits. -/
def ofBits (bits : UInt64) : Binary :=
  let negative := bits.toNat / 9223372036854775808 = 1
  let exponent := bits.toNat / leastMantissa % 2048
  let mantissa := bits.toNat % leastMantissa
  -- The two extreme exponents are reserved: for the infinities, and for the small numbers.
  if exponent = 2047 then if mantissa = 0 then infinite negative else undefined
  else if exponent = 0 then finite negative mantissa leastExponent
  else finite negative (mantissa + leastMantissa) ((exponent : Int) - 1075)

/-- A function of the machine's doubles on doubles. -/
def viaMachine (function : Float → Float) (x : Binary) : Binary :=
  ofBits (function (Float.ofBits x.toBits)).toBits

/-- A function of two of the machine's doubles on doubles. -/
def viaMachine₂ (function : Float → Float → Float) (x y : Binary) : Binary :=
  ofBits (function (Float.ofBits x.toBits) (Float.ofBits y.toBits)).toBits

/-- A whole number as a double that keeps a sign where the number is zero. -/
def ofSigned (negative : Bool) (n : Int) : Binary := ofSignedRatio negative n 1

/-- The nearest whole number on one side: towards zero, downwards or upwards. -/
def integral (down up : Bool) : Binary → Binary
  | finite negative mantissa exponent =>
    let (top, bottom) := ratio mantissa exponent
    -- The size goes up by one where the side asked for lies away from zero.
    let away := top % bottom ≠ 0 && (if negative then down else up)
    let size := top / bottom + (if away then 1 else 0)
    ofSigned negative (if negative then -(size : Int) else size)
  | other => other

/-- The remainder of a division towards zero, with the sign of the dividend. -/
def fmod : Binary → Binary → Binary
  | undefined, _ | _, undefined | infinite _, _ => undefined
  | x, infinite _ => x
  | finite negative mantissa exponent, finite _ mantissa' exponent' =>
    if mantissa' = 0 then undefined
    else
      let (top, bottom) := ratio mantissa exponent
      let (top', bottom') := ratio mantissa' exponent'
      -- Over the common denominator the remainder is one of whole numbers, and exact.
      let rest := (top * bottom') % (top' * bottom)
      ofSignedRatio negative (if negative then -(rest : Int) else rest) (bottom * bottom')

end PageServer.Decimal.Binary

namespace PageServer.Store

open Decimal (Binary)

/-- The double that a cell is or spells. -/
def Cell.numericDouble? (cell : Cell) : Option Binary :=
  match cell.numeric with
  | .int n => some (.ofInt n)
  | .real value => some value
  | .flag value => some (.ofInt (if value then 1 else 0))
  | _ => none

/-- A function of one double on a cell. -/
def onDouble (function : Binary → Binary) (cell : Cell) : Cell :=
  match cell.numericDouble? with
  | some value => .ofDouble (function value)
  | none => .null

/-- A function of two doubles on cells. -/
def onDoubles (function : Binary → Binary → Binary) (a b : Cell) : Cell :=
  match a.numericDouble?, b.numericDouble? with
  | some x, some y => .ofDouble (function x y)
  | _, _ => .null

/-- A whole number on one side of a cell; whole numbers stay what they are. -/
def integralOf (down up : Bool) (cell : Cell) : Cell :=
  match cell.numeric with
  -- A whole number is not turned into a double, which might round it.
  | .int n => .int n
  | .real value => .real (value.integral down up)
  | _ => .null

/-- The sign of a cell. -/
def signOf (cell : Cell) : Cell :=
  match cell.numericDouble? with
  | some value => .int (if isNegative value then -1 else if value.isZero then 0 else 1)
  | none => .null

/-- The ratio of a half circle to its radius. -/
def pi : Binary := .finite false 7074237752028440 (-51)

/-- A logarithm divided by that of a base; only positive numbers have one. -/
def logarithm (base : Binary) (cell : Cell) : Cell :=
  match cell.numericDouble? with
  | some value =>
    if isNegative value || value.isZero then .null
    else .ofDouble ((value.viaMachine Float.log).div base)
  | none => .null

/-- The logarithm of a cell to a base that is a cell, which must be above one. -/
def logarithmTo (base cell : Cell) : Cell :=
  match base.numericDouble? with
  | some value =>
    let divisor := value.viaMachine Float.log
    let power := cell.double
    -- A divisor of zero or below comes from a base that is not above one.
    let positive (x : Binary) : Bool := !isNegative x && !x.isZero
    if positive value && positive divisor && positive power then
      .ofDouble ((power.viaMachine Float.log).div divisor)
    else .null
  | none => .null

/-- The natural logarithm of a whole number. -/
def naturalLogarithm (n : Nat) : Binary := (Binary.ofInt n).viaMachine Float.log

/-- Degrees of a full turn's half over the same in radians, or the other way round. -/
def halfTurn : Binary := .ofInt 180

/-- The mathematical function of a name on one cell, if there is one. -/
def mathematics? (name : String) : Option (Cell → Cell) :=
  match name with
  | "ceil" | "ceiling" => some (integralOf false true)
  | "floor" => some (integralOf true false)
  | "trunc" => some (integralOf false false)
  | "sign" => some signOf
  | "ln" => some (logarithm (.ofInt 1))
  | "log" | "log10" => some (logarithm (naturalLogarithm 10))
  | "log2" => some (logarithm (naturalLogarithm 2))
  | "sqrt" => some (onDouble (·.viaMachine Float.sqrt))
  | "exp" => some (onDouble (·.viaMachine Float.exp))
  | "acos" => some (onDouble (·.viaMachine Float.acos))
  | "asin" => some (onDouble (·.viaMachine Float.asin))
  | "atan" => some (onDouble (·.viaMachine Float.atan))
  | "cos" => some (onDouble (·.viaMachine Float.cos))
  | "sin" => some (onDouble (·.viaMachine Float.sin))
  | "tan" => some (onDouble (·.viaMachine Float.tan))
  | "acosh" => some (onDouble (·.viaMachine Float.acosh))
  | "asinh" => some (onDouble (·.viaMachine Float.asinh))
  | "atanh" => some (onDouble (·.viaMachine Float.atanh))
  | "cosh" => some (onDouble (·.viaMachine Float.cosh))
  | "sinh" => some (onDouble (·.viaMachine Float.sinh))
  | "tanh" => some (onDouble (·.viaMachine Float.tanh))
  | "radians" => some (onDouble (·.mul (pi.div halfTurn)))
  | "degrees" => some (onDouble (·.mul (halfTurn.div pi)))
  | _ => none

/-- A cell rounded to so many places after the point. -/
def roundedTo (places : Nat) (cell : Cell) : Cell :=
  let value := cell.double
  -- Beyond this magnitude a double has no fraction.
  let bound : Int := 4503599627370496
  if cell == .null then .null
  else if Binary.compareInt bound value = .lt || Binary.compareInt (-bound) value = .gt then
    .ofDouble value
  else if places = 0 then
    let half : Binary := .finite (isNegative value) Binary.leastMantissa (-53)
    .ofDouble (.ofInt ((value.add half).truncate?.getD 0))
  else
    let layout : Layout := { form := .fixed, precision := min places 30, full := true }
    .ofDouble (leadingDouble (layout.text value))

end PageServer.Store
