import PageServer.Decimal.Arithmetic
import PageServer.Decimal.Extended
import PageServer.Text.Numeral

/-! Numbers as the store reads them from text. -/

namespace PageServer.Store

open Decimal (Binary Extended)

/-- The blanks that may stand around a stored number. -/
def isSpace (c : Char) : Bool := c == ' ' || (0x09 ≤ c.toNat && c.toNat ≤ 0x0D)

/-- The value of an ASCII digit. -/
def digitValue (c : Char) : Nat := c.toNat - '0'.toNat

/-- The least whole number a cell can hold. -/
def leastInt : Int := -9223372036854775808

/-- The greatest whole number a cell can hold. -/
def greatestInt : Int := 9223372036854775807

/-- Whether a whole number fits a cell. -/
def fits (n : Int) : Bool := leastInt ≤ n && n ≤ greatestInt

/-- A number that stands at the start of a text. -/
structure Numeral where
  negative : Bool
  /-- All digits before the point. -/
  whole : List Nat
  /-- The digits after the point, if there is a point. -/
  fraction : Option (List Nat)
  /-- The exponent, if it is marked; nothing inside if no digit follows the mark. -/
  exponent : Option (Option Int)
  /-- What follows the number and any blanks after it. -/
  rest : List Char
  deriving DecidableEq, Repr

namespace Numeral

/-- The exponent that digits spell; it stops growing at ten thousand. -/
def exponentValue (digits : List Nat) : Nat :=
  digits.foldl (fun value d => if value < 10000 then value * 10 + d else 10000) 0

/-- The number at the start of a text, blanks before it aside. -/
def read (text : List Char) : Numeral :=
  let (negative, body) := Text.splitSign (text.dropWhile isSpace)
  let whole := body.takeWhile Char.isDigit
  let after := body.dropWhile Char.isDigit
  -- A point with no digit on one side still belongs to the number.
  let (fraction, after) := match after with
    | '.' :: rest =>
      (some ((rest.takeWhile Char.isDigit).map digitValue), rest.dropWhile Char.isDigit)
    | _ => (none, after)
  -- A mark without digits is read all the same: it spoils the number only as a whole text.
  let (exponent, after) := match after with
    | c :: rest =>
      if c == 'e' || c == 'E' then
        let (down, rest) := Text.splitSign rest
        let digits := (rest.takeWhile Char.isDigit).map digitValue
        let size : Int := exponentValue digits
        (some (if digits.isEmpty then none else some (if down then -size else size)),
          rest.dropWhile Char.isDigit)
      else (none, after)
    | [] => (none, after)
  { negative, whole := whole.map digitValue, fraction, exponent, rest := after.dropWhile isSpace }

/-- Whether the number has any digit before its exponent. -/
def hasDigit (numeral : Numeral) : Bool :=
  !numeral.whole.isEmpty || !(numeral.fraction.getD []).isEmpty

/-- Whether the whole text is the number. -/
def isWhole (numeral : Numeral) : Bool :=
  numeral.hasDigit && numeral.rest.isEmpty && numeral.exponent != some none

/-- Whether the number has neither point nor exponent. -/
def isPlain (numeral : Numeral) : Bool := numeral.fraction.isNone && numeral.exponent.isNone

/-- The greatest significand that takes no more digits. -/
def significandLimit : Nat := 922337203685477579

/-- The significand of the digits before the point, and how many of them were passed over. -/
def takeWhole (significand : Nat) : List Nat → Nat × Nat
  | [] => (significand, 0)
  | d :: rest =>
    let next := significand * 10 + d
    -- The digits that are passed over only move the point.
    if next ≥ significandLimit then (next, rest.length) else takeWhole next rest

/-- The significand with the digits after the point, and how many of them were taken. -/
def takeFraction (significand : Nat) : List Nat → Nat × Nat
  | [] => (significand, 0)
  | d :: rest =>
    -- Past the limit the digits are dropped, and as they were not taken the point stays.
    if significand < significandLimit then
      let (final, taken) := takeFraction (significand * 10 + d) rest
      (final, taken + 1)
    else (significand, 0)

/-- Moves powers of ten from a positive exponent into the significand while it stays small. -/
def raise : Nat → Nat → Nat × Nat
  | significand, 0 => (significand, 0)
  | significand, exponent + 1 =>
    if significand ≥ 922337203685477580 then (significand, exponent + 1)
    else raise (significand * 10) exponent

/-- Moves zeros from the end of the significand into a negative exponent. -/
def lower : Nat → Nat → Nat × Nat
  | significand, 0 => (significand, 0)
  | significand, exponent + 1 =>
    if significand % 10 ≠ 0 then (significand, exponent + 1) else lower (significand / 10) exponent

/-- The double that a magnitude beyond the direct scale takes in two steps. -/
def twoSteps (negative : Bool) (significand : Nat) (down : Bool) (exponent : Nat) : Binary :=
  let scale := Extended.pow10 (exponent - 308)
  let rest : Binary := .ofDecimal false 1 308
  if down then (((Extended.ofNat significand).div scale).toBinary negative).div rest
  else (((Extended.ofNat significand).mul scale).toBinary negative).mul rest

/--
The double that the number stands for.

At most nineteen digits count, and powers of ten are scaled with sixty-four bits, so the result is
not always the double nearest to what is written.
-/
def value (numeral : Numeral) : Binary :=
  let (significand, passed) := takeWhole 0 numeral.whole
  let (significand, taken) := takeFraction significand (numeral.fraction.getD [])
  let written : Int := (numeral.exponent.join.getD 0) + passed - taken
  let down := written < 0
  if significand = 0 then .finite numeral.negative 0 Binary.leastExponent
  else
    let (significand, exponent) :=
      if down then lower significand written.natAbs else raise significand written.natAbs
    -- With no power of ten left the significand is rounded once, and exactly.
    if exponent = 0 then Binary.ofRatio numeral.negative significand 1
    else if exponent ≥ 342 then
      if down then .finite numeral.negative 0 Binary.leastExponent else .infinite numeral.negative
    -- The scale itself would not fit a double.
    else if exponent > 307 then twoSteps numeral.negative significand down exponent
    else
      let scale := Extended.pow10 exponent
      let scaled := if down then (Extended.ofNat significand).div scale
        else (Extended.ofNat significand).mul scale
      scaled.toBinary numeral.negative

/-- The digits before the point as a whole number. -/
def integer (numeral : Numeral) : Int :=
  let magnitude : Int := Text.ofDigits numeral.whole
  if numeral.negative then -magnitude else magnitude

end Numeral

/-- The double that the number at the start of a text stands for, zero if there is none. -/
def leadingDouble (text : String) : Binary := (Numeral.read text.toList).value

/-- The whole number nearest to a double, its fraction cut off, within the 64-bit range. -/
def clampInt (x : Binary) : Int :=
  match x with
  -- A number that is undefined counts as zero, an infinite one as the nearest bound.
  | .infinite negative => if negative then leastInt else greatestInt
  | other => max leastInt (min greatestInt (other.truncate?.getD 0))

/-- The whole number that a double equals within 51 bits. -/
def smallInt? (x : Binary) : Option Int :=
  match x.toInt? with
  | some n => if -2251799813685248 ≤ n && n < 2251799813685248 then some n else none
  | none => none

end PageServer.Store
