import PageServer.Text.Digits
import PageServer.Text.Quoted

/-! Reading and writing whole numbers as text, in decimal within a limit on their length. -/

namespace PageServer.Text

/-- The most digits a whole number may have when it is read or written in decimal. -/
def digitLimit : Nat := 4300

/-- Why a text is not read as a whole number. -/
inductive NumeralFault where
  /-- The text is no numeral in its base. -/
  | malformed (base : Nat) (text : String)
  /-- The numeral has more digits than the limit. -/
  | tooLong (digits : Nat)
  deriving DecidableEq, Repr

/-- What the reader says of a text it refuses; the quoted text is cut at 200 characters. -/
def NumeralFault.message : NumeralFault → String
  | .malformed base text =>
    "invalid literal for int() with base " ++ toString base ++ ": " ++
      String.ofList ((quoted text).toList.take 200)
  | .tooLong digits =>
    "Exceeds the limit (4300 digits) for integer string conversion: value has " ++
      toString digits ++ " digits; use sys.set_int_max_str_digits() to increase the limit"

/-- The value of a digit: decimal digits of any script, and letters from ten on. -/
def digitIn? (base : Nat) (c : Char) : Option Nat :=
  let value :=
    if 'a' ≤ c && c ≤ 'z' then some (c.toNat - 'a'.toNat + 10)
    else if 'A' ≤ c && c ≤ 'Z' then some (c.toNat - 'A'.toNat + 10)
    else digit? c
  value.filter (· < base)

/-- Whether underscores stand singly and between digits; `fresh` says none may come now. -/
def separated (fresh : Bool) : List Char → Bool
  | [] => true
  | ['_'] => false
  | c :: rest => if c = '_' then !fresh && separated true rest else separated false rest

/-- The number whose digits in a base these are. -/
def ofDigitsIn (base : Nat) (digits : List Nat) : Nat :=
  digits.foldl (fun value d => value * base + d) 0

/-- The number whose decimal digits these are. -/
def ofDigits (digits : List Nat) : Nat := ofDigitsIn 10 digits

/-- Splits an optional sign from a text; true is negative. -/
def splitSign : List Char → Bool × List Char
  | '-' :: rest => (true, rest)
  | '+' :: rest => (false, rest)
  | rest => (false, rest)

/-- The letter that marks a base other than ten after a zero. -/
def baseMark? : Nat → Option Char
  | 2 => some 'b'
  | 8 => some 'o'
  | 16 => some 'x'
  | _ => none

/-- Drops the mark of the base, and one underscore after it. -/
def dropMark (base : Nat) : List Char → List Char
  | '0' :: c :: rest =>
    if baseMark? base = some c.toLower then
      match rest with
      | '_' :: after => after
      | _ => rest
    else '0' :: c :: rest
  | text => text

/--
Reads a whole number in a base: blanks around it, a sign, and digits with single underscores
between them.

A misplaced underscore is seen first, then too many digits, then anything that should not be there.
-/
def readIntIn (base : Nat) (text : String) : Except NumeralFault Int :=
  let (negative, body) := splitSign (text.toList.dropWhile isBlank)
  let body := dropMark base body
  let isPart (c : Char) : Bool := c == '_' || (digitIn? base c).isSome
  let run := body.takeWhile isPart
  let after := (body.dropWhile isPart).dropWhile isBlank
  let digits := run.filterMap (digitIn? base)
  if !separated true run then .error (.malformed base text)
  -- Only decimal is limited: other bases are read in a time that grows with their length.
  else if base = 10 && digits.length > digitLimit then .error (.tooLong digits.length)
  else if digits.isEmpty || !after.isEmpty then .error (.malformed base text)
  else .ok (if negative then -(ofDigitsIn base digits : Int) else ofDigitsIn base digits)

/-- Reads a whole number in decimal. -/
def readInt (text : String) : Except NumeralFault Int := readIntIn 10 text

/-- A whole number in decimal. -/
def decimal (n : Int) : String := toString n

/-- Whether a whole number is within the limit on digits. -/
def withinLimit (n : Int) : Bool := n.natAbs < Nat.pow 10 digitLimit

/-- A whole number in hexadecimal, with a leading `0x`. -/
def hexadecimal (n : Int) : String :=
  (if n < 0 then "-0x" else "0x") ++ String.ofList (Nat.toDigits 16 n.natAbs)

end PageServer.Text
