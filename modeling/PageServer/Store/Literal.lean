import PageServer.Store.Formula
import PageServer.Store.Reading

/-! Tokens that are formulas on their own: placeholders, numbers, texts and bytes. -/

namespace PageServer.Store

namespace Parse

/-- The most placeholders of a statement. -/
def placeholderLimit : Nat := 250000

/-- Takes the next number for a placeholder. -/
def nextPlaceholder (state : Parsing) (names : Fields Nat) : Parse Nat := do
  let next := state.highest + 1
  if next > placeholderLimit then note .placeholderCount
  else set { state with highest := next, names }
  return next

/-- The number of a placeholder: its own, that of its name, or the next one. -/
def placeholder (text : String) : Parse Nat := do
  let state ← get
  match text.toList with
  | ['?'] => nextPlaceholder state state.names
  | '?' :: digits => do
    let number := Text.ofDigits (digits.map digitValue)
    if number = 0 || number > placeholderLimit then note .placeholderNumber
    else set { state with highest := max state.highest number }
    return number
  | '#' :: c :: _ =>
    -- Such a mark belongs to the store itself, which is found out after it was read.
    if c.isDigit then do
      note (.unexpected text)
      return 0
    else named state
  | _ => named state
where
  /-- The number of a placeholder with a name. -/
  named (state : Parsing) : Parse Nat := do
    match state.names.get? text with
    | some number => return number
    | none => nextPlaceholder state (state.names ++ [(text, state.highest + 1)])

/-- The value of hexadecimal digits as a signed 64-bit number. -/
def wrapped (n : Nat) : Int :=
  if n < 9223372036854775808 then n else (n : Int) - 18446744073709551616

/-- A whole number as it is written; too large in decimal, it is a double. -/
def integer (negative : Bool) (text : String) : Formula :=
  match text.toList with
  | '0' :: x :: digits =>
    if x == 'x' || x == 'X' then
      -- Zeros in front do not count towards the sixteen digits.
      let significant := digits.dropWhile (· == '0')
      let value := wrapped (Text.ofDigitsIn 16 (digits.filterMap (Text.digitIn? 16)))
      let written := if negative then "-" ++ text else text
      if significant.length > 16 || (negative && value = leastInt) then .longHexadecimal written
      else .literal (.int (if negative then -value else value))
    else decimal (Numeral.read text.toList)
  | _ => decimal (Numeral.read text.toList)
where
  /-- A whole number in decimal, after its sign. -/
  decimal (numeral : Numeral) : Formula :=
    let signed := { numeral with negative }
    .literal (if fits signed.integer then .int signed.integer else .real signed.value)

/-- The bytes of a blob literal. -/
def blobBytes : List Char → List UInt8
  | a :: b :: rest =>
    match Text.digitIn? 16 a, Text.digitIn? 16 b with
    | some high, some low => (high * 16 + low).toUInt8 :: blobBytes rest
    | _, _ => []
  | _ => []

/-- A token that is a formula on its own. -/
def literal? (token : Token) : Option Formula :=
  match token.kind with
  | .integer => some (integer false token.text)
  | .float => some (.literal (.real (leadingDouble token.text)))
  | .string content => some (.literal (.text content))
  | .blob => some (.literal (.blob (blobBytes (token.text.toList.drop 2))))
  | .word =>
    if token.isWord "null" then some (.literal .null)
    else if token.isWord "current_time" || token.isWord "current_date" ||
        token.isWord "current_timestamp" then some (.clock (fold token.text))
    else none
  | _ => none

end Parse

end PageServer.Store
