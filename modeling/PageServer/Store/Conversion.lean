import PageServer.Store.Cell
import PageServer.Store.Fault

/-! What functions and conversions make of cells. -/

namespace PageServer.Store

open Decimal (Binary)

namespace Cell

/-- The text of bytes, one character for each byte that is part of no character. -/
def bytesText (bytes : List UInt8) : String :=
  (String.fromUTF8? (ByteArray.mk bytes.toArray)).getD (String.ofList (byteChars bytes))

/-- The text that a cell stands for, unless it is missing. -/
def text? (cell : Cell) : Option String :=
  match cell.textual with
  | .text content => some content
  | .blob bytes => some (bytesText bytes)
  | .flag value => some (if value then "1" else "0")
  | _ => none

/-- The characters of the text that a cell stands for, up to a null character. -/
def chars? (cell : Cell) : Option (List Char) :=
  cell.text?.map fun content => content.toList.takeWhile (· != '\x00')

/-- The bytes that a cell stands for. -/
def bytes (cell : Cell) : List UInt8 :=
  match cell with
  | .blob bytes => bytes
  | other => (other.text?.getD "").toUTF8.toList

/-- The whole number that a cell starts with, cut to the 64-bit range. -/
def whole : Cell → Int
  | .int n => n
  | .real value => clampInt value
  | .text content => clamp (Numeral.read content.toList).integer
  | .blob bytes => clamp (Numeral.read (byteChars bytes)).integer
  | .flag value => if value then 1 else 0
  | .null => 0
where
  /-- The nearest number of the 64-bit range. -/
  clamp (n : Int) : Int := max leastInt (min greatestInt n)

/-- The lower thirty-two bits of the whole number that a cell starts with, with a sign. -/
def short (cell : Cell) : Int := Int.bmod cell.whole 4294967296

/-- The double that a cell stands for. -/
def double : Cell → Binary
  | .int n => .ofInt n
  | .real value => value
  | .text content => leadingDouble content
  | .blob bytes => (Numeral.read (byteChars bytes)).value
  | .flag value => .ofInt (if value then 1 else 0)
  | .null => .ofInt 0

/-- A truth value as a cell. -/
def ofTruth : Option Bool → Cell
  | none => .null
  | some value => .int (if value then 1 else 0)

/-- A double as a cell; an undefined one is missing. -/
def ofDouble : Binary → Cell
  | .undefined => .null
  | value => .real value

/-- The word for a cell's kind in the store's language. -/
def typeName : Cell → String
  | null => "null"
  | int _ | flag _ => "integer"
  | real _ => "real"
  | text _ => "text"
  | blob _ => "blob"

end Cell

end PageServer.Store
