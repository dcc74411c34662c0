import PageServer.Decimal.Shortest
import PageServer.Store.Layout

/-! Stored values: how a column takes them in, and how they compare. -/

namespace PageServer.Store

open Decimal (Binary)

/-- A stored value. -/
inductive Cell where
  | null
  | int (value : Int)
  | real (value : Binary)
  | text (text : String)
  | blob (bytes : List UInt8)
  | flag (value : Bool)
  deriving DecidableEq, Repr

/-- The name of a stored value's kind, as messages give it. -/
def Cell.kind : Cell → String
  | null => "NoneType"
  | int _ => "int"
  | real _ => "float"
  | text _ => "str"
  | blob _ => "bytes"
  | flag _ => "bool"

/-- What a column, or a converted value, prefers to be. -/
inductive Affinity where
  /-- No preference. -/
  | none
  | text
  | numeric
  | integer
  | real
  deriving DecidableEq, Repr

/-- Whether numbers are preferred. -/
def Affinity.isNumeric : Affinity → Bool
  | numeric | integer | real => true
  | none | text => false

/-- Whether a cell is a whole number that does not fit. -/
def Cell.overflows : Cell → Bool
  | .int n => !fits n
  | _ => false

/--
The number that a text spells, blanks around it aside.

Plain digits give a whole number if it fits; a point, an exponent or a larger number gives a double.
-/
def readNumber? (text : String) : Option Cell :=
  let numeral := Numeral.read text.toList
  if !numeral.isWhole then none
  -- Only digits alone can give a whole number: 1.0 and 1e0 are doubles.
  else if numeral.isPlain then
    -- Small numbers are read through a double, and larger ones by their digits.
    match smallInt? numeral.value with
    | some n => some (.int n)
    | none =>
      if fits numeral.integer then some (.int numeral.integer) else some (.real numeral.value)
  else some (.real numeral.value)

/-- Bytes as characters, one each. -/
def byteChars (bytes : List UInt8) : List Char := bytes.map fun byte => Char.ofNat byte.toNat

namespace Cell

/-- A cell read as a number where it spells one. -/
def numeric : Cell → Cell
  | .text content => (readNumber? content).getD (.text content)
  | other => other

/-- A double that equals a whole number strictly inside the 64-bit range, as that number. -/
def rounded : Cell → Cell
  | .real value =>
    match value.toInt? with
    -- Strictly inside, since a double at either end may stand for a number beyond it.
    | some n => if leastInt < n && n < greatestInt then .int n else .real value
    | none => .real value
  | other => other

/-- A number as text. -/
def textual : Cell → Cell
  | .int n => .text (Text.decimal n)
  | .real value => .text (doubleText value)
  | other => other

/-- Whether a cell counts as true, unless it is missing; a text is the number at its start. -/
def truth? : Cell → Option Bool
  | .null => Option.none
  | .int n => some (n != 0)
  | .real x => some !x.isZero
  -- A text that spells no number at its start is read as zero, so it is false.
  | .text content => some !(leadingDouble content).isZero
  | .blob bytes => some !(Numeral.read (byteChars bytes)).value.isZero
  | .flag value => some value

end Cell

/-- A cell as a column of the given affinity takes it in. -/
def Affinity.admit : Affinity → Cell → Cell
  | .none, cell => cell
  | .text, cell => cell.textual
  | _, cell => cell.numeric.rounded

namespace Cell

/-- Missing values come first, then numbers, then texts, then bytes. -/
def rank : Cell → Nat
  | null => 0
  | int _ | real _ | flag _ => 1
  | text _ => 2
  | blob _ => 3

/-- The order of two cells: by rank, numbers by value, texts by code point. -/
def order (a b : Cell) : Ordering :=
  match a, b with
  | int m, int n => compare m n
  -- Numbers of both kinds are compared exactly, neither being rounded to the other.
  | int m, real y => Binary.compareInt m y
  | real x, int n => (Binary.compareInt n x).swap
  | real x, real y => x.compare y
  | text s, text t => compare s t
  | blob s, blob t => compare (String.ofList (byteChars s)) (String.ofList (byteChars t))
  -- Here the kinds differ, or both are missing: the rank alone decides.
  | _, _ => compare a.rank b.rank

end Cell

end PageServer.Store
