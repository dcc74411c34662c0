import PageServer.Store.Collation
import PageServer.Store.Conversion
import PageServer.Store.Formula
import PageServer.Store.Pattern

/-!
Operators on cells.

Comparisons have three outcomes, a missing operand making the outcome missing too. Before two cells
are compared, the affinity of a column or of a conversion on either side is applied to both.
-/

namespace PageServer.Store

open Decimal (Binary)

/-- Whether the letters of a word stand somewhere in another, in any case. -/
def holdsWord (word text : String) : Bool :=
  someEnd (fun rest => word.toList.isPrefixOf rest) (fold text).toList

/-- The affinity that the name of a type gives. -/
def Affinity.ofType (type : String) : Affinity :=
  -- The first word that is found decides, so the order of these tests matters.
  if holdsWord "int" type then .integer
  else if ["char", "clob", "text"].any fun word => holdsWord word type then .text
  else if holdsWord "blob" type then .none
  else if ["real", "floa", "doub"].any fun word => holdsWord word type then .real
  else .numeric

/-- The affinity under which two sides are compared: that of the one that has any, numbers first. -/
def Affinity.joint (left right : Option Affinity) : Option Affinity :=
  match left, right with
  -- Two columns of texts need no conversion, nor does a text beside a column of no kind.
  | some a, some b => some (if a.isNumeric || b.isNumeric then .numeric else .none)
  | some a, Option.none => some a
  | Option.none, b => b

/-- Makes two cells comparable: numbers are read from texts, or texts made of numbers. -/
def aligned (affinity : Option Affinity) (a b : Cell) : Cell × Cell :=
  match affinity with
  | some .text => (a.textual, b.textual)
  | some .none | Option.none => (a, b)
  | some _ => (a.numeric, b.numeric)

/-- What compares two cells. -/
structure Comparison where
  affinity : Option Affinity
  collation : Collation

/-- The order of two cells, unless one is missing. -/
def Comparison.order? (comparison : Comparison) (a b : Cell) : Option Ordering :=
  if a == .null || b == .null then none
  else
    let (a, b) := aligned comparison.affinity a b
    some (comparison.collation.order a b)

/-- Whether an ordering satisfies a comparison operator. -/
def BinaryOp.admits : BinaryOp → Ordering → Bool
  | .eq, order | .is, order => order == .eq
  | .ne, order | .isNot, order => order != .eq
  | .lt, order => order == .lt
  | .le, order => order != .gt
  | .gt, order => order == .gt
  | .ge, order => order != .lt
  | _, _ => false

/-! Three-valued logic -/

/-- Both; a falsehood decides. -/
def both : Option Bool → Option Bool → Option Bool
  | some false, _ | _, some false => some false
  | some true, some true => some true
  | _, _ => none

/-- At least one; a truth decides. -/
def either : Option Bool → Option Bool → Option Bool
  | some true, _ | _, some true => some true
  | some false, some false => some false
  | _, _ => none

/-- A comparison of two cells. -/
def compareCells (op : BinaryOp) (comparison : Comparison) (a b : Cell) : Option Bool :=
  match op with
  | .is => some (same a b)
  | .isNot => some !(same a b)
  | _ => (comparison.order? a b).map op.admits
where
  /-- Whether two cells are the same, missing ones too. -/
  same (a b : Cell) : Bool :=
    -- Two missing cells are the same, although comparing them has no outcome.
    if a == .null || b == .null then a == b else comparison.order? a b == some .eq

/-- The strict form of an ordering operator. -/
def BinaryOp.strict : BinaryOp → BinaryOp
  | .le => .lt
  | .ge => .gt
  | other => other

/--
A comparison of several values with as many: by the first difference, or all together.

A value is looked at only if those before it leave the outcome open.
-/
def compareEach (op : BinaryOp) :
    List (Comparison × Except Fault Cell × Except Fault Cell) → Except Fault (Option Bool)
  -- Of no values all agree, which only these operators accept.
  | [] => .ok (some (op matches .eq | .is | .le | .ge))
  | [(comparison, left, right)] => do return compareCells op comparison (← left) (← right)
  | (comparison, left, right) :: rest => do
    let a ← left
    let b ← right
    match op with
    | .eq | .is =>
      match compareCells op comparison a b with
      | some false => return some false
      | here => return both here (← compareEach op rest)
    | .ne | .isNot =>
      match compareCells op comparison a b with
      | some true => return some true
      | here => return either here (← compareEach op rest)
    | _ =>
      -- Only the last pair, or the first that differs, is compared by the operator itself.
      match compareCells .eq comparison a b with
      | some true => compareEach op rest
      | _ => return compareCells op.strict comparison a b

/-! Arithmetic -/

/--
The number that a numeral stands for in arithmetic.

Plain digits give a whole number if it fits, also with something after them.
-/
def Numeral.number (numeral : Numeral) : Cell :=
  -- A mark of an exponent without digits counts only together with a point.
  let marked := !numeral.isPlain
  let formed := numeral.exponent != some none || numeral.fraction.isSome
  -- A numeral of plain digits stays whole even if something else follows it.
  if marked && formed && numeral.hasDigit then .real numeral.value
  else if fits numeral.integer then .int numeral.integer
  else .real numeral.value

namespace Cell

/-- A cell as a number. -/
def number : Cell → Cell
  | .text content => (Numeral.read content.toList).number
  | .blob bytes => (Numeral.read (byteChars bytes)).number
  | .flag value => .int (if value then 1 else 0)
  | other => other

/-- A cell converted to a type. -/
def cast (affinity : Affinity) (cell : Cell) : Cell :=
  if cell == .null then .null
  else
    match affinity with
    | .integer => .int cell.whole
    | .real => .real cell.double
    | .text => .text (cell.text?.getD "")
    | .none =>
      match cell with
      | .blob bytes => .blob bytes
      -- Any other cell becomes the bytes of its text.
      | other => .blob (other.text?.getD "").toUTF8.toList
    | .numeric =>
      match cell with
      | .int _ | .real _ => cell
      | other =>
        match other.number with
        -- A double that is a whole number becomes one.
        | .real value => ((smallInt? value).map .int).getD (.real value)
        | whole => whole

end Cell

/-- A whole number, or the double nearest to it if it does not fit. -/
def wholeOr (n : Int) (fallback : Binary) : Cell := if fits n then .int n else .ofDouble fallback

/-- The remainder of whole numbers, with the sign of the first. -/
def remainder (a b : Int) : Int := if b = -1 then 0 else a.tmod b

/-- Arithmetic on two cells, neither of them missing. -/
def arithmetic (op : BinaryOp) (a b : Cell) : Cell :=
  match op, a.number, b.number with
  | .add, .int m, .int n => wholeOr (m + n) (a.number.double.add b.number.double)
  | .subtract, .int m, .int n => wholeOr (m - n) (a.number.double.sub b.number.double)
  | .multiply, .int m, .int n => wholeOr (m * n) (a.number.double.mul b.number.double)
  | .divide, .int m, .int n =>
    -- Division by zero is not a fault: its result is missing.
    if n = 0 then .null else wholeOr (m.tdiv n) (a.number.double.div b.number.double)
  -- The remainder is one of whole numbers, even between doubles.
  | .remainder, .int m, .int n => if n = 0 then .null else .int (remainder m n)
  | .remainder, _, _ =>
    let divisor := b.whole
    if divisor = 0 then .null else .ofDouble (.ofInt (remainder a.whole divisor))
  | .add, x, y => .ofDouble (x.double.add y.double)
  | .subtract, x, y => .ofDouble (x.double.sub y.double)
  | .multiply, x, y => .ofDouble (x.double.mul y.double)
  | .divide, x, y => if y.double.isZero then .null else .ofDouble (x.double.div y.double)
  | _, _, _ => .null

/-- A 64-bit number shifted to the left, or to the right if the amount is negative. -/
def shifted (n amount : Int) : Int :=
  if amount ≥ 0 then
    -- No bit is left after a shift by all of them.
    if amount ≥ 64 then 0 else Int.bmod (n * (Nat.pow 2 amount.toNat : Int)) 18446744073709551616
  -- A sign fills what is shifted in from the left.
  else if amount ≤ -64 then (if n < 0 then -1 else 0)
  else n.fdiv (Nat.pow 2 (-amount).toNat : Int)

/-- The bits of a number as one without sign. -/
def bits (n : Int) : Nat := (Int.emod n 18446744073709551616).toNat

/-- The number with the given bits. -/
def ofBits (n : Nat) : Int := Int.bmod n 18446744073709551616

/-- An operator on the bits of two cells, neither of them missing. -/
def bitwise (op : BinaryOp) (a b : Cell) : Cell :=
  match op with
  | .bitAnd => .int (ofBits (bits a.whole &&& bits b.whole))
  | .bitOr => .int (ofBits (bits a.whole ||| bits b.whole))
  | .shiftLeft => .int (shifted a.whole b.whole)
  | .shiftRight => .int (shifted a.whole (-b.whole))
  | _ => .null

/-- An operator on the values of its operands that compares nothing. -/
def combine (op : BinaryOp) (a b : Cell) : Cell :=
  -- Whatever the operator is, a missing operand makes the result missing.
  if a == .null || b == .null then .null
  else
    match op with
    | .add | .subtract | .multiply | .divide | .remainder => arithmetic op a b
    | .concat => .text (a.text?.getD "" ++ b.text?.getD "")
    | _ => bitwise op a b

/-- An operator before its operand. -/
def applyUnary (op : UnaryOp) (cell : Cell) : Cell :=
  match op with
  | .not => .ofTruth (cell.truth?.map (!·))
  | .plus => cell
  | .negate =>
    match cell with
    | .null => .null
    | .real value => .real value.neg
    -- The least whole number has no opposite of its kind, and so becomes a double.
    | other => arithmetic .subtract (.int 0) other
  | .complement => if cell == .null then .null else .int (-cell.whole - 1)

end PageServer.Store
