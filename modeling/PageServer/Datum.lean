import PageServer.Calendar
import PageServer.Decimal.Shortest
import PageServer.Text.Numeral

/-! Loose data, as settings and limits are given: its text, its truth and its value as a number. -/

namespace PageServer

/-- A piece of loose data. -/
inductive Datum where
  | null
  | bool (value : Bool)
  | int (value : Int)
  | real (value : Decimal.Binary)
  | text (text : String)
  | list (items : List Datum)
  | map (entries : List (Datum × Datum))
  | bytes (bytes : List UInt8)
  | date (date : Date)
  | moment (moment : Moment)
  /-- Things without order, each once. -/
  | set (items : List Datum)
  /-- A collection of a kind inside itself, which is not followed again. -/
  | again (kind : String)
  deriving Inhabited

namespace Datum

/-- The name of a datum's kind, as messages give it. -/
def kind : Datum → String
  | null => "NoneType"
  | bool _ => "bool"
  | int _ => "int"
  | real _ => "float"
  | text _ => "str"
  | list _ => "list"
  | map _ => "dict"
  | bytes _ => "bytes"
  | date _ => "datetime.date"
  | moment _ => "datetime.datetime"
  | set _ => "set"
  | again kind => kind

/-- Whether a datum counts as true: everything but nothing, false, zero and the empty. -/
def truthy : Datum → Bool
  | null => false
  | bool value => value
  | int value => value != 0
  | real value => !value.isZero
  | text content => !content.isEmpty
  | list items => !items.isEmpty
  | map entries => !entries.isEmpty
  | bytes content => !content.isEmpty
  | set items => !items.isEmpty
  | date _ | moment _ | again _ => true

/-- Bytes as a literal: those that are visible characters for themselves, the others escaped. -/
def bytesLiteral (content : List UInt8) : String :=
  let characters := content.map fun byte => Char.ofNat byte.toNat
  let quote := Text.quoteFor characters
  let written := characters.flatMap fun c =>
    -- A byte beyond ASCII is no character of its own, visible or not.
    if c.toNat < 0x7F then Text.quotedChar quote c else '\\' :: 'x' :: Text.hexPadded 2 c.toNat
  String.ofList ('b' :: quote :: written ++ [quote])

mutual

/-- A datum as a literal: texts quoted, lists in brackets, maps in braces. -/
def literal : Datum → String
  | null => "None"
  | bool value => if value then "True" else "False"
  | int value => Text.decimal value
  | real value => value.text
  | text content => Text.quoted content
  | list items => "[" ++ ", ".intercalate (literals items) ++ "]"
  | map entries => "\x7b" ++ ", ".intercalate (entryLiterals entries) ++ "\x7d"
  | bytes content => bytesLiteral content
  | date found => found.text
  | moment found => found.text
  | set items =>
    if items.isEmpty then "set()" else "\x7b" ++ ", ".intercalate (literals items) ++ "\x7d"
  | again kind => if kind == "list" then "[...]" else "\x7b...\x7d"

/-- The literals of a list's items. -/
def literals : List Datum → List String
  | [] => []
  | item :: rest => item.literal :: literals rest

/-- The literals of a map's entries. -/
def entryLiterals : List (Datum × Datum) → List String
  | [] => []
  | (key, value) :: rest => (key.literal ++ ": " ++ value.literal) :: entryLiterals rest

end

/-- A datum as plain text: a text stands for itself, anything else for its literal. -/
def plain : Datum → String
  | text content => content
  | other => other.literal

/-- Why a datum is not read as a whole number. -/
inductive IntFault where
  | numeral (fault : Text.NumeralFault)
  /-- An infinite number has no whole part. -/
  | infinite
  /-- Nor has what is not a number. -/
  | undefined
  /-- Only texts and numbers are read. -/
  | kind (kind : String)
  deriving DecidableEq, Repr

/-- What is said of a datum that is not a whole number. -/
def IntFault.message : IntFault → String
  | .numeral fault => fault.message
  | .infinite => "cannot convert float infinity to integer"
  | .undefined => "cannot convert float NaN to integer"
  | .kind name =>
    "int() argument must be a string, a bytes-like object or a real number, not '" ++ name ++ "'"

/-- Reads a datum as a whole number; a fraction is cut off. -/
def toInt : Datum → Except IntFault Int
  | int value => .ok value
  | bool value => .ok (if value then 1 else 0)
  | real value =>
    match value.truncate? with
    | some n => .ok n
    | none => .error (if value = .undefined then .undefined else .infinite)
  | text content =>
    match Text.readInt content with
    | .ok n => .ok n
    | .error fault => .error (.numeral fault)
  | other => .error (.kind other.kind)

/-- The double among numbers. -/
def double? : Datum → Option Decimal.Binary
  | real value => some value
  | _ => none

/-- The whole number that a truth value or a whole number is. -/
def whole? : Datum → Option Int
  | bool value => some (if value then 1 else 0)
  | int value => some value
  | _ => none

/-- The order of two data by value, if both are numbers or truth values. -/
def orderNumbers (a b : Datum) : Option Ordering :=
  match a.whole?, a.double?, b.whole?, b.double? with
  | some m, _, some n, _ => some (compare m n)
  | some m, _, _, some y => some (Decimal.Binary.compareInt m y)
  | _, some x, some n, _ => some (Decimal.Binary.compareInt n x).swap
  | _, some x, _, some y => some (x.compare y)
  | _, _, _, _ => none

mutual

/--
Equality of data: numbers by value, whatever their kind; maps and sets in any order; the rest part by
part.

What is not a number is the same as itself.
-/
def same : Datum → Datum → Bool
  | null, null => true
  | text a, text b => a == b
  | bytes a, bytes b => a == b
  | date a, date b => a == b
  -- Moments are the same at one instant, however it is written.
  | moment a, moment b => a.comparable b && a.instant == b.instant
  | list as, list bs => sameAll as bs
  | map as, map bs => entriesAmong as bs && bs.all (hasEntry as)
  | set as, set bs => itemsAmong as bs && bs.all (hasItem as)
  | again a, again b => a == b
  | a, b => a.orderNumbers b == some .eq

/-- Equality item by item. -/
def sameAll : List Datum → List Datum → Bool
  | [], [] => true
  | a :: as, b :: bs => same a b && sameAll as bs
  | _, _ => false

/-- Whether one of the items is the same as a datum. -/
def hasItem : List Datum → Datum → Bool
  | [], _ => false
  | a :: as, b => same a b || hasItem as b

/-- Whether each item is the same as one of the others. -/
def itemsAmong : List Datum → List Datum → Bool
  | [], _ => true
  | a :: as, bs => bs.any (same a) && itemsAmong as bs

/-- Whether one of the entries has the key and the value of an entry. -/
def hasEntry : List (Datum × Datum) → Datum × Datum → Bool
  | [], _ => false
  | (a, x) :: as, entry => (same a entry.1 && same x entry.2) || hasEntry as entry

/-- Whether each entry has the key and the value of one of the others. -/
def entriesAmong : List (Datum × Datum) → List (Datum × Datum) → Bool
  | [], _ => true
  | (a, x) :: as, bs =>
    (bs.any fun entry => same a entry.1 && same x entry.2) && entriesAmong as bs

end

end Datum

end PageServer
