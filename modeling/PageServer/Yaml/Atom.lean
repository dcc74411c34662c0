import PageServer.Decimal.Arithmetic
import PageServer.Fields
import PageServer.Text.Base64
import PageServer.Text.Case
import PageServer.Text.Double
import PageServer.Yaml.Timestamp

/-! Scalars as data: the text of a scalar is read as its tag asks. -/

namespace PageServer.Yaml

/-- The parts of a text between colons. -/
def colonParts (text : String) : List String := text.splitOn ":"

/-- Splits the sign from a number, underscores dropped; a number needs a first character. -/
def signed (text : String) : Except Fault (Bool × String) :=
  match text.toList.filter (· != '_') with
  | [] => .error .emptyNumber
  | characters =>
    let (negative, body) := Text.splitSign characters
    .ok (negative, String.ofList body)

/-- A whole number in a base. -/
def wholeIn (base : Nat) (text : String) : Except Fault Int :=
  match Text.readIntIn base text with
  | .ok n => .ok n
  | .error fault => .error (.numeral fault)

/-- The value of whole parts in sixties, the last part first. -/
def wholeSixties (unit : Int) : List Int → Int
  | [] => 0
  | part :: rest => part * unit + wholeSixties (unit * 60) rest

/-- A whole number: binary, hexadecimal, octal after a zero, in sixties, or decimal. -/
def whole (text : String) : Except Fault Datum := do
  let (negative, body) ← signed text
  let n ← match body.toList with
    | [] => throw .emptyNumber
    | ['0'] => pure 0
    | '0' :: 'b' :: rest => wholeIn 2 (String.ofList rest)
    | '0' :: 'x' :: rest => wholeIn 16 (String.ofList rest)
    | '0' :: _ => wholeIn 8 body
    | characters =>
      -- A part after the first may be of any size: sixty is only how parts are weighted.
      if characters.contains ':' then do
        let parts ← (colonParts body).mapM (wholeIn 10)
        pure (wholeSixties 1 parts.reverse)
      else wholeIn 10 body
  return .int (if negative then -n else n)

/-- A double as it is written in decimal. -/
def doublePart (text : String) : Except Fault Decimal.Binary :=
  match Text.double? text with
  | some x => .ok x
  | none => .error (.double text)

/-- The value of parts in sixties, the last part first; a unit must itself be a double. -/
def doubleSixties (sum : Decimal.Binary) (unit : Int) :
    List Decimal.Binary → Except Fault Decimal.Binary
  | [] => .ok sum
  | part :: rest =>
    match Decimal.Binary.ofInt unit with
    -- The unit grows as a whole number, and is refused once it is no double.
    | .infinite _ => .error .unit
    | size => doubleSixties (sum.add (part.mul size)) (unit * 60) rest

/-- A double: infinite, undefined, in sixties, or decimal. -/
def double (text : String) : Except Fault Datum := do
  let (negative, body) ← signed (Text.lower text)
  let x ←
    if body == ".inf" then pure (.infinite false)
    else if body == ".nan" then pure .undefined
    else if body.toList.contains ':' then do
      let parts ← (colonParts body).mapM doublePart
      doubleSixties (.ofInt 0) 1 parts.reverse
    else doublePart body
  return .real (if negative then x.neg else x)

/-- A truth value. -/
def truth (text : String) : Except Fault Datum :=
  match Fields.get? Tag.truthWords (Text.lower text) with
  | some value => .ok (.bool value)
  | none => .error (.truth (Text.lower text))

/-- Bytes, written in ASCII characters. -/
def binary (text : String) : Except Fault Datum :=
  if text.toList.any fun c => 0x80 ≤ c.toNat then .error .constructor
  else
    match Text.base64? text.toList with
    | some bytes => .ok (.bytes bytes)
    | none => .error .constructor

/-- The datum of a text under a tag that is for scalars. -/
def atom (tag : Tag) (text : String) : Except Fault Datum :=
  match tag with
  | .null => .ok .null
  | .bool => truth text
  | .int => whole text
  | .float => double text
  | .timestamp => timestamp text
  | .str => .ok (.text text)
  | .binary => binary text
  | _ => .error .constructor

end PageServer.Yaml
