import PageServer.Text.Numeral

/-! Why a settings document cannot be read. -/

namespace PageServer.Yaml

/-- Why a document cannot be read. -/
inductive Fault where
  /-- A character that may not stand in a document. -/
  | character
  /-- Characters that make no token, the first that is wrong being at a place in the text. -/
  | scanner (place : Nat)
  /-- Tokens that make no document. -/
  | parser
  /-- An anchor that is unknown or repeated, or more than one document. -/
  | composer
  /-- A node that makes no datum of its tag. -/
  | constructor
  /-- A whole number that cannot be read. -/
  | numeral (fault : Text.NumeralFault)
  /-- A number without a single character. -/
  | emptyNumber
  /-- A text that is no double. -/
  | double (text : String)
  /-- A text that is no truth value. -/
  | truth (text : String)
  /-- A point in time that the calendar does not have. -/
  | calendar (message : String)
  /-- A text that is no point in time. -/
  | time
  /-- A point in time that is not written as a scalar. -/
  | timeKind (kind : String)
  /-- A double in sixties with more parts than its largest unit can have. -/
  | unit
  /-- A scalar that stands for itself. -/
  | endless
  /-- An escaped code beyond the last character. -/
  | code (code : Nat)
  deriving DecidableEq, Repr

/-- What is said of a document that cannot be read, where anything is. -/
def Fault.message? : Fault → Option String
  | character | scanner _ | parser | composer | constructor => none
  | numeral fault => some fault.message
  | emptyNumber => some "string index out of range"
  | double text => some ("could not convert string to float: " ++ Text.quoted text)
  | truth text => some text
  | calendar message => some message
  | time => some "'NoneType' object has no attribute 'groupdict'"
  | timeKind kind => some ("expected string or bytes-like object, got '" ++ kind ++ "'")
  | unit => some "int too large to convert to float"
  | endless => some "maximum recursion depth exceeded"
  | code number =>
    some (if number < 0x80000000 then "chr() arg not in range(0x110000)"
      else "Python int too large to convert to C int")

end PageServer.Yaml
