import PageServer.Datum
import PageServer.Fields

/-! Diagnostics: a coded message with hints and details. -/

namespace PageServer

/-- How grave a diagnostic is, and whose fault. -/
inductive Severity where
  /-- Something the checker should have ruled out. -/
  | fatal
  /-- A failure no checker can rule out. -/
  | error
  /-- Something the user sent. -/
  | user
  deriving DecidableEq, Repr

namespace Severity

/-- A severity as it is written. -/
def name : Severity → String
  | fatal => "fatal"
  | error => "error"
  | user => "user"

/-- The severity that is written this way. -/
def ofName? (name : String) : Option Severity :=
  [fatal, error, user].find? fun severity => severity.name == name

/-- The severity that a datum names: only a text names one. -/
def ofDatum? : Datum → Option Severity
  | .text name => ofName? name
  | _ => none

/-- What is said of a datum that names no severity. -/
def refusal (name : Datum) : String := name.literal ++ " is not a valid ErrorSeverity"

end Severity

/-- A coded message. -/
structure Diagnostic where
  code : String
  message : String
  severity : Severity
  hints : List String := []
  details : Fields Datum := []

/-- A diagnostic for display: the message, then one line per hint. -/
def Diagnostic.format (diagnostic : Diagnostic) : String :=
  "\n".intercalate
    ((diagnostic.severity.name ++ "[" ++ diagnostic.code ++ "]: " ++ diagnostic.message) ::
      diagnostic.hints.map ("    = hint: " ++ ·))

end PageServer
