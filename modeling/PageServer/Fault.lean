import PageServer.Diagnostic
import PageServer.Store.Fault

/-! Why a request stops, and how each cause is reported. -/

namespace PageServer

/-- Why evaluation, storage or rendering stops. -/
inductive Fault where
  | unbound (name : String)
  /-- At a site, one kind of thing was expected and another found. -/
  | wrongKind (site expected found : String)
  | missingField (name : String)
  | notApplicable (kind : String)
  /-- A name that may not stand in a statement. -/
  | unsafeName (name : Datum)
  /-- A stored value that the column's type does not admit. -/
  | undecodable (column kind : String) (expected : Option String)
  | divisionByZero
  /-- A form that lacks a declared field. -/
  | missingInput (field : String)
  /-- A whole number with too many digits to write. -/
  | tooManyDigits
  /-- A limit that cannot be read as a whole number. -/
  | badLimit (fault : Datum.IntFault)
  /-- A declared column whose type cannot be stored. -/
  | unstorable (column table type : String)
  /-- A type that has to be named, but with a part that was not given. -/
  | namelessType
  | store (refusal : Store.Refusal)

namespace Fault

/-- The diagnostic of something the checker should have ruled out. -/
def violation (code message : String) (details : Fields Datum) : Diagnostic :=
  { code, message, severity := .fatal, hints := ["the type checker has failed - this is a bug"],
    details }

/-- What is said of a form that lacks a field. -/
def missingMessage (field : String) : String := "missing '" ++ field ++ "'"

/-- The diagnostic of a cause that has one. -/
def diagnostic? : Fault → Option Diagnostic
  | unbound name =>
    some (violation "E401" ("unbound identifier '" ++ name ++ "'") [("name", .text name)])
  | wrongKind site expected found =>
    some (violation "E402" (site ++ ": expected " ++ expected ++ ", found " ++ found)
      [("expected", .text expected), ("found", .text found)])
  | missingField name =>
    some (violation "E403" ("record has no field '" ++ name ++ "'") [("field", .text name)])
  | notApplicable kind =>
    some (violation "E404" ("cannot apply a value of kind " ++ kind) [("found", .text kind)])
  | unsafeName name =>
    some (violation "E405" ("unsafe SQL identifier " ++ name.literal) [("name", name)])
  | undecodable column kind expected =>
    let reason := match expected with
      | none => "unsupported stored kind " ++ kind
      | some type => "expected " ++ type ++ ", found stored kind " ++ kind
    some (violation "E406" ("cannot decode column '" ++ column ++ "': " ++ reason)
      [("column", .text column), ("stored", .text kind)])
  | divisionByZero =>
    some { code := "E501", message := "integer division by zero", severity := .error }
  | missingInput field =>
    some { code := "E601", message := missingMessage field, severity := .user,
           details := [("field", .text field)] }
  | tooManyDigits | badLimit _ | unstorable _ _ _ | namelessType | store _ => none

/-- What is said of a cause: its diagnostic, or a plain sentence where it has none. -/
def message : Fault → String
  | tooManyDigits =>
    "Exceeds the limit (4300 digits) for integer string conversion; " ++
      "use sys.set_int_max_str_digits() to increase the limit"
  | badLimit fault => fault.message
  | unstorable column table type =>
    "column '" ++ column ++ "' of table '" ++ table ++ "' has unstorable type " ++ type
  | namelessType => "'NoneType' object has no attribute 'name'"
  | store refusal => refusal.message
  | other => (other.diagnostic?.map Diagnostic.format).getD ""

end Fault

end PageServer
