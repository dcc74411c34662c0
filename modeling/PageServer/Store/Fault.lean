/-!
Why the store refuses a statement.

A whole number that does not fit is apart from the other faults: nothing new is found wrong with it,
and what is said of it is whatever the store had found wrong before.
-/

namespace PageServer.Store

/-- Why the store refuses a statement. -/
inductive Fault where
  /-- The statement cannot be read beyond this token. -/
  | unexpected (token : String)
  /-- The statement ends too early. -/
  | incomplete
  /-- Characters that make no token. -/
  | unrecognised (text : String)
  | noTable (name : String)
  | noColumn (name : String)
  | noFunction (name : String)
  /-- A function with the wrong number of arguments. -/
  | argumentCount (function : String)
  /-- A function over many rows where there is one. -/
  | aggregate (function : String)
  | noCollation (name : String)
  /-- A function of tables of another kind. -/
  | elsewhere (function : String)
  /-- A whole number that grew beyond 64 bits inside a function. -/
  | wideResult
  /-- A text or bytes beyond all bounds. -/
  | tooBig
  | longPattern
  /-- A likelihood that is no number up to one, or not written as such. -/
  | likelihood (function : String)
  /-- A function of the rows around one row where there are none. -/
  | window (function : String)
  /-- A mark that is to make pattern characters plain and is no single character. -/
  | escapeMark
  /-- Several values where one is due. -/
  | severalValues
  /-- Something that only a trigger may do. -/
  | triggerOnly
  /-- A whole number in hexadecimal beyond 64 bits. -/
  | longHexadecimal (text : String)
  /-- A placeholder with a number out of range. -/
  | placeholderNumber
  /-- More placeholders than there are numbers for them. -/
  | placeholderCount
  /-- More begun than can be kept in mind at once. -/
  | deepStatement
  /-- A formula of too many levels. -/
  | deepFormula
  | manyArguments (function : String)
  /-- Several values, looked for among groups of another size. -/
  | elementWidth (found wanted : Nat)
  | manyColumns (table : String)
  | manyResults
  | manyTerms
  /-- A sort term beyond the columns. -/
  | sortTerm (position columns : Nat)
  /-- An insertion names a column that its table does not have. -/
  | foreignColumn (table column : String)
  | repeatedColumn (name : String)
  /-- The name belongs to the store itself. -/
  | reservedName (name : String)
  /-- The table is the store's own record of its tables. -/
  | protectedTable (name : String)
  /-- A table whose declaration cannot be read back. -/
  | unreadable (name : String) (token : String)
  /-- A row of this number exists. -/
  | repeatedRow (table : String)
  /-- A number that has to be whole and is not. -/
  | mismatch
  /-- The text of the statement holds a null character. -/
  | nullCharacter
  /-- Something follows the end of the statement. -/
  | severalStatements
  /-- More or fewer values than placeholders. -/
  | bindingCount (wanted supplied : Nat)
  | missingBinding (name : String)
  /-- A part of the statement language that is not spelled out here; an engine is asked instead. -/
  | unsupported (feature : String)
  /-- Whatever else an engine says. -/
  | other (message : String)
  deriving DecidableEq, Repr

/--
Whether the store itself found the fault and so remembers it.

The others arise on the way to the store, from the text or the values of a statement.
-/
def Fault.isRemembered : Fault → Bool
  | nullCharacter | severalStatements | bindingCount _ _ | missingBinding _ => false
  | _ => true

/-- The ending of an ordinal number. -/
def ordinalEnding (n : Nat) : String :=
  if n / 10 % 10 = 1 then "th"
  else
    match n % 10 with
    | 1 => "st"
    | 2 => "nd"
    | 3 => "rd"
    | _ => "th"

/-- What the store says. -/
def Fault.message : Fault → String
  | unexpected token => "near \"" ++ token ++ "\": syntax error"
  | incomplete => "incomplete input"
  | unrecognised text => "unrecognized token: \"" ++ text ++ "\""
  | noTable name => "no such table: " ++ name
  | noColumn name => "no such column: " ++ name
  | noFunction name => "no such function: " ++ name
  | argumentCount function => "wrong number of arguments to function " ++ function ++ "()"
  | aggregate function => "misuse of aggregate function " ++ function ++ "()"
  | noCollation name => "no such collation sequence: " ++ name
  | elsewhere function => "unable to use function " ++ function ++ " in the requested context"
  | wideResult => "integer overflow"
  | tooBig => "string or blob too big"
  | longPattern => "LIKE or GLOB pattern too complex"
  | likelihood function =>
    "second argument to " ++ function ++ "() must be a constant between 0.0 and 1.0"
  | window function => "misuse of window function " ++ function ++ "()"
  | escapeMark => "ESCAPE expression must be a single character"
  | severalValues => "row value misused"
  | triggerOnly => "RAISE() may only be used within a trigger-program"
  | longHexadecimal text => "hex literal too big: " ++ text
  | placeholderNumber => "variable number must be between ?1 and ?250000"
  | placeholderCount => "too many SQL variables"
  | deepStatement => "parser stack overflow"
  | deepFormula => "Expression tree is too large (maximum depth 1000)"
  | manyArguments function => "too many arguments on function " ++ function
  | elementWidth found wanted =>
    "IN(...) element has " ++ toString found ++ " term" ++ (if found = 1 then "" else "s") ++
      " - expected " ++ toString wanted
  | manyColumns table => "too many columns on " ++ table
  | manyResults => "too many columns in result set"
  | manyTerms => "too many terms in ORDER BY clause"
  | sortTerm position columns =>
    toString position ++ ordinalEnding position ++
      " ORDER BY term out of range - should be between 1 and " ++ toString columns
  | foreignColumn table column => "table " ++ table ++ " has no column named " ++ column
  | repeatedColumn name => "duplicate column name: " ++ name
  | reservedName name => "object name reserved for internal use: " ++ name
  | protectedTable name => "table " ++ name ++ " may not be modified"
  | unreadable name token =>
    "malformed database schema (" ++ name ++ ") - near \"" ++ token ++ "\": syntax error"
  | repeatedRow table => "UNIQUE constraint failed: " ++ table ++ ".rowid"
  | mismatch => "datatype mismatch"
  | nullCharacter => "the query contains a null character"
  | severalStatements => "You can only execute one statement at a time."
  | bindingCount wanted supplied =>
    "Incorrect number of bindings supplied. The current statement uses " ++ toString wanted ++
      ", and there are " ++ toString supplied ++ " supplied."
  | missingBinding name =>
    "You did not supply a value for binding parameter :" ++ name ++ "."
  | unsupported feature => "unsupported: " ++ feature
  | other message => message

/-- Why a statement fails. -/
inductive Refusal where
  | fault (fault : Fault)
  /-- A value is a whole number beyond 64 bits; the fault that is pending then is told again. -/
  | tooWide (pending : Option Fault)
  deriving DecidableEq, Repr

/-- What is said of a statement that fails. -/
def Refusal.message : Refusal → String
  | fault found => found.message
  | tooWide (some pending) => pending.message
  | tooWide none => "Python int too large to convert to SQLite INTEGER"

end PageServer.Store
