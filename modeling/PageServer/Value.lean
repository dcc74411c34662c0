import PageServer.Expr
import PageServer.Fault

/-! The values that expressions compute. -/

namespace PageServer

/-- An answer to a request: a status, headers in order, and a body of text. -/
structure Response where
  status : Int
  headers : Fields String := []
  body : String := ""
  deriving DecidableEq, Repr

/-- Functions of the standard library. -/
inductive Builtin where
  /-- Sends the client elsewhere. -/
  | redirect
  deriving DecidableEq, Repr

/-- Computations that run each time their name is mentioned. -/
inductive Deferred where
  /-- Reads the clock. -/
  | now
  deriving DecidableEq, Repr

/-- A value. -/
inductive Value where
  | text (text : String)
  | int (value : Int)
  | bool (value : Bool)
  | list (items : List Value)
  | record (fields : List (String × Value))
  /-- A function with the scope it was made in; each making has an identity of its own. -/
  | closure (identity : Nat) (scope : List (List (String × Value))) (param : String) (body : Expr)
  | builtin (function : Builtin)
  | deferred (action : Deferred)
  | query (query : Query)
  /-- Finished markup. -/
  | raw (markup : String)
  /-- An element that still waits for attributes or a body. -/
  | tag (name : String)
  /-- An element with attributes that still waits for a body. -/
  | tagWith (name : String) (attributes : List (String × Value))
  | response (response : Response)
  /-- A value of no particular kind. -/
  | bare (identity : Nat)
  /-- Markup of no particular form. -/
  | bareMarkup (identity : Nat)

/-- The names in one layer of a scope. -/
abbrev Frame := Fields Value

/-- A scope: layers of names, the innermost first. -/
abbrev Environment := List Frame

namespace Value

/-- The name of a value's kind, as messages give it. -/
def kind : Value → String
  | text _ => "text"
  | int _ => "int"
  | bool _ => "bool"
  | list _ => "list"
  | record _ => "record"
  | closure _ _ _ _ | builtin _ => "function"
  | deferred _ => "action"
  | query _ => "query"
  | raw _ | tag _ | tagWith _ _ | bareMarkup _ => "html"
  | response _ => "response"
  | bare _ => "value"

/-- Whether a value is markup. -/
def isMarkup : Value → Bool
  | raw _ | tag _ | tagWith _ _ | bareMarkup _ => true
  | _ => false

/-- A record of named values: a repeated name keeps its first place and its last value. -/
def recordOf (pairs : Fields Value) : Value := record (Fields.ofPairs pairs)

/-- The text of a text. -/
def asText (site : String) : Value → Except Fault String
  | text content => .ok content
  | other => .error (.wrongKind site "text" other.kind)

/-- The number of a whole number. -/
def asInt (site : String) : Value → Except Fault Int
  | int n => .ok n
  | other => .error (.wrongKind site "int" other.kind)

/-- The truth of a truth value. -/
def asBool (site : String) : Value → Except Fault Bool
  | bool b => .ok b
  | other => .error (.wrongKind site "bool" other.kind)

/-- The fields of a record. -/
def asRecord (site : String) : Value → Except Fault (Fields Value)
  | record fields => .ok fields
  | other => .error (.wrongKind site "record" other.kind)

end Value

end PageServer
