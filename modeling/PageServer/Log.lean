import PageServer.Datum
import PageServer.Fields

/-! The log: what is noted while a program runs. -/

namespace PageServer

namespace Log

/-- How grave a note is. -/
inductive Level where
  | debug
  | info
  | error
  | critical
  deriving DecidableEq, Repr

/-- A level as it is written. -/
def Level.name : Level → String
  | debug => "DEBUG"
  | info => "INFO"
  | error => "ERROR"
  | critical => "CRITICAL"

/-- One note. -/
inductive Entry where
  /-- A table is about to be created. -/
  | schema (sql : String)
  /-- A query is about to run. -/
  | query (sql : String) (parameters : Nat)
  /-- A row is about to be inserted. -/
  | insert (sql : String)
  /-- A request has reached its endpoint. -/
  | dispatch (method path : String) (pathVars : Fields String)
  /-- The form of a request lacks a field. -/
  | badForm (method path message : String)
  /-- A request met something the checker should have ruled out. -/
  | violation (method path message code : String)
  /-- A request failed while it was evaluated. -/
  | failure (method path message code : String)
  deriving DecidableEq, Repr

namespace Entry

/-- The level of a note. -/
def level : Entry → Level
  | schema _ | query _ _ | insert _ | dispatch _ _ _ => .debug
  | badForm _ _ _ => .info
  | violation _ _ _ _ => .critical
  | failure _ _ _ _ => .error

/-- The part of the program that speaks. -/
def channel : Entry → String
  | schema _ => "kuljet.store"
  | query _ _ | insert _ => "kuljet.runtime.query"
  | dispatch _ _ _ | badForm _ _ _ | violation _ _ _ _ | failure _ _ _ _ =>
    "kuljet.runtime.endpoint"

/-- The text of a note. -/
def message : Entry → String
  | schema sql => "schema: " ++ sql
  | query sql parameters => "query: " ++ sql ++ " (" ++ toString parameters ++ " parameters)"
  | insert sql => "insert: " ++ sql
  | dispatch method path pathVars =>
    method ++ " " ++ path ++ " " ++
      (Datum.map (pathVars.map fun entry => (.text entry.1, .text entry.2))).literal
  | badForm method path message => method ++ " " ++ path ++ ": invalid form input: " ++ message
  | violation method path message code =>
    method ++ " " ++ path ++ ": the type checker has failed - this is a bug: " ++ message ++
      " [" ++ code ++ "]"
  | failure method path message code =>
    method ++ " " ++ path ++ ": " ++ message ++ " [" ++ code ++ "]"

end Entry

end Log

end PageServer
