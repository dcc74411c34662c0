import PageServer.Query

/-! Expressions of the page language. -/

namespace PageServer

/-- Binary operators; both operands are always evaluated. -/
inductive Operator where
  | eq
  | ne
  | plus
  | minus
  | times
  | divide
  | lt
  | gt
  | le
  | ge
  | and
  | or
  deriving DecidableEq, Repr

namespace Operator

/-- Every operator, in declared order. -/
def all : List Operator :=
  [eq, ne, plus, minus, times, divide, lt, gt, le, ge, and, or]

/-- An operator as it is written. -/
def symbol : Operator → String
  | eq => "=="
  | ne => "!="
  | plus => "+"
  | minus => "-"
  | times => "*"
  | divide => "/"
  | lt => "<"
  | gt => ">"
  | le => "<="
  | ge => ">="
  | and => "and"
  | or => "or"

/-- The operator that is written this way. -/
def ofSymbol? (symbol : String) : Option Operator := all.find? fun op => op.symbol == symbol

/-- The operator that a datum names: only a text names one. -/
def ofDatum? : Datum → Option Operator
  | .text symbol => ofSymbol? symbol
  | _ => none

/-- What is said of a datum that names no operator. -/
def refusal (symbol : Datum) : String := symbol.literal ++ " is not a valid BinaryOperator"

/-- Whether the operator computes with whole numbers. -/
def isArithmetic : Operator → Bool
  | plus | minus | times | divide => true
  | _ => false

/-- Whether the operator asks which value comes first. -/
def isOrdering : Operator → Bool
  | lt | gt | le | ge => true
  | _ => false

/-- Whether the operator joins truth values. -/
def isLogical : Operator → Bool
  | and | or => true
  | _ => false

end Operator

/-- A literal; one of an unsupported kind is only named. -/
inductive Literal where
  | text (text : String)
  | int (value : Int)
  | bool (value : Bool)
  | unsupported (kind : String)
  deriving DecidableEq, Repr

/-- An expression. -/
inductive Expr where
  | literal (literal : Literal)
  | var (name : String)
  | app (function argument : Expr)
  | abs (param : String) (body : Expr)
  | list (elements : List Expr)
  | record (fields : List (String × Expr))
  | dot (record : Expr) (field : String)
  | op (operator : Operator) (left right : Expr)
  /-- Runs a query and evaluates the body once per row, the row's columns bound. -/
  | forEach (query : Query) (arguments : List Expr) (body : Expr)
  /-- Adds a record to a table, then goes on. -/
  | insert (table : String) (value next : Expr)
  /-- A node that is no expression; its kind is all that is known. -/
  | hole (kind : String)

/-- Application to several arguments, one after the other. -/
def Expr.apply (function : Expr) (arguments : List Expr) : Expr :=
  arguments.foldl Expr.app function

end PageServer
