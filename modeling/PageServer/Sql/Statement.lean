import PageServer.Query
import PageServer.Sql.Name

/-! The statements sent to the store, as text. Values never stand in them, only placeholders. -/

namespace PageServer.Sql

/-- The limit of a query as a whole number, if it has one. -/
def limitOf (query : Query) : Except Fault (Option Int) :=
  match query.limit with
  | .null => .ok none
  | given =>
    match given.toInt with
    | .ok n => if Text.withinLimit n then .ok (some n) else .error .tooManyDigits
    | .error fault => .error (.badLimit fault)

/-- The sort terms of a query. -/
def orderTerms : Fields Datum → Except Fault (List String)
  | [] => .ok []
  | (column, descending) :: rest => do
    let name ← checkName column
    let others ← orderTerms rest
    return (name ++ (if descending.truthy then " DESC" else " ASC")) :: others

/-- The condition part of a selection; each condition stands in parentheses. -/
def whereClause (conditions : List String) : String :=
  if conditions.isEmpty then ""
  else " WHERE " ++ " AND ".intercalate (conditions.map fun text => "(" ++ text ++ ")")

/-- The sort part of a selection. -/
def orderClause (terms : List String) : String :=
  if terms.isEmpty then "" else " ORDER BY " ++ ", ".intercalate terms

/-- The limit part of a selection. -/
def limitClause : Option Int → String
  | none => ""
  | some n => " LIMIT " ++ Text.decimal n

/-- What a selection says after its table. -/
def tail (query : Query) : Except Fault String := do
  let terms ← orderTerms query.order
  let limit ← limitOf query
  return whereClause query.conditions ++ orderClause terms ++ limitClause limit

/-- A query as a selection; names are checked in the order they are written. -/
def select (query : Query) : Except Fault String := do
  let columns ← checkNames query.columns.keys
  let table ← checkName query.table
  return "SELECT " ++ ", ".intercalate columns ++ " FROM " ++ table ++ (← tail query)

/-- An insertion with one named placeholder per column; columns are checked before the table. -/
def insert (table : String) (columns : List String) : Except Fault String := do
  let names ← checkNames columns
  let target ← checkName table
  -- With no columns there is no list of placeholders to write.
  if names.isEmpty then return "INSERT INTO " ++ target ++ " DEFAULT VALUES"
  else
    return "INSERT INTO " ++ target ++ "(" ++ ",".intercalate names ++ ") VALUES (" ++
      ",".intercalate (names.map (":" ++ ·)) ++ ")"

/-- The stored type of a column type. -/
def columnType : Ty.Storable → String
  | .text => "TEXT"
  | .int | .bool => "INTEGER"

/-- The refusal of a column whose type cannot be stored; the type is named. -/
def unstorable (column table : String) : Ty → Fault
  -- A column may be given no type at all, and the refusal says so in place of a name.
  | .absent => .unstorable column table "None"
  | type =>
    match type.name? with
    | some name => .unstorable column table name
    | none => .namelessType

/-- The column definitions of a table: each type first, then its name. -/
def columnDefinitions (table : String) : Fields Ty → Except Fault (List String)
  | [] => .ok []
  | (column, type) :: rest =>
    match type.storable? with
    | none => .error (unstorable column table type)
    | some storable => do
      let name ← checkName column
      let others ← columnDefinitions table rest
      return (name ++ " " ++ columnType storable) :: others

/-- A table declaration: its name and its columns; the columns are checked first. -/
def declaration (table : Table) : Except Fault String := do
  let columns ← columnDefinitions table.name table.columns
  let name ← checkName table.name
  return name ++ " (" ++ ", ".intercalate columns ++ ")"

/-- A table declaration as a creation that leaves an existing table alone. -/
def create (table : Table) : Except Fault String := do
  return "CREATE TABLE IF NOT EXISTS " ++ (← declaration table)

end PageServer.Sql
