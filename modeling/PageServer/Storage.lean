import PageServer.Machine
import PageServer.Sql.Statement
import PageServer.Value

/-!
Values in the store: how they go in, how they come out, and the statements that carry them.

What the store makes of a statement is laid down in `Store`, as far as programs create tables, insert
rows, and select from one table. A query that asks for more, by a selection inside its conditions, a
compound selection, groups, windows, structured texts, chance or the present time, is handed to an
engine of the machine.
-/

namespace PageServer.Storage

/-- A value as it is bound to a placeholder. -/
def encode : Value → Except Fault Store.Cell
  | .text text => .ok (.text text)
  | .bool value => .ok (.int (if value then 1 else 0))
  | .int n => .ok (.int n)
  | other => .error (.wrongKind "sql parameter" "text, int or bool" other.kind)

/-- Encodes values in order, up to the first that cannot be bound. -/
def encodeAll : List Value → Except Fault (List Store.Cell)
  | [] => .ok []
  | value :: rest => do
    let first ← encode value
    let others ← encodeAll rest
    return first :: others

/-- Encodes the fields of a record in order, up to the first that cannot be bound. -/
def encodeFields : Fields Value → Except Fault (Fields Store.Cell)
  | [] => .ok []
  | (name, value) :: rest => do
    let first ← encode value
    let others ← encodeFields rest
    return (name, first) :: others

/-- A stored value as a value: by the column's type if it has one, else by its stored kind. -/
def decode (column : String) (cell : Store.Cell) : Ty → Except Fault Value
  | .absent =>
    match cell with
    | .text text => .ok (.text text)
    | .int n => .ok (.int n)
    | other => .error (.undecodable column other.kind none)
  | type =>
    match type.storable?, cell with
    | some .text, .text text => .ok (.text text)
    | some .int, .int n => .ok (.int n)
    | some .bool, .int 0 => .ok (.bool false)
    | some .bool, .int 1 => .ok (.bool true)
    | some .bool, .flag value => .ok (.bool value)
    | _, other =>
      -- The fault names the type, which cannot be done if a part of it was not given.
      match type.name? with
      | some name => .error (.undecodable column other.kind (some name))
      | none => .error .namelessType

/-- The declared type of a result column, if any; of two declarations the last counts. -/
def declaredType (query : Query) (column : String) : Ty :=
  ((Fields.ofPairs query.columns).get? column).getD .absent

/-- Decodes the values of a row in order, up to the first that the types do not admit. -/
def decodeCells (query : Query) : Fields Store.Cell → Except Fault (Fields Value)
  | [] => .ok []
  | (column, cell) :: rest => do
    let first ← decode column cell (declaredType query column)
    let others ← decodeCells query rest
    return (column, first) :: others

/-- A row as named values; a repeated column keeps its first place and its last value. -/
def decodeRow (query : Query) (row : Fields Store.Cell) : Except Fault (Fields Value) := do
  return Fields.ofPairs (← decodeCells query row)

/-- What a query asks after its table; conditions are text, and with them all that follows. -/
def tail (query : Query) : Except Fault Store.Tail := do
  let limit ← Sql.limitOf query
  -- Conditions go to the store as they are written; lists of names and terms cannot say them.
  if query.conditions.isEmpty then
    return .plain (query.order.map fun term => (term.1, term.2.truthy)) limit
  else return .written (← Sql.tail query)

/-- Runs a query with the values of its placeholders. -/
def select (query : Query) (arguments : List Value) : Run (List (Fields Store.Cell)) := do
  -- The whole text is made before an argument is looked at, so its faults come first.
  let sql ← Run.lift (Sql.select query)
  let tail ← Run.lift (tail query)
  let parameters ← Run.lift (encodeAll arguments)
  -- It is noted before it is run, so the log also has the statements that the store refuses.
  Run.note (.query sql parameters.length)
  Run.statement sql fun engine store =>
    store.prepareSelect engine { columns := query.columns.keys, table := query.table, tail }
      parameters

/-- Inserts a record as one row of a table. -/
def insert (table : String) (fields : Fields Value) : Run Unit := do
  -- The names are checked before the values are.
  let sql ← Run.lift (Sql.insert table fields.keys)
  let supplied ← Run.lift (encodeFields fields)
  Run.note (.insert sql)
  Run.statement sql fun _ store => store.prepareInsert table fields.keys supplied

/-- The affinity of a column type. -/
def affinity : Ty.Storable → Store.Affinity
  | .text => .text
  | .int | .bool => .integer

/-- The stored columns of a declared table; columns without a storable type are left out. -/
def storedColumns (table : Table) : List Store.Column :=
  table.columns.filterMap fun (name, type) =>
    type.storable?.map fun storable => { name, affinity := affinity storable }

/-- Creates a declared table, unless one of that name exists. -/
def createTable (table : Table) : Run Unit := do
  let sql ← Run.lift (Sql.create table)
  let declaration ← Run.lift (Sql.declaration table)
  Run.note (.schema sql)
  Run.statement sql fun _ store =>
    store.prepareCreate table.name (storedColumns table) declaration

/-- Creates declared tables in order, up to the first that is refused. -/
def createTables : List Table → Run Unit
  | [] => pure ()
  | table :: rest => do
    createTable table
    createTables rest

end PageServer.Storage
