import PageServer.Store.Basic

/-!
Inserting rows.

A row takes its cells from columns given by name. A name of the row number sets the number, unless
the table has a column of that name.
-/

namespace PageServer.Store

/-- The names of the row number. -/
def rowNumberNames : List String := ["rowid", "oid", "_rowid_"]

/-- Whether a table has a column of a name. -/
def Relation.hasColumn (relation : Relation) (name : String) : Bool :=
  relation.columns.any fun column => sameName column.name name

/-- Whether a name stands for the row number of a table. -/
def Relation.namesNumber (relation : Relation) (name : String) : Bool :=
  !relation.hasColumn name && rowNumberNames.contains (fold name)

/-- Refuses the first name that the table has no place for. -/
def requireColumns (table : String) (relation : Relation) : List String → Except Fault Unit
  | [] => .ok ()
  | name :: rest =>
    if relation.hasColumn name || relation.namesNumber name then requireColumns table relation rest
    else .error (.foreignColumn table name)

/-- The cells of a new row: each column takes the first value given for it, or none. -/
def Relation.cells (relation : Relation) (given : List (String × Cell)) : List Cell :=
  relation.columns.map fun column =>
    match given.find? fun entry => sameName entry.1 column.name with
    | some (_, cell) => column.affinity.admit cell
    | none => .null

/-- The number of a new row: the last one given, which must be whole and unused, or the next one. -/
def Relation.number (relation : Relation) (given : List (String × Cell)) : Except Fault Int :=
  -- Of several names of the row number the last one counts, unlike with columns.
  match given.reverse.find? fun entry => relation.namesNumber entry.1 with
  | none => .ok relation.nextNumber
  | some (_, cell) =>
    match Affinity.numeric.admit cell with
    | .int number =>
      if relation.rows.any fun row => row.number == number then .error (.repeatedRow relation.name)
      else .ok number
    | .null => .ok relation.nextNumber
    | _ => .error .mismatch

/-- Adds a row at the end of the table of a name, and counts it. -/
def append (store : Store) (name : String) (row : Row) : Store :=
  { relations := store.relations.map fun relation =>
      if sameName relation.name name then { relation with rows := relation.rows ++ [row] }
      else relation
    tally := { lastRow := row.number, changes := 1, total := store.tally.total + 1 } }

/-- The value for the placeholder of a name. -/
def bound (supplied : List (String × Cell)) (name : String) : Except Fault Cell :=
  match supplied.find? fun entry => entry.1 == name with
  | some (_, cell) => .ok cell
  | none => .error (.missingBinding name)

/-- An insertion of one row: columns by name, each from the placeholder of its own name. -/
def prepareInsert (store : Store) (table : String) (columns : List String)
    (supplied : List (String × Cell)) : Except Fault (Prepared Unit) := do
  let table ← readName table
  let columns ← readNames columns
  match store.relation? table with
  | none =>
    match store.ownRelation? table with
    -- The store's own tables can be read, but not written.
    | some own => throw (.protectedTable own.name)
    | none => throw (.noTable table)
  | some relation =>
    -- Columns are looked for before any value is, so this fault needs no binding.
    requireColumns table relation columns
    return {
      bindings := columns.map (bound supplied)
      step := fun cells => some do
        let given := columns.zip cells
        let number ← relation.number given
        return (store.append table { number, cells := relation.cells given }, ()) }

end PageServer.Store
