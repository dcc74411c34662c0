import PageServer.Store.Basic

/-!
Creating tables.

A table is declared by its name and its columns, each a name and a type. Words that start a
constraint on the whole table are read as such after the first column.
-/

namespace PageServer.Store

/-- The word for the type of a column. -/
def Affinity.typeWord : Affinity → String
  | none => "BLOB"
  | text => "TEXT"
  | numeric => "NUMERIC"
  | integer => "INTEGER"
  | real => "REAL"

/-- Whether a table name is kept for the store itself. -/
def isReserved (name : String) : Bool := "sqlite_".toList.isPrefixOf (fold name).toList

/-- Words that start a constraint which a type cannot go on with. -/
def constraintWords : List String := ["check", "unique", "primary", "foreign"]

/-- The most columns of a table, of a result, or of a sort. -/
def columnLimit : Nat := 2000

/--
Reads column definitions in order; a table that is new may not repeat a column.

The word `CONSTRAINT` in place of a later column names a constraint that asks for nothing, and after
it no column may follow.
-/
def readColumns (table : String) (new : Bool) (seen : List String) (closed : Bool) :
    List Column → Except Fault (List Column)
  | [] => .ok []
  | column :: rest =>
    -- The first column is always read as one, whatever its word.
    let word := bareName column.name
    if !seen.isEmpty && sameName word "constraint" then readColumns table new seen true rest
    else if !seen.isEmpty && constraintWords.contains (fold word) then
      .error (.unexpected column.affinity.typeWord)
    else if closed then .error (.unexpected word)
    else do
      let name ← readName column.name
      if new && seen.length ≥ columnLimit then throw (.manyColumns table)
      if new && seen.any (sameName name) then throw (.repeatedColumn name)
      let others ← readColumns table new (name :: seen) closed rest
      return { column with name } :: others

/--
Creates a table, unless one of that name exists.

A table named `if` is refused when its declaration is read back: the word then starts a clause.
-/
def create (store : Store) (name : String) (columns : List Column) (declaration : String) :
    Except Fault Store := do
  let table ← readName name
  if isReserved table then throw (.reservedName table)
  if columns.isEmpty then throw (.unexpected ")")
  -- A table that exists is left alone, but its declaration is still read.
  let new := (store.relation? table).isNone
  let columns ← readColumns table new [] false columns
  -- The text is read once more from the store, where the name is no longer set apart.
  if sameName table "if" then throw (.unreadable table "(")
  if new then
    let relation : Relation := { name := table, columns, declaration, page := store.pages + 1 }
    return { store with relations := store.relations ++ [relation] }
  else return store

/-- A creation; it takes no values. -/
def prepareCreate (store : Store) (name : String) (columns : List Column) (declaration : String) :
    Except Fault (Prepared Unit) := do
  let created ← store.create name columns declaration
  return { bindings := [], step := fun _ => some (.ok (created, ())) }

end PageServer.Store
