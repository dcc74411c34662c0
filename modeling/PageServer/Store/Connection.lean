import PageServer.Store.Create
import PageServer.Store.Engine

/-!
A connection to a store, through which statements run.

It keeps the texts of the latest statements, which are not prepared anew, and the last fault of the
store. The fault is forgotten when a statement is prepared, when a value is bound, and when a
statement succeeds; a whole number that does not fit repeats it as long as it is there.

What becomes of a connection while a statement is worked on without end is left out, since nobody is
told.
-/

namespace PageServer.Store

/-- A connection to a store. -/
structure Connection where
  store : Store := {}
  /-- The texts of prepared statements, the latest first. -/
  prepared : List String := []
  /-- The last fault of the store, unless something has succeeded since. -/
  failed : Option Fault := none
  deriving DecidableEq, Repr

namespace Connection

/-- How many statements are kept. -/
def capacity : Nat := 128

/-- Keeps a text as the latest one. -/
def keep (connection : Connection) (text : String) : Connection :=
  { connection with
    prepared := (text :: connection.prepared.filter fun old => old != text).take capacity }

/-- Binds values in order: the cells up to the first fault, and the fault that is then pending. -/
def bind (failed : Option Fault) :
    List (Except Fault Cell) → Except Refusal (List Cell) × Option Fault
  | [] => (.ok [], failed)
  | .error fault :: _ => (.error (.fault fault), failed)
  | .ok cell :: rest =>
    -- The store finds no new fault here: the last that it had is told again.
    if cell.overflows then (.error (.tooWide failed), failed)
    else
      -- A value that was bound has succeeded, so what comes after it finds no fault.
      let (bound, pending) := bind none rest
      (bound.map (cell :: ·), pending)

/-- Runs a prepared statement; there may be no answer, ever. -/
def execute {α : Type} (connection : Connection) (statement : Prepared α) :
    Option (Except Refusal α) × Connection :=
  match bind connection.failed statement.bindings with
  | (.error refusal, failed) => (some (.error refusal), { connection with failed })
  | (.ok cells, _) =>
    match statement.step cells with
    | some (.ok (store, answer)) => (some (.ok answer), { connection with store, failed := none })
    -- The store is left as it was: a step that fails has changed nothing.
    | some (.error fault) => (some (.error (.fault fault)), { connection with failed := some fault })
    | none => (none, connection)

/-- Runs a statement that is given by its text and by how it is prepared. -/
def run {α : Type} (connection : Connection) (text : String)
    (prepare : Store → Except Fault (Prepared α)) : Option (Except Refusal α) × Connection :=
  -- This is found before the store is asked, so the last fault is left alone.
  if text.toList.contains '\x00' then (some (.error (.fault .nullCharacter)), connection)
  else
    match prepare connection.store with
    | .error fault =>
      let failed := if fault.isRemembered then some fault else none
      (some (.error (.fault fault)), { connection with failed })
    | .ok statement =>
      -- A text that is kept is not prepared anew, so the last fault outlives it.
      let failed := if connection.prepared.contains text then connection.failed else none
      execute ({ connection with failed }.keep text) statement

end Connection

end PageServer.Store
