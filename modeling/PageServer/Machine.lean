import PageServer.Fault
import PageServer.Log
import PageServer.Store.Connection

/-!
What a running program can change, and computations that change it.

The readings of the clock, and the answers to what goes beyond the language of the store, are streams
that nothing is known of: what is said of a machine holds for all of them. What a machine does while it
waits for the store without end is left out.
-/

namespace PageServer

/-- What a running program can change. -/
structure Machine where
  connection : Store.Connection := {}
  /-- The readings of the clock to come, the next one first. -/
  clock : Nat → Int
  /-- What answers those of the statements to come that go beyond what is laid down. -/
  engines : Nat → Store.Engine := fun _ => .standIn
  /-- How many functions have been made, so that each has an identity of its own. -/
  made : Nat := 0
  /-- The notes so far, the oldest first. -/
  log : List Log.Entry := []

/-- The store of a machine. -/
def Machine.store (machine : Machine) : Store := machine.connection.store

/-- How a computation ends. -/
inductive Outcome (α : Type) where
  | done (value : α)
  | fault (fault : Fault)
  /-- The computation went deeper than it was allowed to. -/
  | exhausted
  /-- The store works on a statement without end. -/
  | unanswered

/-- A computation: every end, a fault too, leaves the changes made up to it. -/
def Run (α : Type) := Machine → Outcome α × Machine

namespace Run

/-- Ends with a value and changes nothing. -/
def done {α : Type} (value : α) : Run α := fun machine => (.done value, machine)

/-- Ends with a fault and changes nothing. -/
def fail {α : Type} (fault : Fault) : Run α := fun machine => (.fault fault, machine)

/-- Ends for want of depth and changes nothing. -/
def exhausted {α : Type} : Run α := fun machine => (.exhausted, machine)

/-- Goes on with the value of the first computation, if it has one. -/
def andThen {α β : Type} (first : Run α) (next : α → Run β) : Run β := fun machine =>
  match first machine with
  | (.done value, after) => next value after
  -- A fault undoes nothing: what was changed before it stays changed.
  | (.fault fault, after) => (.fault fault, after)
  | (.exhausted, after) => (.exhausted, after)
  | (.unanswered, after) => (.unanswered, after)

instance : Monad Run where
  pure := done
  bind := andThen

/-- A pure result as a computation that changes nothing. -/
def lift {α : Type} : Except Fault α → Run α
  | .ok value => done value
  | .error fault => fail fault

/-- Adds a note to the log. -/
def note (entry : Log.Entry) : Run Unit := fun machine =>
  (.done (), { machine with log := machine.log ++ [entry] })

/-- What is to come after the next one. -/
def later {α : Type} (coming : Nat → α) : Nat → α := fun index => coming (index + 1)

/-- Reads the clock. -/
def tick : Run Int := fun machine =>
  (.done (machine.clock 0), { machine with clock := later machine.clock })

/-- A number that no other function of this run has. -/
def freshIdentity : Run Nat := fun machine =>
  (.done machine.made, { machine with made := machine.made + 1 })

/-- How a computation ends whose statement has this answer, or none. -/
def ofAnswer {α : Type} : Option (Except Store.Refusal α) → Outcome α
  | some (.ok answer) => .done answer
  | some (.error refusal) => .fault (.store refusal)
  | none => .unanswered

/-- Runs a statement on the store. -/
def statement {α : Type} (text : String)
    (prepare : Store.Engine → Store → Except Store.Fault (Store.Prepared α)) : Run α :=
  fun machine =>
    -- Each statement has an engine of its own, so what it says of one question may change.
    let (answer, connection) := machine.connection.run text (prepare (machine.engines 0))
    -- The connection is a new one either way, since it remembers faults and prepared texts.
    (ofAnswer answer, { machine with connection, engines := later machine.engines })

/-- Runs a computation for each item in order and gathers the values. -/
def each {α β : Type} (compute : α → Run β) : List α → Run (List β)
  | [] => pure []
  | item :: rest => do
    let first ← compute item
    let others ← each compute rest
    return first :: others

end Run

end PageServer
