import Mathlib.Data.List.Forall2
import PageServer.Proofs.Provenance
import PageServer.Proofs.Sequence

/-!
One computation on two machines.

Two machines that are alike before a request may be alike after it. What has to be shown for that is
said of the few operations that touch a machine; that evaluation adds nothing to them is shown here,
once, together with where its values come from. With a machine beside itself, this is what evaluation
does to one machine.
-/

namespace PageServer

/-- How two machines are compared while one computation runs on both. -/
structure Lockstep where
  /-- What holds as long as both go on. -/
  running : Machine → Machine → Prop
  /-- What holds of both faults and machines when both have stopped with a fault. -/
  faulted : Fault → Machine → Fault → Machine → Prop
  /-- What holds when both have run out of depth. -/
  exhausted : Machine → Machine → Prop
  /-- What holds when both wait for the store without end. -/
  unanswered : Machine → Machine → Prop
  faulted_of_running : ∀ {a b}, running a b → ∀ fault, faulted fault a fault b
  exhausted_of_running : ∀ {a b}, running a b → exhausted a b

namespace Lockstep

/-- Both computations have ended in the same way, and a value they have is a good one. -/
inductive Ended {α : Type} (pair : Lockstep) (good : α → Prop) :
    Outcome α × Machine → Outcome α × Machine → Prop where
  | done {value : α} {a b : Machine} : good value → pair.running a b →
    Ended pair good (.done value, a) (.done value, b)
  | fault {first second : Fault} {a b : Machine} : pair.faulted first a second b →
    Ended pair good (.fault first, a) (.fault second, b)
  | exhausted {a b : Machine} : pair.exhausted a b →
    Ended pair good (.exhausted, a) (.exhausted, b)
  | unanswered {a b : Machine} : pair.unanswered a b →
    Ended pair good (.unanswered, a) (.unanswered, b)

/-- A computation keeps two machines together, and its value is a good one. -/
def Keeps {α : Type} (pair : Lockstep) (good : α → Prop) (run : Run α) : Prop :=
  ∀ a b, pair.running a b → pair.Ended good (run a) (run b)

section Rules

variable {α β : Type} {pair : Lockstep} {good : α → Prop} {fine : β → Prop}

/-- A value that is given changes nothing. -/
theorem keeps_pure {value : α} (holds : good value) : pair.Keeps good (pure value : Run α) :=
  fun _ _ together => .done holds together

/-- A fault that is given is the same on both machines. -/
theorem keeps_fail (fault : Fault) : pair.Keeps good (Run.fail fault : Run α) :=
  fun _ _ together => .fault (pair.faulted_of_running together fault)

/-- Running out of depth is the same on both machines. -/
theorem keeps_exhausted : pair.Keeps good (Run.exhausted : Run α) :=
  fun _ _ together => .exhausted (pair.exhausted_of_running together)

/-- A pure result has the value it has on both machines. -/
theorem keeps_lift {result : Except Fault α} (holds : ∀ value, result = .ok value → good value) :
    pair.Keeps good (Run.lift result) := by
  -- A result that is a fault already is the same fault on both machines.
  cases result with
  | error fault => exact keeps_fail fault
  | ok value => exact keeps_pure (holds value rfl)

/-- A sequence keeps machines together if its parts do, the second for every good value. -/
theorem Keeps.andThen {first : Run α} {next : α → Run β} (before : pair.Keeps good first)
    (after : ∀ value, good value → pair.Keeps fine (next value)) :
    pair.Keeps fine (first >>= next) := by
  intro a b together
  have ended := before a b together
  generalize one : first a = left at ended
  generalize other : first b = right at ended
  -- Both first parts end alike; only a value lets the second part start.
  cases ended with
  | done holds still =>
    rw [Run.andThen_of_done one, Run.andThen_of_done other]
    exact after _ holds _ _ still
  | fault stopped =>
    rw [Run.andThen_of_fault one, Run.andThen_of_fault other]
    exact .fault stopped
  | exhausted stopped =>
    rw [Run.andThen_of_exhausted one, Run.andThen_of_exhausted other]
    exact .exhausted stopped
  | unanswered stopped =>
    rw [Run.andThen_of_unanswered one, Run.andThen_of_unanswered other]
    exact .unanswered stopped

/-- A computation for each item keeps machines together if each one does. -/
theorem keeps_each {fits : α → β → Prop} {compute : α → Run β} {items : List α}
    (each : ∀ item ∈ items, pair.Keeps (fits item) (compute item)) :
    pair.Keeps (List.Forall₂ fits items) (Run.each compute items) := by
  -- The induction is on the items; each value fits the item at its place.
  induction items with
  | nil => exact keeps_pure .nil
  | cons item rest ih =>
    apply (each item (by simp)).andThen
    intro value fit
    apply (ih fun other member => each other (by simp [member])).andThen
    intro values others
    exact keeps_pure (.cons fit others)

end Rules

/-- The operations that a request can ask of a machine keep two machines together. -/
structure Serves (pair : Lockstep) (endpoint : Endpoint) : Prop where
  /-- Reading the clock, if the body mentions it. -/
  tick : .var "now" ∈ endpoint.body.nodes → pair.Keeps (fun _ => True) Run.tick
  freshIdentity : pair.Keeps (fun _ => True) Run.freshIdentity
  /-- A note other than of a statement. -/
  note : ∀ entry : Log.Entry, entry.statement? = none → pair.Keeps (fun _ => True) (Run.note entry)
  /-- A query of the body, with any arguments. -/
  select : ∀ query ∈ endpoint.body.queries, ∀ arguments,
    pair.Keeps (fun _ => True) (Storage.select query arguments)
  /-- An insertion into a table that the body names, of a record with names that it writes out. -/
  insert : ∀ table ∈ endpoint.body.targets, ∀ fields : Fields Value,
    endpoint.RecordNames fields.keys → pair.Keeps (fun _ => True) (Storage.insert table fields)

end Lockstep

end PageServer
