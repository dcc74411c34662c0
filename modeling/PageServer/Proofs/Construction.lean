import PageServer.Eval
import PageServer.Proofs.Merging
import PageServer.Proofs.Sequence

/-!
Records as they are written out.

The fields of a record are evaluated in turn and then merged. So the record has each name once, at its
first place, and a field that is asked for is the last one of its name.
-/

namespace PageServer

namespace Eval

/-- Fields have values: each is evaluated on the machine that those before it have left. -/
inductive Evaluates (recur : Evaluator) (env : Environment) :
    List (String × Expr) → Machine → Fields Value → Machine → Prop where
  | nil (machine : Machine) : Evaluates recur env [] machine [] machine
  | cons {name : String} {expr : Expr} {rest : List (String × Expr)} {value : Value}
    {values : Fields Value} {start between stop : Machine} :
    recur env expr start = (.done value, between) →
    Evaluates recur env rest between values stop →
    Evaluates recur env ((name, expr) :: rest) start ((name, value) :: values) stop

namespace Evaluates

variable {recur : Evaluator} {env : Environment} {start stop : Machine} {values : Fields Value}

/-- The values have the names of their fields. -/
theorem keys {fields : List (String × Expr)} (evaluated : Evaluates recur env fields start values stop) :
    values.keys = Fields.keys fields := by
  -- The induction is on the evaluation, which takes the fields in order.
  induction evaluated with
  | nil _ => rfl
  | cons _ _ ih => simpa [Fields.keys] using ih

/-- Fields that stand before others are evaluated before them. -/
theorem split {before later : List (String × Expr)}
    (evaluated : Evaluates recur env (before ++ later) start values stop) :
    ∃ held between others, values = held ++ others ∧ Evaluates recur env before start held between ∧
      Evaluates recur env later between others stop := by
  -- The induction is on the fields that stand before.
  induction before generalizing start values with
  | nil => exact ⟨[], start, values, rfl, .nil start, evaluated⟩
  | cons field rest ih =>
    cases evaluated with
    | cons here further =>
      obtain ⟨held, between, others, rfl, first, second⟩ := ih further
      exact ⟨_ :: held, between, others, rfl, .cons here first, second⟩

/-- Evaluating every field in order gives the values, each under the name of its field. -/
theorem each {fields : List (String × Expr)} (evaluated : Evaluates recur env fields start values stop) :
    Run.each (fun entry => do return (entry.1, ← recur env entry.2)) fields start =
      (.done values, stop) := by
  -- The induction is on how the fields are evaluated, one after the other.
  induction evaluated with
  | nil _ => rfl
  | @cons name expr _ value _ start between _ here _ ih =>
    have named : (recur env expr >>= fun value => pure (name, value)) start =
        (.done (name, value), between) := Run.andThen_of_done here
    exact (Run.andThen_of_done named).trans (Run.andThen_of_done ih)

variable {depth : Nat} {fields : List (String × Expr)}

/-- A record whose fields have values is those values merged. -/
theorem record (evaluated : Evaluates (eval depth) env fields start values stop) :
    eval (depth + 1) env (.record fields) start = (.done (.recordOf values), stop) :=
  Run.andThen_of_done evaluated.each

/-- A field of a record that is written out is the last one of its name, or there is none. -/
theorem dot (evaluated : Evaluates (eval depth) env fields start values stop) (name : String) :
    eval (depth + 2) env (.dot (.record fields) name) start =
      (match values.last? name with
        | some value => .done value
        | none => .fault (.missingField name), stop) := by
  -- The record is built first, and the access to it changes no machine.
  refine (Run.andThen_of_done evaluated.record).trans ?_
  simp only [field, Value.recordOf, Value.asRecord, bind, Except.bind, Fields.get?_ofPairs_eq_last?]
  cases values.last? name <;> rfl

end Evaluates

end Eval

/-- The last of several pairs of a name is the one after which the name does not occur. -/
theorem Fields.last?_split {α : Type} {before later : Fields α} {name : String} (value : α)
    (last : name ∉ later.keys) : (before ++ (name, value) :: later).last? name = some value := by
  -- Whatever comes before the pair is hidden by it, and nothing after it has the name.
  rw [Fields.last?_append, ← List.singleton_append, Fields.last?_append,
    Fields.last?_eq_none_iff.mpr last]
  simp [Fields.last?]

namespace Value

open Eval (Evaluates)

/--
Records are pairs merged in one way only.

The names are the distinct names of the pairs at their first places; under each stands the last value
that was paired with it. Merging what is merged changes nothing, alone or with other pairs. So a field
that is asked for in a record that is written out has the value of the last field of its name, and it is
missing exactly where there is no such field.
-/
theorem recordOf_canonical (pairs more : Fields Value) :
    (∃ fields others : Fields Value, recordOf pairs = .record fields ∧
      recordOf more = .record others ∧
      fields.keys = pairs.keys.eraseDups ∧
      (∀ name, fields.get? name = pairs.last? name ∧
        (fields.get? name = none ↔ name ∉ pairs.keys)) ∧
      recordOf fields = recordOf pairs ∧
      recordOf (pairs ++ more) = recordOf (fields ++ others)) ∧
    ∀ (depth : Nat) (env : Environment) (fields : List (String × Expr)) (start stop : Machine)
      (values : Fields Value) (name : String),
      Evaluates (eval depth) env fields start values stop →
      (∀ before expr later, fields = before ++ (name, expr) :: later → name ∉ Fields.keys later →
        ∃ held between value after others, Evaluates (eval depth) env before start held between ∧
          eval depth env expr between = (.done value, after) ∧
          Evaluates (eval depth) env later after others stop ∧
          eval (depth + 2) env (.dot (.record fields) name) start = (.done value, stop)) ∧
      ((∃ fault, (eval (depth + 2) env (.dot (.record fields) name) start).1 = .fault fault ∧
          fault.diagnostic?.map Diagnostic.code = some "E403") ↔
        name ∉ Fields.keys fields) := by
  constructor
  -- The names and the values follow from how a merge finds and orders them.
  · refine ⟨_, _, rfl, rfl, Fields.keys_ofPairs pairs, fun name => ⟨Fields.get?_ofPairs_eq_last? pairs name,
      ?_⟩, ?_, ?_⟩
    · rw [Fields.get?_eq_none_iff, Fields.mem_keys_ofPairs]
    · exact congrArg record (Fields.ofPairs_ofPairs pairs)
    · -- What stands behind may be merged first; what stands in front is then merged with it.
      apply congrArg record
      rw [Fields.ofPairs_append_ofPairs, Fields.ofPairs_append, Fields.ofPairs_append,
        Fields.ofPairs_ofPairs]
  · intro depth env fields start stop values name evaluated
    constructor
    · rintro before expr later rfl last
      -- An evaluation of all fields is one of those in front, of the field and of those behind.
      obtain ⟨held, between, _, rfl, first, second⟩ := evaluated.split
      cases second with
      | @cons _ _ _ value others _ after _ here further =>
        refine ⟨held, between, value, after, others, first, here, further, ?_⟩
        rw [evaluated.dot, Fields.last?_split value (further.keys ▸ last)]
    -- Evaluated fields have the names that were written, so a missing name is missing from both.
    · rw [evaluated.dot, ← evaluated.keys, ← Fields.last?_eq_none_iff]
      cases values.last? name with
      | none => exact ⟨fun _ => rfl, fun _ => ⟨_, rfl, rfl⟩⟩
      | some value => simp

/-- A machine whose clock moves on by one with each reading. -/
def ticking : Machine where
  clock index := 7 + index

/-- A record with two readings of the clock under one name. -/
def readings : List (String × Expr) :=
  [("at", .var "now"), ("by", .literal (.text "ann")), ("at", .var "now")]

/-- The name of both readings stands for the later one, and another name stands for nothing. -/
theorem recordOf_canonical_readings :
    ∃ values stop, Evaluates (eval 1) (Library.environment [] []) readings ticking values stop ∧
      (∃ held between value after, Evaluates (eval 1) (Library.environment [] [])
          [("at", .var "now"), ("by", .literal (.text "ann"))] ticking held between ∧
        eval 1 (Library.environment [] []) (.var "now") between = (.done value, after) ∧
        eval 3 (Library.environment [] []) (.dot (.record readings) "at") ticking =
          (.done value, stop)) ∧
      ∃ fault, (eval 3 (Library.environment [] []) (.dot (.record readings) "on") ticking).1 =
          .fault fault ∧ fault.diagnostic?.map Diagnostic.code = some "E403" := by
  -- Two readings are taken, so the clock has moved on by two.
  have evaluated : Evaluates (eval 1) (Library.environment [] []) readings ticking
      [("at", .int 7), ("by", .text "ann"), ("at", .int 8)]
      { ticking with clock := Run.later (Run.later ticking.clock) } :=
    .cons rfl (.cons rfl (.cons rfl (.nil _)))
  -- One application gives the statement for every name.
  have fields := fun name => (recordOf_canonical [] []).2 1 _ readings _ _ _ name evaluated
  obtain ⟨held, between, value, after, _, first, here, _, found⟩ := (fields "at").1
    [("at", .var "now"), ("by", .literal (.text "ann"))] (.var "now") [] rfl (by decide)
  exact ⟨_, _, evaluated, ⟨held, between, value, after, first, here, found⟩,
    (fields "on").2.mpr (by decide)⟩

end Value

end PageServer
