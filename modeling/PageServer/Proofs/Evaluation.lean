import PageServer.Proofs.Lockstep

/-! Evaluation keeps two machines together, and its values are made from the program. -/

namespace PageServer

namespace Lockstep

variable {pair : Lockstep} {endpoint : Endpoint}

/-- An evaluator keeps machines together on every piece of the body and in every made scope. -/
def Recurs (pair : Lockstep) (endpoint : Endpoint) (recur : Eval.Evaluator) : Prop :=
  ∀ {env expr}, Environment.Made endpoint env → endpoint.Holds expr →
    pair.Keeps (Value.Made endpoint) (recur env expr)

/-- The value of a name is made; the clock is read only where the body mentions it. -/
theorem variableValue_keeps (serves : pair.Serves endpoint) {env : Environment} {name : String}
    (made : Environment.Made endpoint env) (held : endpoint.Holds (.var name)) :
    pair.Keeps (Value.Made endpoint) (Eval.variableValue env name) := by
  -- A name is unbound, stands for the clock, or stands for a value.
  unfold Eval.variableValue
  split
  · exact keeps_fail _
  · -- The reading of the clock stands under its own name, which the body then mentions.
    rename_i found
    rcases made.lookup? found with impossible | ⟨rfl, _⟩
    · cases impossible
    · apply (serves.tick held.node).andThen
      intro n _
      exact keeps_pure (.int n)
  · rename_i value other found
    rcases made.lookup? found with fine | ⟨_, rfl⟩
    · exact keeps_pure fine
    · exact absurd rfl other

/-- Applying one made value to another gives made values. -/
theorem applyWith_keeps {recur : Eval.Evaluator} (recurs : pair.Recurs endpoint recur)
    {function argument : Value} (made : Value.Made endpoint function)
    (given : Value.Made endpoint argument) :
    pair.Keeps (Value.Made endpoint) (Eval.applyWith recur function argument) := by
  -- Elements build markup, functions go on with their body, and the rest is refused.
  unfold Eval.applyWith
  cases made with
  | tag known =>
    dsimp only
    -- A tag that is applied to a record waits for its body.
    split
    · rename_i fields
      cases given with
      | record names held => exact keeps_pure (.tagWith known names held)
    -- A body of any other kind is rendered and put between the tags.
    · apply keeps_lift
      intro value built
      obtain ⟨body, markup, rendered, written, rfl⟩ := Eval.element_eq_ok.mp built
      exact .raw (Markup.element_isFragment known (by simp [Fields.keys]) (given.render rendered)
        written)
  | tagWith known names _ =>
    apply keeps_lift
    intro value built
    obtain ⟨body, markup, rendered, written, rfl⟩ := Eval.element_eq_ok.mp built
    exact .raw (Markup.element_isFragment known (fun _ member => names.attributeName member)
      (given.render rendered) written)
  | @closure _ scope param body piece held =>
    have inside : Environment.Made endpoint scope := held
    -- The scope of a function is made, and the argument goes on top of it.
    exact recurs (inside.bind param given) piece
  | builtin function =>
    cases function
    exact keeps_lift fun _ sent => Value.Made.redirect sent
  | text _ | int _ | bool _ | list _ | record _ _ | query _ | raw _ | response _ =>
    -- Nothing else can be applied.
    exact keeps_fail _

/-- What fits each item in turn is good throughout, if nothing is asked of the items. -/
theorem all_of_forall₂ {α β : Type} {good : β → Prop} {items : List α} {values : List β}
    (fit : List.Forall₂ (fun _ value => good value) items values) :
    ∀ value ∈ values, good value := by
  -- The two lists are as long as each other, so every value has its item.
  induction fit with
  | nil => simp
  | cons here _ ih => simpa [here] using ih

/-- Entries that have the names of other entries in turn have the same names. -/
theorem keys_of_forall₂ {α β : Type} {good : β → Prop} {fields : Fields α} {named : Fields β}
    (fit : List.Forall₂ (fun entry other => other.1 = entry.1 ∧ good other.2) fields named) :
    named.keys = fields.keys := by
  -- The induction is on the two lists in step.
  induction fit with
  | nil => rfl
  | cons here _ ih => simpa [Fields.keys, here.1] using ih

/-- One node keeps machines together if its parts do. -/
theorem step_keeps (serves : pair.Serves endpoint) {recur : Eval.Evaluator}
    (recurs : pair.Recurs endpoint recur) {env : Environment} {expr : Expr}
    (made : Environment.Made endpoint env) (held : endpoint.Holds expr) :
    pair.Keeps (Value.Made endpoint) (Eval.step recur env expr) := by
  -- One case for each kind of node; parts are evaluated in the order of the source.
  cases expr with
  | literal given => exact keeps_lift fun _ read => Value.Made.literal read
  | var name => exact variableValue_keeps serves made held
  | app function argument =>
    apply (recurs made held.app.1).andThen
    -- The function comes before its argument.
    intro applied fine
    apply (recurs made held.app.2).andThen
    intro given alsoFine
    exact applyWith_keeps recurs fine alsoFine
  | abs param body =>
    -- A function keeps its scope, which is made like the values in it.
    apply serves.freshIdentity.andThen
    intro identity _
    exact keeps_pure (.closure held.abs made)
  | list elements =>
    apply (keeps_each fun element member => recurs made (held.list member)).andThen
    intro values fit
    exact keeps_pure (.list (all_of_forall₂ fit))
  | record fields =>
    -- Each value keeps the name of its field.
    have each : ∀ entry ∈ fields, pair.Keeps
        (fun named : String × Value => named.1 = entry.1 ∧ Value.Made endpoint named.2)
        (do return (entry.1, ← recur env entry.2)) := by
      intro entry member
      apply (recurs made (held.record member)).andThen
      intro value fine
      exact keeps_pure ⟨rfl, fine⟩
    apply (keeps_each each).andThen
    intro named fit
    have names : Fields.keys named = Fields.keys fields := keys_of_forall₂ fit
    apply keeps_pure
    refine .record ?_ fun entry member =>
      all_of_forall₂ (fit.imp fun _ _ both => both.2) entry (Fields.mem_of_mem_ofPairs member)
    rw [Fields.keys_ofPairs, names]
    exact Or.inl ⟨_, Expr.mem_records held.node, rfl⟩
  | dot whole name =>
    apply (recurs made held.dot).andThen
    intro value fine
    exact keeps_lift fun _ found => fine.field found
  | op operator left right =>
    apply (recurs made held.op.1).andThen
    intro first _
    apply (recurs made held.op.2).andThen
    intro second _
    exact keeps_lift fun _ computed => Value.Made.operate computed
  | forEach query arguments body =>
    have pieces := held.forEach
    -- The arguments come first, then the rows.
    apply (keeps_each fun argument member => recurs made (pieces.1 argument member)).andThen
    intro given _
    apply (serves.select query (Expr.mem_queries held.node) given).andThen
    intro rows _
    -- Each row binds made values over the same scope.
    have each : ∀ row ∈ rows, pair.Keeps (Value.Made endpoint) (do
        let bindings ← Run.lift (Storage.decodeRow query row)
        recur (env.extend bindings) body) := by
      intro row _
      apply (keeps_lift fun _ decoded => Value.Made.decodeRow decoded).andThen
      intro bindings fine
      exact recurs (made.extend fine) pieces.2
    apply (keeps_each each).andThen
    intro values fit
    exact keeps_pure (.list (all_of_forall₂ fit))
  | insert table value next =>
    apply (recurs made held.insert.1).andThen
    intro whole fine
    -- Only a record is inserted, and its names are among those of the body.
    apply (keeps_lift fun _ read => (fine.asRecord read).1).andThen
    intro fields names
    apply (serves.insert table (Expr.mem_targets held.node) fields names).andThen
    intro _ _
    exact recurs made held.insert.2
  | hole kind => exact keeps_fail _

/-- Evaluation to any depth keeps machines together, and its values are made. -/
theorem eval_keeps (serves : pair.Serves endpoint) (depth : Nat) :
    pair.Recurs endpoint (eval depth) := by
  -- Each level of depth is one node around evaluations of less depth.
  induction depth with
  | zero => exact fun _ _ => keeps_exhausted
  | succ depth ih => exact fun made held => step_keeps serves ih made held

/-- Application to any depth keeps machines together, and its values are made. -/
theorem apply_keeps (serves : pair.Serves endpoint) (depth : Nat) {function argument : Value}
    (made : Value.Made endpoint function) (given : Value.Made endpoint argument) :
    pair.Keeps (Value.Made endpoint) (apply depth function argument) :=
  applyWith_keeps (eval_keeps serves depth) made given

end Lockstep

end PageServer
