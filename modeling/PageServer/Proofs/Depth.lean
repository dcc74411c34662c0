import PageServer.Eval
import PageServer.Proofs.Sequence

/-!
Depth to spare does not matter.

Evaluation is given a depth of nodes within nodes that it may go to. If it ends with a value or a fault,
it ends in the same way, and leaves the machine the same, however much deeper it may go.
-/

namespace PageServer

/-- A computation that does what another one does, wherever that does not run out of depth. -/
def Run.Deepens {α : Type} (deeper run : Run α) : Prop :=
  ∀ machine, (run machine).1 ≠ .exhausted → deeper machine = run machine

namespace Run.Deepens

variable {α β : Type}

/-- A computation does what it does itself. -/
theorem refl (run : Run α) : run.Deepens run := fun _ _ => rfl

/-- A sequence does what another does if its parts do, the second for every value. -/
theorem andThen {deeper run : Run α} {more next : α → Run β} (before : deeper.Deepens run)
    (after : ∀ value, (more value).Deepens (next value)) :
    (deeper >>= more).Deepens (run >>= next) := by
  intro machine ended
  have same := before machine
  rcases reached : run machine with ⟨outcome, between⟩
  rw [reached] at same
  -- A first part that has run out of depth leaves the whole without an end.
  cases outcome with
  | done value =>
    rw [Run.andThen_of_done reached] at ended ⊢
    rw [Run.andThen_of_done (same nofun)]
    exact after value between ended
  | fault fault => rw [Run.andThen_of_fault reached, Run.andThen_of_fault (same nofun)]
  | exhausted =>
    rw [Run.andThen_of_exhausted reached] at ended
    exact absurd rfl ended
  | unanswered =>
    rw [Run.andThen_of_unanswered reached, Run.andThen_of_unanswered (same nofun)]

/-- Items are computed as they are with less depth, if each one is. -/
theorem each {deeper run : α → Run β} (deepens : ∀ item, (deeper item).Deepens (run item))
    (items : List α) : (Run.each deeper items).Deepens (Run.each run items) := by
  -- The induction is on the items, of which the later ones are a sequence after the first.
  induction items with
  | nil => exact refl _
  | cons item rest ih => exact (deepens item).andThen fun _ => ih.andThen fun _ => refl _

end Run.Deepens

namespace Eval

variable {deeper recur : Evaluator}

/-- Applying a function does what it does with less depth, if function bodies do. -/
theorem applyWith_deepens (deepens : ∀ env expr, (deeper env expr).Deepens (recur env expr))
    (function argument : Value) :
    (applyWith deeper function argument).Deepens (applyWith recur function argument) := by
  -- Only a function of the program goes on with a body.
  unfold applyWith
  split
  · exact .refl _
  · exact .refl _
  · exact deepens _ _
  · exact .refl _
  · exact .refl _

/-- One node does what it does with less depth, if its parts do. -/
theorem step_deepens (deepens : ∀ env expr, (deeper env expr).Deepens (recur env expr))
    (env : Environment) (expr : Expr) : (step deeper env expr).Deepens (step recur env expr) := by
  -- One case for each kind of node; parts are evaluated in the order of the source.
  cases expr with
  | literal _ | var _ | abs _ _ | hole _ => exact .refl _
  -- The function and its argument come first, then the application.
  | app function argument =>
    exact (deepens _ _).andThen fun _ => (deepens _ _).andThen fun _ => applyWith_deepens deepens _ _
  | list elements => exact (Run.Deepens.each (deepens env) elements).andThen fun _ => .refl _
  | record fields =>
    -- Each field is paired with its name after its value is known.
    have each := fun entry : String × Expr => (deepens env entry.2).andThen fun value =>
      Run.Deepens.refl (pure (entry.1, value))
    exact (Run.Deepens.each each fields).andThen fun _ => .refl _
  | dot whole name => exact (deepens _ _).andThen fun _ => .refl _
  | op operator left right =>
    exact (deepens _ _).andThen fun _ => (deepens _ _).andThen fun _ => .refl _
  | forEach query arguments body =>
    apply (Run.Deepens.each (deepens env) arguments).andThen
    intro given
    apply (Run.Deepens.refl (Storage.select query given)).andThen
    intro rows
    -- Each row is decoded and then bound over the same scope.
    have each := fun row : Fields Store.Cell =>
      (Run.Deepens.refl (Run.lift (Storage.decodeRow query row))).andThen fun bindings =>
        deepens (env.extend bindings) body
    exact (Run.Deepens.each each rows).andThen fun _ => .refl _
  | insert table value next =>
    apply (deepens _ _).andThen
    intro whole
    apply (Run.Deepens.refl (Run.lift (whole.asRecord "insert"))).andThen
    intro fields
    exact (Run.Deepens.refl (Storage.insert table fields)).andThen fun _ => deepens _ _

end Eval

/-- Evaluation to a greater depth does what it does to a smaller one, wherever that suffices. -/
theorem eval_deepens {depth deeper : Nat} (within : depth ≤ deeper) (env : Environment) (expr : Expr) :
    (eval deeper env expr).Deepens (eval depth env expr) := by
  -- Each level of depth is one node around evaluations of less depth.
  induction depth generalizing deeper env expr with
  | zero => exact fun _ ended => absurd rfl ended
  | succ depth ih =>
    obtain ⟨more, rfl⟩ : ∃ more, deeper = more + 1 := ⟨deeper - 1, by omega⟩
    exact Eval.step_deepens (ih (by omega)) env expr

end PageServer
