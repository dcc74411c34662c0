import PageServer.Machine

/-!
One computation after another.

A sequence goes on exactly if its first computation has a value, on the machine that this has left. What
is proved of longer computations rests on this alone.
-/

namespace PageServer.Run

variable {α β : Type} {first : Run α} {next : α → Run β} {machine between : Machine}

/-- A sequence goes on with the value of its first computation, on the machine that this has left. -/
theorem andThen_of_done {value : α} (ended : first machine = (.done value, between)) :
    (first >>= next) machine = next value between := by
  -- The two are the same by definition, and `andThen` shows what is done first.
  change Run.andThen first next machine = next value between
  simp only [Run.andThen, ended]

/-- A sequence ends with a fault of its first computation. -/
theorem andThen_of_fault {fault : Fault} (ended : first machine = (.fault fault, between)) :
    (first >>= next) machine = (.fault fault, between) := by
  change Run.andThen first next machine = _
  simp only [Run.andThen, ended]

/-- A sequence runs out of depth if its first computation does. -/
theorem andThen_of_exhausted (ended : first machine = (.exhausted, between)) :
    (first >>= next) machine = (.exhausted, between) := by
  change Run.andThen first next machine = _
  simp only [Run.andThen, ended]

/-- A sequence is never answered if its first computation is not. -/
theorem andThen_of_unanswered (ended : first machine = (.unanswered, between)) :
    (first >>= next) machine = (.unanswered, between) := by
  change Run.andThen first next machine = _
  simp only [Run.andThen, ended]

/-- What comes after a note finds it in the log. -/
theorem note_andThen (entry : Log.Entry) (next : Unit → Run β) (machine : Machine) :
    (Run.note entry >>= next) machine =
      next () { machine with log := machine.log ++ [entry] } := rfl

/-- A sequence of two computations that has a value has it from both. -/
theorem andThen_done {value : β} (ended : ((first >>= next) machine).1 = .done value) :
    ∃ found between, first machine = (.done found, between) ∧
      (next found between).1 = .done value := by
  rcases reached : first machine with ⟨outcome, between⟩
  -- Only a value lets the second computation begin.
  cases outcome with
  | done found =>
    rw [andThen_of_done reached] at ended
    exact ⟨found, between, rfl, ended⟩
  | fault fault =>
    rw [andThen_of_fault reached] at ended
    cases ended
  | exhausted =>
    rw [andThen_of_exhausted reached] at ended
    cases ended
  | unanswered =>
    rw [andThen_of_unanswered reached] at ended
    cases ended

/-- A fault of a sequence of two computations is one of the first, or of the second after it. -/
theorem andThen_fault {fault : Fault} (failed : ((first >>= next) machine).1 = .fault fault) :
    (first machine).1 = .fault fault ∨
      ∃ found between, first machine = (.done found, between) ∧
        (next found between).1 = .fault fault := by
  -- Only after a value can a fault come from the second computation.
  rcases reached : first machine with ⟨outcome, between⟩
  cases outcome with
  | done found =>
    rw [andThen_of_done reached] at failed
    exact Or.inr ⟨found, between, rfl, failed⟩
  | fault other =>
    rw [andThen_of_fault reached] at failed
    cases failed
    exact Or.inl rfl
  | exhausted =>
    rw [andThen_of_exhausted reached] at failed
    cases failed
  | unanswered =>
    rw [andThen_of_unanswered reached] at failed
    cases failed

/-- A sequence of two computations of which the first has no value ends as the first. -/
theorem andThen_stopped (stopped : ∀ value, (first machine).1 ≠ .done value) :
    ((first >>= next) machine).2 = (first machine).2 ∧
      (∀ value, ((first >>= next) machine).1 ≠ .done value) ∧
      ∀ fault, ((first >>= next) machine).1 = .fault fault → (first machine).1 = .fault fault := by
  -- Without a value, the outcome is handed on by each of the other cases.
  rcases reached : first machine with ⟨outcome, between⟩
  cases outcome with
  | done found => exact absurd (congrArg Prod.fst reached) (stopped found)
  | fault fault => simp [andThen_of_fault reached]
  | exhausted => simp [andThen_of_exhausted reached]
  | unanswered => simp [andThen_of_unanswered reached]

/-- A last step that gives the value it is given changes nothing. -/
theorem bind_pure (run : Run α) : (run >>= pure) = run := by
  -- Each end of the computation is passed on as it is.
  funext machine
  rcases reached : run machine with ⟨outcome, after⟩
  cases outcome with
  | done value => exact andThen_of_done reached
  | fault fault => exact andThen_of_fault reached
  | exhausted => exact andThen_of_exhausted reached
  | unanswered => exact andThen_of_unanswered reached

/-- A pure result that has a value has it as a computation. -/
theorem lift_done {result : Except Fault α} {value : α}
    (ended : (Run.lift result machine).1 = .done value) : result = .ok value := by
  -- A fault is no value.
  cases result with
  | error fault => cases ended
  | ok found =>
    cases ended
    rfl

/-- A pure result leaves the machine as it is. -/
theorem lift_same {result : Except Fault α} {outcome : Outcome α}
    (ended : Run.lift result machine = (outcome, between)) : between = machine := by
  cases result with
  | error fault => exact (congrArg Prod.snd ended).symm
  | ok value => exact (congrArg Prod.snd ended).symm

end PageServer.Run
