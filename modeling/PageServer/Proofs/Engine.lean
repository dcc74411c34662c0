import PageServer.Proofs.Growth

/-!
What is asked of the engines beside a store.

An engine is asked only what goes beyond the language laid down here, and each statement of a request
has one of the engines that were there when the request came. A query is answered if each of these comes
to an end with it; a query within the language always is. Evaluation waits without end only where a
query is not answered.
-/

namespace PageServer

namespace Store

/-- Whether a question goes beyond the language, so that an engine is asked. -/
def Question.isOpen (question : Question) : Bool :=
  match question.selection? with
  | .ok none => true
  | _ => false

/-- A question is open if it is read, and no selection within the language comes of it. -/
theorem Question.isOpen_iff {question : Question} :
    question.isOpen ↔ question.selection? = .ok none := by
  -- A selection is found, or none is, or the text is refused.
  unfold isOpen
  split <;> simp_all

/-- An engine comes to an end with a question to a store, if it accepts it, for all values in it. -/
def Engine.Answers (engine : Engine) (store : Store) (question : Question) : Prop :=
  ∀ foreign, engine.accept store question = .ok foreign → ∀ cells, foreign.answer cells ≠ none

/-- A statement that is prepared for a question takes its step, if the engine comes to an end. -/
theorem prepareSelect_answers {store : Store} {engine : Engine} {question : Question}
    {parameters : List Cell} {statement : Prepared (List (Fields Cell))}
    (answers : question.isOpen → engine.Answers store question)
    (prepared : store.prepareSelect engine question parameters = .ok statement)
    (cells : List Cell) : statement.step cells ≠ none := by
  -- A selection always ends; a step of the engine ends if its answer is there.
  rcases prepareSelect_cases prepared with ⟨selection, _, ready⟩ | ⟨beyond, ready⟩
  · obtain ⟨relation, aside, _, step⟩ := Selection.prepare_cases ready
    simp [step]
  · obtain ⟨foreign, relation, accepted, _, step⟩ := Engine.prepare_cases ready
    simpa [step] using answers (Question.isOpen_iff.mpr beyond) foreign accepted cells

/-- An insertion always takes its step. -/
theorem prepareInsert_answers {store : Store} {table : String} {columns : List String}
    {supplied : List (String × Cell)} {statement : Prepared Unit}
    (prepared : store.prepareInsert table columns supplied = .ok statement) (cells : List Cell) :
    statement.step cells ≠ none := by
  -- Whatever is checked before it, the step computes a row or finds a fault.
  unfold prepareInsert at prepared
  simp only [bind_eq_ok] at prepared
  obtain ⟨name, _, names, _, prepared⟩ := prepared
  -- Without a table of the name, the insertion is refused before its step.
  split at prepared
  · split at prepared <;> cases prepared
  · simp only [bind_eq_ok] at prepared
    obtain ⟨_, _, prepared⟩ := prepared
    cases prepared
    simp

namespace Connection

variable {α : Type}

/-- A prepared statement that takes its step is answered. -/
theorem execute_answers (connection : Connection) {statement : Prepared α}
    (steps : ∀ cells, statement.step cells ≠ none) : (connection.execute statement).1 ≠ none := by
  -- A value that is refused is an answer too, and comes before the step.
  unfold execute
  split
  · exact Option.some_ne_none _
  · split
    · exact Option.some_ne_none _
    · exact Option.some_ne_none _
    · rename_i cells _ _ _ stopped
      exact absurd stopped (steps cells)

/-- A text is answered if what is prepared for it takes its step. -/
theorem run_answers {connection : Connection} {text : String}
    {prepare : Store → Except Fault (Prepared α)}
    (steps : ∀ statement, prepare connection.store = .ok statement →
      ∀ cells, statement.step cells ≠ none) : (connection.run text prepare).1 ≠ none := by
  -- What is refused before the step is refused at once.
  unfold run
  split
  · exact Option.some_ne_none _
  · split
    · exact Option.some_ne_none _
    · rename_i statement prepared
      exact execute_answers _ (steps statement prepared)

end Connection

end Store

/-- Whatever a query asks of a store beyond the language, each engine comes to an end with it. -/
def Query.IsAnsweredOn (engines : Nat → Store.Engine) (store : Store) (query : Query) : Prop :=
  ∀ tail, Storage.tail query = .ok tail → (query.question tail).isOpen →
    ∀ index, (engines index).Answers store (query.question tail)

/-- Each engine comes to an end with a query, whatever the store is. -/
def Query.IsAnswered (engines : Nat → Store.Engine) (query : Query) : Prop :=
  ∀ store, query.IsAnsweredOn engines store

/-- A query that stays within the language: no engine is asked. -/
def Query.IsLaidDown (query : Query) : Prop :=
  ∀ tail ∈ (Storage.tail query).toOption, ¬ (query.question tail).isOpen

instance (query : Query) : Decidable query.IsLaidDown :=
  inferInstanceAs (Decidable
    (∀ tail ∈ (Storage.tail query).toOption, ¬ (query.question tail).isOpen))

/-- A query within the language is answered, whatever the engines are. -/
theorem Query.IsLaidDown.isAnswered {query : Query} (within : query.IsLaidDown)
    (engines : Nat → Store.Engine) : query.IsAnswered engines := by
  intro store tail followed beyond
  -- The question spells a selection or is refused, so it is none that goes beyond.
  exact absurd beyond (within tail (by rw [followed]; rfl))

/-! Engines of a request -/

/-- The engines that a machine still has are among the given ones. -/
def Machine.DrawsFrom (machine : Machine) (engines : Nat → Store.Engine) : Prop :=
  ∀ index, ∃ place, machine.engines index = engines place

namespace Machine.DrawsFrom

variable {before after : Machine} {engines : Nat → Store.Engine}

/-- The engines of a machine are among themselves. -/
theorem self (machine : Machine) : machine.DrawsFrom machine.engines := fun index => ⟨index, rfl⟩

/-- What is among engines that are among others is among the others. -/
theorem trans (later : after.DrawsFrom before.engines) (earlier : before.DrawsFrom engines) :
    after.DrawsFrom engines := by
  -- A place among the later engines is one among the earlier, and so among those given.
  intro index
  obtain ⟨place, same⟩ := later index
  obtain ⟨origin, found⟩ := earlier place
  exact ⟨origin, same.trans found⟩

/-- The engines after the next one are among those from it on. -/
theorem of_later (same : after.engines = Run.later before.engines) :
    after.DrawsFrom before.engines :=
  fun index => ⟨index + 1, congrFun same index⟩

/-- The same engines are among themselves. -/
theorem of_same (same : after.engines = before.engines) : after.DrawsFrom before.engines :=
  fun index => ⟨index, congrFun same index⟩

end Machine.DrawsFrom

/-- A query that is answered by some engines is answered by those that are left of them. -/
theorem Query.IsAnsweredOn.mono {query : Query} {engines : Nat → Store.Engine} {store : Store}
    (answered : query.IsAnsweredOn engines store) {machine : Machine}
    (drawn : machine.DrawsFrom engines) : query.IsAnsweredOn machine.engines store := by
  -- Whichever engine the machine has next, it was among those that answer.
  intro tail followed beyond index
  obtain ⟨place, same⟩ := drawn index
  rw [same]
  exact answered tail followed beyond place

/-- A selection uses up at most one engine. -/
theorem Storage.select_draws (query : Query) (arguments : List Value) (machine : Machine) :
    (select query arguments machine).2.DrawsFrom machine.engines := by
  -- What is not written out reaches no engine.
  rcases select_cases query arguments with ⟨fault, same⟩ | ⟨sql, tail, given, _, _, same⟩
  · rw [same]
    exact .self machine
  · rw [same, selection_machine]
    exact .of_later rfl

/-- An insertion uses up at most one engine. -/
theorem Storage.insert_draws (table : String) (fields : Fields Value) (machine : Machine) :
    (insert table fields machine).2.DrawsFrom machine.engines := by
  -- Whether it is written out decides this for an insertion, too.
  rcases insert_cases table fields with ⟨fault, same⟩ | ⟨sql, supplied, _, same⟩
  · rw [same]
    exact .self machine
  · rw [same, insertion_machine]
    exact .of_later rfl

/-- A request leaves engines that were there when it came. -/
theorem Endpoint.Reaches.draws {endpoint : Endpoint} {before after : Machine}
    (reached : endpoint.Reaches before after) : after.DrawsFrom before.engines := by
  -- The induction is on the steps, of which only statements use up an engine.
  induction reached with
  | refl => exact .self before
  | tail _ step ih =>
    refine Machine.DrawsFrom.trans ?_ ih
    cases step with
    | renumber | freshIdentity | note _ => exact .of_same rfl
    | tick _ => exact .of_same rfl
    | select arguments _ => exact Storage.select_draws _ arguments _
    | insert _ _ => exact Storage.insert_draws _ _ _

/-! Computations that do not wait without end -/

/-- A statement does not wait without end if its text is answered. -/
theorem Run.statement_answered {α : Type} {text : String}
    {prepare : Store.Engine → Store → Except Store.Fault (Store.Prepared α)} {machine : Machine}
    (answered : (machine.connection.run text (prepare (machine.engines 0))).1 ≠ none) :
    (Run.statement text prepare machine).1 ≠ .unanswered := by
  intro waits
  -- Only an answer that is missing becomes a wait.
  have ended : Run.ofAnswer (machine.connection.run text (prepare (machine.engines 0))).1 =
      .unanswered := waits
  unfold Run.ofAnswer at ended
  split at ended
  · cases ended
  · cases ended
  · rename_i none
    exact answered none

/-- A query that is answered does not wait without end. -/
theorem Storage.select_answered {query : Query} (arguments : List Value) {machine : Machine}
    (answered : query.IsAnsweredOn machine.engines machine.store) :
    (select query arguments machine).1 ≠ .unanswered := by
  -- A query that is not written out fails; one that is has its answer from an engine.
  rcases select_cases query arguments with ⟨fault, same⟩ | ⟨sql, tail, given, _, followed, same⟩
  · rw [same]
    nofun
  · rw [same, selection, Run.note_andThen]
    apply Run.statement_answered
    exact Store.Connection.run_answers fun _ prepared =>
      Store.prepareSelect_answers (fun beyond => answered tail followed beyond 0) prepared

/-- An insertion does not wait without end. -/
theorem Storage.insert_answered (table : String) (fields : Fields Value) (machine : Machine) :
    (insert table fields machine).1 ≠ .unanswered := by
  -- An insertion asks no engine, so its step always gives an answer.
  rcases insert_cases table fields with ⟨fault, same⟩ | ⟨sql, supplied, _, same⟩
  · rw [same]
    nofun
  · rw [same, insertion, Run.note_andThen]
    apply Run.statement_answered
    exact Store.Connection.run_answers fun _ prepared => Store.prepareInsert_answers prepared

/-- The queries of an expression are answered, with whatever rows are added where it inserts. -/
def Expr.IsAnswered (expr : Expr) (machine : Machine) : Prop :=
  ∀ query ∈ expr.queries, ∀ store,
    machine.store.GrowsAmong (expr.targets.map Store.bareName) store →
      query.IsAnsweredOn machine.engines store

/-- An expression whose queries stay within the language is answered on every machine. -/
theorem Expr.IsAnswered.of_laidDown {expr : Expr} (within : ∀ query ∈ expr.queries, query.IsLaidDown)
    (machine : Machine) : expr.IsAnswered machine :=
  fun query asked store _ => (within query asked).isAnswered machine.engines store

namespace Endpoint

variable {endpoint : Endpoint} {start : Machine}

/-- A machine beside itself, reached from where the request started, that does not wait. -/
def answering (endpoint : Endpoint) (start : Machine) : Lockstep where
  running a b := a = b ∧ endpoint.Reaches start a
  faulted _ _ _ _ := True
  exhausted _ _ := True
  unanswered _ _ := False
  faulted_of_running _ _ := trivial
  exhausted_of_running _ := trivial

/-- A computation of one step that is answered on each reached machine does not wait. -/
theorem answering_keeps {α : Type} {run : Run α}
    (step : ∀ machine, endpoint.Step machine (run machine).2)
    (answered : ∀ machine, endpoint.Reaches start machine → (run machine).1 ≠ .unanswered) :
    (endpoint.answering start).Keeps (fun _ => True) run := by
  -- Beside itself, a machine is reached again with what the step adds.
  rintro machine _ ⟨rfl, reached⟩
  have further := reached.tail (step machine)
  have ends := answered machine reached
  generalize run machine = ended at further ends
  obtain ⟨outcome, after⟩ := ended
  cases outcome with
  | done value => exact .done trivial ⟨rfl, further⟩
  | fault fault => exact .fault trivial
  | exhausted => exact .exhausted trivial
  | unanswered => exact absurd rfl ends

/-- The operations of a request do not wait if the queries of its body are answered. -/
theorem answering_serves (answered : endpoint.body.IsAnswered start) :
    (endpoint.answering start).Serves endpoint where
  tick mentioned := answering_keeps (fun machine => .tick machine mentioned) fun _ _ => nofun
  freshIdentity := answering_keeps .freshIdentity fun _ _ => nofun
  note _ plain := answering_keeps (fun machine => .note machine plain) fun _ _ => nofun
  select query asked arguments := by
    apply answering_keeps fun machine => .select machine arguments asked
    -- What has been reached has more rows, and some of the engines.
    intro machine reached
    apply Storage.select_answered
    exact (answered query asked machine.store reached.grows).mono reached.draws
  insert table named _ names :=
    answering_keeps (fun machine => .insert machine named names) fun machine _ =>
      Storage.insert_answered table _ machine

end Endpoint

/-- The page whose body is an expression. -/
def Expr.page (expr : Expr) : Endpoint :=
  { method := "GET", path := ⟨[]⟩, body := expr, type := .primitive "html" }

/-- Evaluation does not wait without end on a machine that answers the queries of the expression. -/
theorem Expr.IsAnswered.eval {expr : Expr} {machine : Machine} (answered : expr.IsAnswered machine)
    (depth : Nat) (tables : List Table) (pathVars : Fields String) :
    (eval depth (Library.environment tables pathVars) expr machine).1 ≠ .unanswered := by
  -- The expression is evaluated as the body of a page is.
  have serves : (expr.page.answering machine).Serves expr.page := Endpoint.answering_serves answered
  have keeps := Lockstep.eval_keeps serves depth
    (Library.environment_made expr.page tables pathVars) fun _ member => member
  have ended := keeps machine machine ⟨rfl, .refl⟩
  change (PageServer.eval depth _ expr.page.body machine).1 ≠ .unanswered
  generalize PageServer.eval depth _ expr.page.body machine = reached at ended
  cases ended with
  | unanswered waits => exact waits.elim
  | _ => nofun

end PageServer
