import PageServer.Proofs.Basic
import PageServer.Proofs.Sequence
import PageServer.Storage

/-! What a statement can do to a connection, and which statements queries and insertions run. -/

namespace PageServer

/-- A name that is read is no reserved word, and is the given one without line feeds. -/
theorem Store.readName_eq_ok {given name : String} :
    Store.readName given = .ok name ↔
      Store.isKeyword (Store.bareName given) = false ∧ Store.bareName given = name := by
  -- A reserved word is refused, any other name is read.
  unfold Store.readName
  cases Store.isKeyword (Store.bareName given) <;> simp

namespace Store.Connection

variable {α : Type}

/-- Running a prepared statement leaves the store as it is, or as the statement gives it. -/
theorem store_execute (connection : Connection) (statement : Prepared α) :
    (connection.execute statement).2.store = connection.store ∨
      ∃ cells answer,
        statement.step cells = some (.ok ((connection.execute statement).2.store, answer)) := by
  -- The step is taken only if all values could be bound.
  unfold execute
  split
  · exact Or.inl rfl
  · rename_i cells _ _
    split
    · rename_i store answer stepped
      exact Or.inr ⟨cells, answer, stepped⟩
    · exact Or.inl rfl
    · exact Or.inl rfl

/-- A run leaves the store as it is, unless the statement itself gives another one. -/
theorem store_run (connection : Connection) (text : String)
    (prepare : Store → Except Fault (Prepared α)) :
    (connection.run text prepare).2.store = connection.store ∨
      ∃ statement cells answer, prepare connection.store = .ok statement ∧
        statement.step cells = some (.ok ((connection.run text prepare).2.store, answer)) := by
  -- A text that is refused, or not prepared, leaves the connection its store.
  unfold run
  split
  · exact Or.inl rfl
  · split
    · exact Or.inl rfl
    · rename_i statement prepared
      rcases store_execute _ statement with same | ⟨cells, answer, stepped⟩
      · exact Or.inl same
      · exact Or.inr ⟨statement, cells, answer, prepared, stepped⟩

end Store.Connection

namespace Store

variable {store : Store} {question : Question} {parameters : List Cell}
  {statement : Prepared (List (Fields Cell))}

/-- A selection is from a table of the store; its step runs it and hands on the store. -/
theorem Selection.prepare_cases {selection : Selection} {rest : List Char}
    (prepared : selection.prepare store rest parameters = .ok statement) :
    ∃ relation aside, store.readable? selection.table = some relation ∧
      ∀ cells, statement.step cells = some do
        let rows ← (selection.answered (some relation)).run relation ⟨cells, store.tally⟩ aside
        return (store, rows) := by
  unfold Selection.prepare at prepared
  -- Three checks come between the table and the statement.
  split at prepared
  · cases prepared
  · rename_i relation readable
    split at prepared
    · cases prepared
    · simp only [bind_eq_ok] at prepared
      obtain ⟨coding, _, prepared⟩ := prepared
      split at prepared
      · cases prepared
      · cases prepared
        exact ⟨relation, coding.aside, readable, fun _ => rfl⟩

/-- What an engine accepts is about a table of the store; its step hands on the store. -/
theorem Engine.prepare_cases {engine : Engine}
    (prepared : engine.prepare store question parameters = .ok statement) :
    ∃ foreign relation, engine.accept store question = .ok foreign ∧
      store.readable? (bareName question.table) = some relation ∧
      ∀ cells, statement.step cells = (foreign.answer cells).map fun answered =>
        answered.map fun rows => (store, rows.map (relation.headed question.columns)) := by
  unfold Engine.prepare at prepared
  simp only [bind_eq_ok] at prepared
  -- The engine accepts the question, and the table then gives its rows their names.
  obtain ⟨foreign, accepted, prepared⟩ := prepared
  split at prepared
  · cases prepared
  · rename_i relation readable
    cases prepared
    exact ⟨foreign, relation, accepted, readable, fun _ => rfl⟩

/-- A question is read as a selection if it spells that one, and nothing in it is open. -/
theorem Question.selection?_eq_some {selection : Selection} :
    question.selection? = .ok (some selection) ↔
      Selection.ofTokens question.tokens.1 = .ok selection ∧ selection.isOpen = false := by
  unfold selection?
  -- What is spelled may be open, and what is not spelled is no selection.
  cases Selection.ofTokens question.tokens.1 with
  | error fault => cases fault <;> simp
  | ok found =>
    cases beyond : found.isOpen
    · simp only [beyond, Bool.false_eq_true, if_false, Except.ok.injEq, Option.some.injEq]
      exact ⟨fun same => ⟨same, same ▸ beyond⟩, And.left⟩
    · simp only [beyond, if_true, Except.ok.injEq, reduceCtorEq, false_iff, not_and]
      rintro rfl
      simp [beyond]

/-- A question is prepared as the selection that it spells, or by the engine. -/
theorem prepareSelect_cases {engine : Engine}
    (prepared : store.prepareSelect engine question parameters = .ok statement) :
    (∃ selection, Selection.ofTokens question.tokens.1 = .ok selection ∧
        selection.prepare store question.tokens.2 parameters = .ok statement) ∨
      question.selection? = .ok none ∧
        engine.prepare store question parameters = .ok statement := by
  unfold prepareSelect at prepared
  simp only [bind_eq_ok] at prepared
  -- The reading decides which of the two prepares it.
  obtain ⟨reading, read, prepared⟩ := prepared
  cases reading with
  | none => exact Or.inr ⟨read, prepared⟩
  | some selection =>
    exact Or.inl ⟨selection, (Question.selection?_eq_some.mp read).1, prepared⟩

end Store

/-- A statement changes nothing of a machine but its connection, and uses up an engine. -/
theorem Run.statement_machine {α : Type} (text : String)
    (prepare : Store.Engine → Store → Except Store.Fault (Store.Prepared α)) (machine : Machine) :
    (Run.statement text prepare machine).2 =
      { machine with
        connection := (machine.connection.run text (prepare (machine.engines 0))).2
        engines := later machine.engines } := rfl

/-- What a query asks the store, given what follows its table. -/
def Query.question (query : Query) (tail : Store.Tail) : Store.Question :=
  { columns := query.columns.keys, table := query.table, tail }

namespace Storage

/-- The statement that a query runs, with what follows its table and the values it binds. -/
def selection (query : Query) (sql : String) (tail : Store.Tail) (parameters : List Store.Cell) :
    Run (List (Fields Store.Cell)) := do
  Run.note (.query sql parameters.length)
  Run.statement sql fun engine store =>
    store.prepareSelect engine (query.question tail) parameters

/-- A query fails before it reaches the store, or runs the statement that is its text. -/
theorem select_cases (query : Query) (arguments : List Value) :
    (∃ fault, select query arguments = Run.fail fault) ∨
      ∃ sql tail parameters, Sql.select query = .ok sql ∧ Storage.tail query = .ok tail ∧
        select query arguments = selection query sql tail parameters := by
  -- The text, what follows the table and the values are made in this order.
  unfold select
  cases written : Sql.select query with
  | error fault => exact Or.inl ⟨fault, rfl⟩
  | ok sql =>
    cases followed : Storage.tail query with
    | error fault => exact Or.inl ⟨fault, rfl⟩
    | ok tail =>
      cases encoded : encodeAll arguments with
      | error fault => exact Or.inl ⟨fault, rfl⟩
      | ok parameters => exact Or.inr ⟨sql, tail, parameters, rfl, rfl, rfl⟩

/-- The statement that an insertion runs, with the values it binds. -/
def insertion (table : String) (names : List String) (sql : String)
    (supplied : Fields Store.Cell) : Run Unit := do
  Run.note (.insert sql)
  Run.statement sql fun _ store => store.prepareInsert table names supplied

/-- An insertion fails before it reaches the store, or runs the statement that is its text. -/
theorem insert_cases (table : String) (fields : Fields Value) :
    (∃ fault, insert table fields = Run.fail fault) ∨
      ∃ sql supplied, Sql.insert table fields.keys = .ok sql ∧
        insert table fields = insertion table fields.keys sql supplied := by
  -- The text is made before the values are encoded.
  unfold insert
  cases written : Sql.insert table fields.keys with
  | error fault => exact Or.inl ⟨fault, rfl⟩
  | ok sql =>
    cases encoded : encodeFields fields with
    | error fault => exact Or.inl ⟨fault, rfl⟩
    | ok supplied => exact Or.inr ⟨sql, supplied, rfl, rfl⟩

/-- Running a query's statement notes it and leaves the rest to the connection. -/
theorem selection_machine (query : Query) (sql : String) (tail : Store.Tail)
    (parameters : List Store.Cell) (machine : Machine) :
    (selection query sql tail parameters machine).2 =
      { machine with
        log := machine.log ++ [.query sql parameters.length]
        connection := (machine.connection.run sql fun store =>
          store.prepareSelect (machine.engines 0) (query.question tail) parameters).2
        engines := Run.later machine.engines } := by
  -- The note comes first; the statement then uses up one engine.
  rw [selection, Run.note_andThen]
  exact Run.statement_machine sql _ _

/-- Running an insertion's statement notes it and leaves the rest to the connection. -/
theorem insertion_machine (table : String) (names : List String) (sql : String)
    (supplied : Fields Store.Cell) (machine : Machine) :
    (insertion table names sql supplied machine).2 =
      { machine with
        log := machine.log ++ [.insert sql]
        connection := (machine.connection.run sql fun store =>
          store.prepareInsert table names supplied).2
        engines := Run.later machine.engines } := by
  -- It is the same for an insertion.
  rw [insertion, Run.note_andThen]
  exact Run.statement_machine sql _ _

end Storage

end PageServer
