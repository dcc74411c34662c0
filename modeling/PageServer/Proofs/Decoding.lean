import PageServer.Proofs.Atom
import PageServer.Proofs.Heading
import PageServer.Proofs.Readback
import PageServer.Proofs.Scoping

/-!
What the rows of a query bind.

The columns of a query are bound under the names that the store has for them, and to values of the types
that the query declares under these names. So a column that is spelled as the store has it is bound to
a value of its declared type wherever the body of a repetition is evaluated.
-/

namespace PageServer

/-- Under a name, a look-up finds a value of the type that a query declares. -/
def Query.Binds (query : Query) (lookup? : String → Option Value) (name : String) : Prop :=
  ∃ value, lookup? name = some value ∧ value.Fits (Storage.declaredType query name)

namespace Storage

/-- The fault of a row: a cell that its type does not admit, or a type that cannot even be named. -/
inductive Refused (query : Query) : Fault → Prop where
  | undecodable (column kind : String) (expected : Option String) :
    Refused query (.undecodable column kind expected)
  | nameless {column : String × Ty} : column ∈ query.columns → column.2 ≠ .absent →
    column.2.name? = none → Refused query .namelessType

/-- A declared type is that of a column. -/
theorem mem_of_declaredType {query : Query} {name : String}
    (declared : declaredType query name ≠ .absent) :
    (name, declaredType query name) ∈ query.columns := by
  unfold declaredType at declared ⊢
  -- A name without a declared type would be absent, so there is an entry for it.
  cases found : (Fields.ofPairs query.columns).get? name with
  | none => simp [found] at declared
  | some type => exact Fields.mem_of_mem_ofPairs (Fields.mem_of_get? found)

/-- A cell that is not decoded is one that its type does not admit. -/
theorem decode_refused {query : Query} {name : String} {cell : Store.Cell} {fault : Fault}
    (failed : decode name cell (declaredType query name) = .error fault) : Refused query fault := by
  have known : declaredType query name ≠ .absent → (declaredType query name).name? = none →
      Refused query .namelessType := fun typed nameless =>
    .nameless (mem_of_declaredType typed) typed nameless
  generalize declaredType query name = type at failed known
  unfold decode at failed
  -- Without a type only the kind of the cell can be wrong; with one, its name goes into the fault.
  split at failed
  · split at failed <;> cases failed
    exact .undecodable _ _ _
  · rename_i typed
    split at failed
    all_goals try cases failed
    split at failed <;> cases failed
    · exact .undecodable _ _ _
    · rename_i nameless
      exact known typed nameless

/-- Cells that are not decoded have such a one among them. -/
theorem decodeCells_refused {query : Query} {row : Fields Store.Cell} {fault : Fault}
    (failed : decodeCells query row = .error fault) : Refused query fault := by
  -- The induction is on the row, which is decoded up to its first fault.
  induction row with
  | nil => cases failed
  | cons entry rest ih =>
    unfold decodeCells at failed
    cases here : decode entry.1 entry.2 (declaredType query entry.1) with
    | error found =>
      rw [here] at failed
      cases failed
      exact decode_refused here
    | ok first =>
      rw [here] at failed
      cases later : decodeCells query rest with
      | error found =>
        rw [later] at failed
        cases failed
        exact ih later
      | ok others =>
        rw [later] at failed
        cases failed

/-- So it is with a row. -/
theorem decodeRow_refused {query : Query} {row : Fields Store.Cell} {fault : Fault}
    (failed : decodeRow query row = .error fault) : Refused query fault := by
  -- Merging comes after decoding and cannot fail.
  unfold decodeRow at failed
  cases read : decodeCells query row with
  | error found =>
    rw [read] at failed
    cases failed
    exact decodeCells_refused read
  | ok cells =>
    rw [read] at failed
    cases failed

/-- A row binds each of its columns to a value of the declared type. -/
theorem decodeRow_binds {query : Query} {row : Fields Store.Cell} {values : Fields Value}
    (decoded : decodeRow query row = .ok values) {name : String} (member : name ∈ row.keys) :
    query.Binds values.get? name := by
  obtain ⟨keys, fits⟩ := decodeRow_fits decoded
  -- A row has its own names, each once.
  have bound : name ∈ values.keys := by rwa [keys, List.mem_eraseDups]
  obtain ⟨value, found, among⟩ := Fields.get?_of_mem_keys bound
  exact ⟨value, found, fits _ among⟩

/-- In the scope of a row, the names of its columns stand for what the row binds. -/
theorem decodeRow_extend {query : Query} {row : Fields Store.Cell} {values : Fields Value}
    (decoded : decodeRow query row = .ok values) (env : Environment) {name : String}
    (member : name ∈ row.keys) : query.Binds (env.extend values).lookup? name := by
  obtain ⟨keys, fits⟩ := decodeRow_fits decoded
  -- The names of the row are laid over the scope in a layer of their own.
  have bound : name ∈ (Fields.ofPairs values).keys := by
    rwa [Fields.mem_keys_ofPairs, keys, List.mem_eraseDups]
  obtain ⟨value, found, among⟩ := Fields.get?_of_mem_keys bound
  refine ⟨value, ?_, fits _ (Fields.mem_of_mem_ofPairs among)⟩
  rw [Environment.lookup?_extend, found]
  rfl

/-- The rows of a query have its columns, under the names that the store has for them. -/
theorem select_keys {query : Query} {arguments : List Value} {machine : Machine}
    {rows : List (Fields Store.Cell)} (selected : (select query arguments machine).1 = .done rows) :
    ∃ relation, machine.store.readable? (Store.bareName query.table) = some relation ∧
      ∀ row ∈ rows, row.keys = query.columns.keys.map relation.heading := by
  rcases select_cases query arguments with ⟨fault, failed⟩ | ⟨sql, tail, parameters, _, _, asked⟩
  · rw [failed] at selected
    cases selected
  · -- Rows come from a statement that was prepared and has taken its step.
    rw [asked, selection_done] at selected
    obtain ⟨statement, cells, prepared, stepped⟩ := Store.Connection.run_cases selected
    obtain ⟨relation, readable, keys⟩ := Store.prepareSelect_keys prepared stepped
    exact ⟨relation, readable, keys⟩

/--
What the rows of a query bind.

Each row has the columns of the query under the names that the store has for them. If it is decoded, it
binds each column under that name, to a value of the type that the query declares for that name; so a
column that is spelled as the store has it is bound to a value of its own declared type. The body of a
repetition is evaluated where this holds, unless the row is refused before.
-/
theorem select_decodes {query : Query} {arguments : List Value} {machine : Machine}
    {rows : List (Fields Store.Cell)} (selected : (select query arguments machine).1 = .done rows) :
    ∃ relation, machine.store.readable? (Store.bareName query.table) = some relation ∧
      ∀ row ∈ rows,
        row.keys = query.columns.keys.map relation.heading ∧
        (∀ values, decodeRow query row = .ok values → ∀ name ∈ query.columns.keys,
          query.Binds values.get? (relation.heading name) ∧
          (relation.heading name = name → query.Binds values.get? name)) ∧
        ∀ (recur : Eval.Evaluator) (env : Environment) (body : Expr),
          (∃ fault, Refused query fault ∧
            (do
              let bindings ← Run.lift (decodeRow query row)
              recur (env.extend bindings) body) = Run.fail fault) ∨
          ∃ scope : Environment,
            (∀ name ∈ query.columns.keys, relation.heading name = name →
              query.Binds scope.lookup? name) ∧
            (do
              let bindings ← Run.lift (decodeRow query row)
              recur (env.extend bindings) body) = recur scope body := by
  obtain ⟨relation, readable, keys⟩ := select_keys selected
  -- What the row binds is under the names of its own columns, so these are what has to be found.
  refine ⟨relation, readable, fun row member => ⟨keys row member, ?_, ?_⟩⟩
  · intro values decoded name asked
    have reported : relation.heading name ∈ row.keys := by
      rw [keys row member]
      exact List.mem_map_of_mem asked
    have binds := decodeRow_binds decoded reported
    exact ⟨binds, fun spelled => spelled ▸ binds⟩
  · intro recur env body
    -- The row is refused, or its names are laid over the scope.
    cases decoded : decodeRow query row with
    | error fault => exact Or.inl ⟨fault, decodeRow_refused decoded, rfl⟩
    | ok values =>
      refine Or.inr ⟨env.extend values, ?_, rfl⟩
      -- What is laid over the scope hides what was there under the same names.
      intro name asked spelled
      apply decodeRow_extend decoded env
      rw [keys row member, ← spelled]
      exact List.mem_map_of_mem asked

/-- A machine with one user, who is an administrator. -/
def staffed : Machine where
  connection := { store := { relations := [
    { name := "user", columns := [⟨"name", .text⟩, ⟨"admin", .integer⟩]
      rows := [⟨1, [.text "ann", .int 1]⟩] }] } }
  clock := fun _ => 0

/-- Which users are administrators, asked for under a name. -/
def asking (name : String) : Query := { table := "user", columns := [(name, .bool)] }

/-- A column that is spelled as in its table is bound to a truth value, as it is declared. -/
theorem select_decodes_admin :
    ∃ row values, (select (asking "admin") [] staffed).1 = .done [row] ∧
      decodeRow (asking "admin") row = .ok values ∧ (asking "admin").Binds values.get? "admin" := by
  -- The query gives one row, which holds the truth value as a number.
  have selected : (select (asking "admin") [] staffed).1 = .done [[("admin", .int 1)]] :=
    Outcome.eq_of_value? (by decide +kernel)
  have decoded : decodeRow (asking "admin") [("admin", .int 1)] = .ok [("admin", .bool true)] := rfl
  obtain ⟨relation, readable, each⟩ := select_decodes selected
  -- The table has a column of this very name.
  have columns : relation.columns = [⟨"name", .text⟩, ⟨"admin", .integer⟩] := by
    cases readable
    rfl
  have spelled : relation.heading "admin" = "admin" := by
    have distinct : Store.AreDistinct relation.columns := by
      rw [columns]
      exact .cons (by decide) (List.pairwise_singleton _ _)
    have member : (⟨"admin", .integer⟩ : Store.Column) ∈ relation.columns := by simp [columns]
    have plain : Store.IsPlainName "admin" := ⟨by decide, by decide, by decide⟩
    exact @Store.Relation.heading_column relation distinct ⟨"admin", .integer⟩ member plain
  obtain ⟨_, binds, _⟩ := each _ (List.mem_singleton_self _)
  exact ⟨_, _, selected, decoded, (binds _ decoded "admin" (by simp [asking, Fields.keys])).2 spelled⟩

/-- A column that is asked for in capitals is not bound under its name, and not to a truth value. -/
theorem select_decodes_capitals :
    ∃ row, (select (asking "ADMIN") [] staffed).1 = .done [row] ∧
      decodeRow (asking "ADMIN") row = .ok [("admin", .int 1)] ∧
      ¬ (asking "ADMIN").Binds (Fields.get? [("admin", .int 1)]) "ADMIN" := by
  have selected : (select (asking "ADMIN") [] staffed).1 = .done [[("admin", .int 1)]] :=
    Outcome.eq_of_value? (by decide +kernel)
  refine ⟨_, selected, rfl, ?_⟩
  -- The row has one name, which is another.
  rintro ⟨value, found, _⟩
  cases found

end Storage

end PageServer
