import PageServer.Proofs.Columns
import PageServer.Proofs.Sequence
import PageServer.Proofs.Statement

/-! Declared tables: what the store requires of them, and how it keeps them. -/

namespace PageServer

/-- A declared table that the store takes: it can be named, and its columns can be told apart. -/
structure Table.IsStorable (table : Table) : Prop where
  named : Sql.isWord table.name = true
  free : Store.isKeyword table.name = false
  plain : ∀ column ∈ table.columns, Store.IsPlainName column.1
  storable : ∀ column ∈ table.columns, ∃ type, column.2.storable? = some type
  filled : table.columns ≠ []
  few : table.columns.length ≤ Store.columnLimit
  distinct : table.columns.Pairwise fun a b => Store.sameName a.1 b.1 = false

namespace Store

/-- A name is one with itself. -/
theorem sameName_self (name : String) : sameName name name = true := by
  simp [sameName]

/-- Names are one to the store in either order. -/
theorem sameName_comm (a b : String) : sameName a b = sameName b a := by
  simp [sameName, Bool.beq_comm]

/-- A plain name is read as it is. -/
theorem readName_plain {name : String} (plain : IsPlainName name) : readName name = .ok name := by
  simp [readName, bareName_of_isWord plain.word, plain.free]

/-- A column of a new table is read before the others, with a name that none before it has. -/
theorem readColumns_cons {table : String} {column : Column} {rest found : List Column}
    {seen : List String} (word : Sql.isWord column.name = true)
    (due : (!seen.isEmpty && sameName column.name "constraint") = false)
    (read : readColumns table true seen false (column :: rest) = .ok found) :
    seen.length < columnLimit ∧ (∀ name ∈ seen, sameName column.name name = false) ∧
      ∃ others, readColumns table true (column.name :: seen) false rest = .ok others ∧
        found = column :: others := by
  have bare := bareName_of_isWord word
  simp only [readColumns, bare, due, Bool.false_eq_true, if_false] at read
  split at read
  -- The word of a constraint is refused where a column is due.
  · cases read
  · simp only [bind_eq_ok, guard_eq_ok] at read
    obtain ⟨name, named, room, new, others, further, built⟩ := read
    obtain rfl : column.name = name := bare.symm.trans (readName_eq_ok.mp named).2
    cases built
    refine ⟨by simpa using room, ?_, others, further, rfl⟩
    simpa using new

/-- Columns with plain names are read as they are, if none repeats another. -/
theorem readColumns_plain {table : String} {columns found : List Column} {seen : List String}
    (plain : ∀ column ∈ columns, IsPlainName column.name)
    (read : readColumns table true seen false columns = .ok found) :
    found = columns ∧ AreDistinct columns ∧
      (∀ column ∈ columns, ∀ name ∈ seen, sameName name column.name = false) ∧
      (columns ≠ [] → columns.length + seen.length ≤ columnLimit) := by
  -- The names before a column are those that it may not repeat.
  induction columns generalizing found seen with
  | nil =>
    cases read
    exact ⟨rfl, .nil, by simp, fun filled => absurd rfl filled⟩
  | cons column rest ih =>
    -- Columns may follow only while no constraint is open, and a plain name opens none.
    obtain ⟨here, later⟩ := List.forall_mem_cons.mp plain
    have unconstrained : sameName column.name "constraint" = false := by
      rw [sameName, beq_eq_false_iff_ne]
      exact here.fold_ne (by decide)
    obtain ⟨room, new, others, further, rfl⟩ :=
      readColumns_cons here.word (by simp [unconstrained]) read
    obtain ⟨rfl, distinct, unseen, few⟩ := ih later further
    have apart : ∀ other ∈ others, sameName column.name other.name = false :=
      fun other member => unseen other member column.name (List.mem_cons_self ..)
    refine ⟨rfl, List.pairwise_cons.mpr ⟨apart, distinct⟩, ?_, ?_⟩
    -- A name that was seen before is neither that of this column nor of a later one.
    · intro other member name among
      rcases List.mem_cons.mp member with rfl | member
      · rw [sameName_comm]
        exact new name among
      · exact unseen other member name (List.mem_cons_of_mem _ among)
    · -- The last column is the one for which the room is needed.
      intro _
      cases others with
      | nil => simp; omega
      | cons next others =>
        have bound := few (List.cons_ne_nil _ _)
        simp only [List.length_cons] at bound ⊢
        omega

/-- What a creation asks for, and what it then does. -/
theorem create_eq_ok {store : Store} {name declaration : String} {columns : List Column} {created : Store} :
    store.create name columns declaration = .ok created ↔
      (readName name = .ok (bareName name) ∧ ¬ isReserved (bareName name) ∧ ¬ columns.isEmpty ∧
        ¬ sameName (bareName name) "if") ∧
      ∃ found,
        readColumns (bareName name) (store.relation? (bareName name)).isNone [] false columns =
          .ok found ∧
        created = if (store.relation? (bareName name)).isNone then
            { store with relations := store.relations ++
              [{ name := bareName name, columns := found, declaration, page := store.pages + 1 }] }
          else store := by
  -- Past all checks, the two ends differ in whether a table of the name is there.
  unfold create
  simp only [bind_eq_ok, guard_eq_ok]
  constructor
  · rintro ⟨table, named, unreserved, filled, found, read, legible, built⟩
    obtain ⟨_, rfl⟩ := readName_eq_ok.mp named
    refine ⟨⟨named, unreserved, filled, legible⟩, found, read, ?_⟩
    split at built <;> rename_i new <;> cases built
    · rw [if_pos new]
    · rw [if_neg new]
  · rintro ⟨⟨named, unreserved, filled, legible⟩, found, read, rfl⟩
    refine ⟨_, named, unreserved, filled, found, read, legible, ?_⟩
    split <;> rfl

/-- The table of a name among those of a store to which one more is added. -/
theorem relation?_concat {relations : List Relation} {relation : Relation} {tally : Tally}
    (new : ({ relations, tally } : Store).relation? relation.name = none) :
    ({ relations := relations ++ [relation], tally } : Store).relation? relation.name =
      some relation := by
  -- No table before it has the name, so the search comes to the one at the end.
  simp only [relation?] at new ⊢
  rw [List.find?_append, new]
  simp [sameName_self]

/-- A table with plain names that is created was not there, and then is there without rows. -/
theorem create_plain {store created : Store} {name declaration : String} {columns : List Column}
    (named : bareName name = name) (plain : ∀ column ∈ columns, IsPlainName column.name)
    (new : store.relation? name = none)
    (done : store.create name columns declaration = .ok created) :
    isKeyword name = false ∧ columns ≠ [] ∧ columns.length ≤ columnLimit ∧ AreDistinct columns ∧
      ∃ relation, created.relation? name = some relation ∧ relation.columns = columns ∧
        relation.rows = [] := by
  obtain ⟨⟨read, _, filled, _⟩, found, columnsRead, rfl⟩ := create_eq_ok.mp done
  rw [named, new] at columnsRead
  obtain ⟨rfl, distinct, _, few⟩ := readColumns_plain plain columnsRead
  have some : found ≠ [] := by simpa using filled
  have free := (readName_eq_ok.mp read).1
  -- The name is not a keyword, or it would have been refused.
  rw [named] at free
  refine ⟨free, some, by simpa using few some, distinct, ?_⟩
  -- No table has the name, so one is added under it.
  simp only [named, new, Option.isNone_none, if_true]
  exact ⟨_, relation?_concat new, rfl, rfl⟩

end Store

namespace Run

variable {α : Type} {text : String}
  {prepare : Store.Engine → Store → Except Store.Fault (Store.Prepared α)} {machine : Machine}

/-- How a statement ends is read off its answer. -/
theorem statement_outcome :
    (Run.statement text prepare machine).1 =
      ofAnswer (machine.connection.run text (prepare (machine.engines 0))).1 := rfl

/-- A statement ends as its run on the connection does. -/
theorem statement_done {answer : α} :
    (Run.statement text prepare machine).1 = .done answer ↔
      (machine.connection.run text (prepare (machine.engines 0))).1 = some (.ok answer) := by
  -- A statement turns an answer into an outcome, each kind into one of its own.
  rw [statement_outcome]
  rcases (machine.connection.run text (prepare (machine.engines 0))).1 with _ | refusal | found <;>
    simp [ofAnswer]

/-- A statement that is refused ends with the refusal of its run on the connection. -/
theorem statement_fault {refusal : Store.Refusal} :
    (Run.statement text prepare machine).1 = .fault (.store refusal) ↔
      (machine.connection.run text (prepare (machine.engines 0))).1 = some (.error refusal) := by
  rw [statement_outcome]
  rcases (machine.connection.run text (prepare (machine.engines 0))).1 with _ | other | found <;>
    simp [ofAnswer]

end Run

namespace Storage

/-- A column as it is stored. -/
def storedColumn (column : String × Ty) : Store.Column :=
  { name := column.1, affinity := (column.2.storable?.map affinity).getD .none }

/-- Columns of storable types are all stored. -/
theorem storedColumns_eq {table : Table}
    (storable : ∀ column ∈ table.columns, ∃ type, column.2.storable? = some type) :
    storedColumns table = table.columns.map storedColumn := by
  unfold storedColumns
  -- The induction is on the columns alone, so the rest of the table is left out.
  generalize table.columns = columns at storable
  induction columns with
  | nil => rfl
  | cons column rest ih =>
    obtain ⟨⟨type, here⟩, later⟩ := List.forall_mem_cons.mp storable
    simp [here, storedColumn, ih later]

/-- Columns that are defined have storable types. -/
theorem storable_of_columnDefinitions {table : String} {columns : Fields Ty}
    {definitions : List String}
    (defined : Sql.columnDefinitions table columns = .ok definitions) :
    ∀ column ∈ columns, ∃ type, column.2.storable? = some type := by
  -- The induction is on the columns, the first of which is looked at before the others.
  induction columns generalizing definitions with
  | nil => simp
  | cons column rest ih =>
    simp only [Sql.columnDefinitions] at defined
    split at defined
    · cases defined
    -- A column that is passed over has a type, and the others follow.
    · rename_i type here
      simp only [bind_eq_ok] at defined
      obtain ⟨_, _, others, later, _⟩ := defined
      exact List.forall_mem_cons.mpr ⟨⟨type, here⟩, ih later⟩

/-- The table is in the store with its columns as declared and these rows. -/
def Keeps (table : Table) (rows : List Store.Row) (store : Store) : Prop :=
  ∃ relation, store.relation? table.name = some relation ∧
    relation.columns = table.columns.map storedColumn ∧ relation.rows = rows

/-- Creating one table is all there is to creating a list of one. -/
theorem createTables_single (table : Table) (machine : Machine) :
    createTables [table] machine = createTable table machine := by
  exact congrFun (Run.bind_pure (createTable table)) machine

/-- The statement that creates a table, with its declaration. -/
def creation (table : Table) (sql declaration : String) : Run Unit := do
  Run.note (.schema sql)
  Run.statement sql fun _ store => store.prepareCreate table.name (storedColumns table) declaration

/-- A creation fails before it reaches the store, or runs the statement that is its text. -/
theorem createTable_cases (table : Table) :
    (∃ fault, createTable table = Run.fail fault) ∨
      ∃ sql declaration, Sql.declaration table = .ok declaration ∧
        createTable table = creation table sql declaration := by
  -- The text holds the declaration, so both can be written or neither.
  unfold createTable
  cases written : Sql.create table with
  | error fault => exact Or.inl ⟨fault, rfl⟩
  | ok sql =>
    cases declared : Sql.declaration table with
    | error fault => exact Or.inl ⟨fault, rfl⟩
    | ok declaration => exact Or.inr ⟨sql, declaration, rfl, rfl⟩

/-- Running a creation's statement notes it and leaves the rest to the connection. -/
theorem creation_machine (table : Table) (sql declaration : String) (machine : Machine) :
    (creation table sql declaration machine).2 =
      { machine with
        log := machine.log ++ [.schema sql]
        connection := (machine.connection.run sql fun store =>
          store.prepareCreate table.name (storedColumns table) declaration).2
        engines := Run.later machine.engines } := by
  -- The note comes first, and the statement then uses up one engine.
  rw [creation, Run.note_andThen]
  exact Run.statement_machine sql _ _

/-- A creation ends as its statement does. -/
theorem creation_done_iff {table : Table} {sql declaration : String} {machine : Machine} :
    (creation table sql declaration machine).1 = .done () ↔
      (machine.connection.run sql fun store =>
        store.prepareCreate table.name (storedColumns table) declaration).1 = some (.ok ()) := by
  -- The note that comes first leaves the connection alone.
  rw [creation, Run.note_andThen]
  exact Run.statement_done

/-- A creation that is refused ends with the refusal. -/
theorem creation_fault_iff {table : Table} {sql declaration : String} {machine : Machine}
    {refusal : Store.Refusal} :
    (creation table sql declaration machine).1 = .fault (.store refusal) ↔
      (machine.connection.run sql fun store =>
        store.prepareCreate table.name (storedColumns table) declaration).1 =
          some (.error refusal) := by
  rw [creation, Run.note_andThen]
  exact Run.statement_fault

/-- A table with plain names that is created can be stored, and then is there without rows. -/
theorem createTables_done {table : Table} (named : Sql.isWord table.name = true)
    (plain : ∀ column ∈ table.columns, Store.IsPlainName column.1) {machine : Machine}
    (new : machine.store.relation? table.name = none)
    (done : (createTables [table] machine).1 = .done ()) :
    table.IsStorable ∧ Keeps table [] (createTables [table] machine).2.store := by
  rw [createTables_single] at done ⊢
  rcases createTable_cases table with ⟨fault, failed⟩ | ⟨sql, declaration, declared, same⟩
  · rw [failed] at done
    cases done
  · rw [same] at done ⊢
    -- Nothing is declared with a type that cannot be stored.
    have storable : ∀ column ∈ table.columns, ∃ type, column.2.storable? = some type := by
      simp only [Sql.declaration, bind_eq_ok] at declared
      obtain ⟨definitions, defined, _⟩ := declared
      exact storable_of_columnDefinitions defined
    have columns := storedColumns_eq storable
    -- The store is that of the creation, which was accepted.
    obtain ⟨statement, cells, prepared, stepped⟩ :=
      Store.Connection.run_cases (creation_done_iff.mp done)
    simp only [Store.prepareCreate, bind_eq_ok] at prepared
    obtain ⟨created, accepted, built⟩ := prepared
    cases built
    have after : (creation table sql declaration machine).2.store = created := by
      rw [creation_machine]
      exact (congrArg Prod.fst (Except.ok.inj (Option.some.inj stepped))).symm
    rw [columns] at accepted
    -- The name of the table is a word, and those of its columns are plain.
    have bare := Store.bareName_of_isWord named
    have names : ∀ column ∈ table.columns.map storedColumn, Store.IsPlainName column.name := by
      intro stored member
      obtain ⟨column, among, rfl⟩ := List.mem_map.mp member
      exact plain column among
    obtain ⟨free, filled, few, distinct, kept⟩ := Store.create_plain bare names new accepted
    rw [after]
    refine ⟨⟨named, free, plain, storable, by simpa using filled, by simpa using few, ?_⟩, kept⟩
    exact List.pairwise_map.mp distinct

end Storage

end PageServer
