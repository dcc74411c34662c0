import PageServer.Proofs.Readback
import PageServer.Proofs.Vetting

/-!
The tables of a program are created one by one.

Main statement: tables that are there stay as they are, each table that is added is empty and as the
first declaration of its name has it, and the first declaration that cannot be carried out ends the run.
Once all declarations have been carried out, to go through any of them again changes nothing.
-/

namespace PageServer

namespace Store

variable {store : Store}

/-- Names that are one to the store find the same table. -/
theorem relation?_congr {a b : String} (same : sameName a b = true) :
    store.relation? a = store.relation? b := by
  -- A search compares folded names only.
  have folds : fold a = fold b := by simpa [sameName] using same
  simp only [relation?, sameName, folds]

/-- Of two tables that are looked for one after the other, the earlier one is found. -/
theorem relation?_more (relation : Relation) (name : String) :
    ({ store with relations := store.relations ++ [relation] } : Store).relation? name =
      (store.relation? name).or (if sameName relation.name name then some relation else none) := by
  simp only [relation?, List.find?_append, List.find?_singleton]

/-- Columns that a new table may have can be declared again. -/
theorem readColumns_known {table : String} {columns found : List Column} {seen : List String}
    {closed : Bool} (read : readColumns table true seen closed columns = .ok found) :
    readColumns table false seen closed columns = .ok found := by
  -- A table that is there is spared two of the checks; the others are the same.
  induction columns generalizing seen closed found with
  | nil => exact read
  | cons column rest ih =>
    unfold readColumns at read ⊢
    dsimp only at read ⊢
    split at read
    · rename_i constraint
      rw [if_pos constraint]
      exact ih read
    · rename_i due
      rw [if_neg due]
      split at read
      · cases read
      · rename_i free
        rw [if_neg free]
        split at read
        · cases read
        · rename_i opened
          rw [if_neg opened]
          simp only [bind_eq_ok, guard_eq_ok] at read ⊢
          obtain ⟨name, named, _, _, others, further, built⟩ := read
          exact ⟨name, named, by simp, by simp, others, ih further, built⟩

/-- A creation leaves a table of its name alone, and else adds one without rows. -/
theorem create_cases {name declaration : String} {columns : List Column} {created : Store}
    (done : store.create name columns declaration = .ok created) :
    (∃ relation, store.relation? (bareName name) = some relation ∧ created = store) ∨
      store.relation? (bareName name) = none ∧
        ∃ relation, created = { store with relations := store.relations ++ [relation] } ∧
          relation.name = bareName name ∧ relation.declaration = declaration ∧ relation.rows = [] ∧
          readColumns (bareName name) true [] false columns = .ok relation.columns := by
  -- Whether a table of the name is there decides which of the two it is.
  obtain ⟨_, found, read, rfl⟩ := create_eq_ok.mp done
  cases known : store.relation? (bareName name) with
  | some relation => exact Or.inl ⟨relation, rfl, by simp⟩
  | none =>
    rw [known] at read
    exact Or.inr ⟨rfl, _, rfl, rfl, rfl, rfl, read⟩

/-- Where a table of the name is there, what was once carried out changes nothing. -/
theorem create_known {name declaration : String} {columns : List Column} {created later : Store}
    {relation : Relation} (done : store.create name columns declaration = .ok created)
    (known : later.relation? (bareName name) = some relation) :
    later.create name columns declaration = .ok later := by
  obtain ⟨asked, found, read, _⟩ := create_eq_ok.mp done
  refine create_eq_ok.mpr ⟨asked, found, ?_, by simp [known]⟩
  rw [known, Option.isNone_some]
  -- Columns that were read for a new table are read for one that is there as well.
  generalize (store.relation? (bareName name)).isNone = new at read
  cases new with
  | true => exact readColumns_known read
  | false => exact read

/-- Columns whose names are words are read as they are, unless one after the first names a constraint. -/
theorem readColumns_words {table : String} {columns found : List Column} {seen : List String}
    (words : ∀ column ∈ columns, Sql.isWord column.name = true)
    (meant : ∀ column ∈ if seen.isEmpty then columns.tail else columns,
      sameName column.name "constraint" = false)
    (read : readColumns table true seen false columns = .ok found) : found = columns := by
  -- The names read so far stay words, so the induction is on the columns that are left.
  induction columns generalizing found seen with
  | nil =>
    cases read
    rfl
  | cons column rest ih =>
    obtain ⟨here, later⟩ := List.forall_mem_cons.mp words
    -- From the second column on, the word would be seen as the start of a constraint.
    have due : (!seen.isEmpty && sameName column.name "constraint") = false := by
      cases seen with
      | nil => rfl
      | cons name names => simp [meant column (List.mem_cons_self ..)]
    have others_meant : ∀ other ∈ rest, sameName other.name "constraint" = false := by
      intro other member
      apply meant other
      split
      · exact member
      · exact List.mem_cons_of_mem column member
    obtain ⟨_, _, others, further, rfl⟩ := readColumns_cons here due read
    rw [ih later (by simpa using others_meant) further]

end Store

namespace Sql

variable {table : Table}

/-- A name that may not be written is refused. -/
theorem checkName_error {name : String} {fault : Fault} (refused : checkName name = .error fault) :
    isName name = false ∧ fault = .unsafeName (.text name) := by
  -- The check refuses a name for one reason, and tells which name it was.
  unfold checkName at refused
  split at refused
  · cases refused
  · rename_i fails
    cases refused
    exact ⟨by simpa using fails, rfl⟩

/-- Columns are refused for a type that cannot be stored, or for a name that may not be written. -/
theorem columnDefinitions_error {named : String} {columns : Fields Ty} {fault : Fault}
    (refused : columnDefinitions named columns = .error fault) :
    (∃ column ∈ columns, column.2.storable? = none ∧ fault = unstorable column.1 named column.2) ∨
      ∃ name ∈ columns.keys, isName name = false ∧ fault = .unsafeName (.text name) := by
  -- The type of a column is looked at before its name, and both before the next column.
  induction columns with
  | nil => cases refused
  | cons column rest ih =>
    unfold columnDefinitions at refused
    split at refused
    · rename_i absent
      cases refused
      exact Or.inl ⟨column, List.mem_cons_self .., absent, rfl⟩
    · simp only [bind_eq_error] at refused
      rcases refused with here | ⟨_, _, later | ⟨_, _, built⟩⟩
      · exact Or.inr ⟨column.1, List.mem_cons_self .., checkName_error here⟩
      · rcases ih later with ⟨other, member, absent⟩ | ⟨name, member, unsafeName⟩
        · exact Or.inl ⟨other, List.mem_cons_of_mem column member, absent⟩
        · exact Or.inr ⟨name, List.mem_cons_of_mem column.1 member, unsafeName⟩
      · cases built

/-- A declaration is refused for a type that cannot be stored, or for a name that may not be written. -/
theorem declaration_error {fault : Fault} (refused : declaration table = .error fault) :
    (∃ column ∈ table.columns, column.2.storable? = none ∧
        fault = unstorable column.1 table.name column.2) ∨
      ∃ name ∈ table.columns.keys ++ [table.name],
        isName name = false ∧ fault = .unsafeName (.text name) := by
  -- The name of the table is looked at last.
  simp only [declaration, bind_eq_error] at refused
  rcases refused with columns | ⟨_, _, named | ⟨_, _, built⟩⟩
  · refine (columnDefinitions_error columns).imp_right ?_
    rintro ⟨name, member, unsafeName⟩
    exact ⟨name, List.mem_append_left _ member, unsafeName⟩
  · exact Or.inr ⟨table.name, by simp, checkName_error named⟩
  · cases built

/-- The columns of a declaration can be stored, and its names may be written. -/
theorem declaration_ok {text : String} (declared : declaration table = .ok text) :
    (∀ column ∈ table.columns, ∃ type, column.2.storable? = some type) ∧
      ∀ name ∈ table.columns.keys ++ [table.name], isName name = true := by
  -- A text is written only once all types and all names in it have been checked.
  have storable : ∀ column ∈ table.columns, ∃ type, column.2.storable? = some type := by
    simp only [declaration, bind_eq_ok] at declared
    obtain ⟨definitions, defined, _⟩ := declared
    exact Storage.storable_of_columnDefinitions defined
  refine ⟨storable, (create_vets ?_).accepts.mp ?_⟩
  · exact fun column member => Option.ne_none_iff_exists'.mpr (storable column member)
  · simp only [create, declared]
    exact ⟨_, rfl⟩

/-- A declaration is created by a clean text. -/
theorem create_clean {text : String} (declared : declaration table = .ok text) :
    ∃ sql, create table = .ok sql ∧ IsClean sql := by
  have written : create table = .ok ("CREATE TABLE IF NOT EXISTS " ++ text) := by
    simp only [create, declared]
    rfl
  refine ⟨_, written, isClean_iff.mpr ?_⟩
  -- No character of a name ends the text early.
  have apart : ∀ c, isPlain c = true → (c != '\x00') = true := by
    intro c plain
    rw [bne_iff_ne]
    rintro rfl
    exact absurd plain (by decide)
  refine create_written apart (fun name member => ?_) written
  -- Neither letters, digits and underscores nor a line feed is a null character.
  refine (isWritten_of_isName ((declaration_ok declared).2 name member)).mono ?_
  intro c stands
  rcases Bool.or_eq_true_iff.mp stands with plain | feed
  · exact apart c plain
  · rw [beq_iff_eq.mp feed]
    decide

end Sql

namespace Storage

variable {table : Table} {machine : Machine} {sql declaration : String}

/-- A declaration that cannot be written is not carried out. -/
theorem createTable_unwritten {fault : Fault} (refused : Sql.declaration table = .error fault) :
    createTable table = Run.fail fault := by
  -- The text is what fails, before anything reaches the connection.
  simp only [createTable, Sql.create, refused]
  rfl

/-- A declaration that is written is carried out by a clean statement. -/
theorem createTable_written (declared : Sql.declaration table = .ok declaration) :
    ∃ sql, Sql.IsClean sql ∧ createTable table = creation table sql declaration := by
  obtain ⟨sql, written, clean⟩ := Sql.create_clean declared
  refine ⟨sql, clean, ?_⟩
  simp only [createTable, written, declared]
  rfl

/-- A creation that the store carries out leaves the store that it gives. -/
theorem creation_done (clean : Sql.IsClean sql) {after : Store}
    (created : machine.store.create table.name (storedColumns table) declaration = .ok after) :
    (creation table sql declaration machine).1 = .done () ∧
      (creation table sql declaration machine).2.store = after := by
  -- It takes no values, and its step has nothing left to do.
  obtain ⟨statement, prepared, bindings, stepped⟩ : ∃ statement,
      machine.store.prepareCreate table.name (storedColumns table) declaration = .ok statement ∧
        statement.bindings = ([] : List Store.Cell).map .ok ∧
        statement.step [] = some (.ok (after, ())) := by
    simp only [Store.prepareCreate, created]
    exact ⟨_, rfl, rfl, rfl⟩
  -- The clean text lets the statement through to its preparation.
  have ran : (machine.connection.run sql fun store =>
        store.prepareCreate table.name (storedColumns table) declaration).1 = some (.ok ()) ∧
      (machine.connection.run sql fun store =>
        store.prepareCreate table.name (storedColumns table) declaration).2.store = after := by
    refine Store.Connection.run_ok clean ?_ (List.forall_mem_nil _) bindings stepped
    exact prepared
  -- The statement is all of the creation that touches the store.
  rw [creation_machine]
  exact ⟨creation_done_iff.mpr ran.1, ran.2⟩

/-- A creation that the store refuses leaves the store as it is. -/
theorem creation_refused (clean : Sql.IsClean sql) {fault : Store.Fault}
    (refused : machine.store.create table.name (storedColumns table) declaration = .error fault) :
    (creation table sql declaration machine).1 = .fault (.store (.fault fault)) ∧
      (creation table sql declaration machine).2.store = machine.store := by
  -- The fault comes up while the statement is prepared, so it never runs.
  have ran : (machine.connection.run sql fun store =>
        store.prepareCreate table.name (storedColumns table) declaration).1 =
          some (.error (.fault fault)) ∧
      (machine.connection.run sql fun store =>
        store.prepareCreate table.name (storedColumns table) declaration).2.store =
          machine.store := by
    refine Store.Connection.run_error clean ?_
    exact bind_eq_error.mpr (Or.inl refused)
  rw [creation_machine]
  exact ⟨creation_fault_iff.mpr ran.1, ran.2⟩

/--
How a declared table is understood.

It says which names may be written, what the table is called, and which columns are stored.
-/
structure Convention where
  safe : String → Bool
  called : Table → String
  stores : Table → List Store.Column → Prop

namespace Convention

/-- As the store reads it: without line feeds, and with the columns that it finds. -/
def asRead : Convention where
  safe := Sql.isName
  called table := Store.bareName table.name
  stores table columns :=
    Store.readColumns (Store.bareName table.name) true [] false (storedColumns table) = .ok columns

/-- As it is written: names are words, and the columns are the declared ones. -/
def asWritten : Convention where
  safe := Sql.isWord
  called := Table.name
  stores table columns := columns = table.columns.map storedColumn

variable (convention : Convention)

/-- Why a store does not take a declaration, and the fault that says so. -/
inductive Refuses (store : Store) (table : Table) : Fault → Prop where
  | unstorable {column : String × Ty} : column ∈ table.columns → column.2.storable? = none →
    Refuses store table (Sql.unstorable column.1 table.name column.2)
  | unsafeName {name : String} : name ∈ table.columns.keys ++ [table.name] →
    convention.safe name = false → Refuses store table (.unsafeName (.text name))
  | statement {declaration : String} {fault : Store.Fault} :
    Sql.declaration table = .ok declaration →
    store.create table.name (storedColumns table) declaration = .error fault →
    Refuses store table (.store (.fault fault))

/-- A table as its declaration has it, without rows. -/
structure Makes (table : Table) (relation : Store.Relation) : Prop where
  name : relation.name = convention.called table
  columns : convention.stores table relation.columns
  declaration : Sql.declaration table = .ok relation.declaration
  rows : relation.rows = []

/-- What a store makes of a declaration: nothing if a table of that name is there, else a table. -/
inductive Takes (store : Store) (table : Table) : Store → Prop where
  | known {relation : Store.Relation} :
    store.relation? (convention.called table) = some relation → Takes store table store
  | new {relation : Store.Relation} : store.relation? (convention.called table) = none →
    convention.Makes table relation →
    Takes store table { store with relations := store.relations ++ [relation] }

/-- Declarations that are taken one after the other, where nothing speaks against any of them. -/
inductive Accepts : Store → List Table → Store → Prop where
  | nil (store : Store) : Accepts store [] store
  | cons {store next after : Store} {table : Table} {rest : List Table} :
    (∀ fault, ¬ convention.Refuses store table fault) → convention.Takes store table next →
    Accepts next rest after → Accepts store (table :: rest) after

/-- The store with more tables, each as the first declaration of its name has it. -/
def Adds (accepted : List Table) (before after : Store) : Prop :=
  ∃ made, after = { before with relations := before.relations ++ made } ∧
    ∀ relation ∈ made, before.relation? relation.name = none ∧
      ∃ earlier table later, accepted = earlier ++ table :: later ∧
        convention.Makes table relation ∧
        ∀ other ∈ earlier, Store.sameName (convention.called other) relation.name = false

/-- How declarations come to an end: all are taken, or the first that is not ends them. -/
inductive Ends (tables accepted : List Table) (after : Store) : Outcome Unit → Prop where
  | done : accepted = tables → Ends tables accepted after (.done ())
  | refused {failing : Table} {later : List Table} {fault : Fault} :
    tables = accepted ++ failing :: later → convention.Refuses after failing fault →
    Ends tables accepted after (.fault fault)

/-- What declarations have come to: which were taken, what this has added, and how it ended. -/
structure Creates (tables accepted : List Table) (before : Store) (ended : Outcome Unit × Machine) :
    Prop where
  accepts : convention.Accepts before accepted ended.2.store
  adds : convention.Adds accepted before ended.2.store
  ends : convention.Ends tables accepted ended.2.store ended.1

variable {convention} {before after store next : Store} {tables accepted : List Table}

/-- What is added by declarations that are taken is as the first of its name has it. -/
theorem Accepts.adds (accepts : convention.Accepts before accepted after) :
    convention.Adds accepted before after := by
  -- A table that is there, or has just been made, keeps later declarations of its name from making one.
  induction accepts with
  | nil store => exact ⟨[], by simp, by simp⟩
  | @cons store next after table rest _ takes _ ih =>
    obtain ⟨made, rfl, described⟩ := ih
    cases takes with
    -- A table that is there answers to the name of this declaration, so no added one does.
    | @known relation found =>
      refine ⟨made, rfl, fun added member => ?_⟩
      obtain ⟨new, earlier, maker, later, rfl, makes, others⟩ := described added member
      refine ⟨new, table :: earlier, maker, later, rfl, makes, ?_⟩
      refine List.forall_mem_cons.mpr ⟨?_, others⟩
      rw [Bool.eq_false_iff]
      intro same
      rw [← Store.relation?_congr same, found] at new
      cases new
    -- The new table is the first of those added, and what comes later differs from it in name.
    | @new relation absent makes =>
      refine ⟨relation :: made, by simp, List.forall_mem_cons.mpr ⟨?_, fun added member => ?_⟩⟩
      · exact ⟨makes.name ▸ absent, [], table, rest, rfl, makes, by simp⟩
      · obtain ⟨new, earlier, maker, later, rfl, made_by, others⟩ := described added member
        rw [Store.relation?_more, Option.or_eq_none_iff] at new
        have apart : Store.sameName relation.name added.name = false := by
          simpa using new.2
        refine ⟨new.1, table :: earlier, maker, later, rfl, made_by, ?_⟩
        exact List.forall_mem_cons.mpr ⟨makes.name ▸ apart, others⟩

/-- Only declarations of the list are taken. -/
theorem Ends.subset {outcome : Outcome Unit} (ends : convention.Ends tables accepted after outcome) :
    accepted ⊆ tables := by
  -- Either all of them were taken, or those in front of the one that was refused.
  cases ends with
  | done same => exact same ▸ List.Subset.refl _
  | refused split _ => exact split ▸ List.subset_append_left _ _

/-- A declaration that is taken before others leaves the end to them. -/
theorem Ends.cons {outcome : Outcome Unit} (ends : convention.Ends tables accepted after outcome)
    (table : Table) : convention.Ends (table :: tables) (table :: accepted) after outcome := by
  cases ends with
  | done same => exact .done (by rw [same])
  | refused split refused => exact .refused (by rw [split, List.cons_append]) refused

end Convention

open Convention

/-- A declaration that cannot be written is refused for what speaks against it. -/
theorem refuses_of_declaration {store : Store} {fault : Fault}
    (refused : Sql.declaration table = .error fault) : asRead.Refuses store table fault := by
  -- Nothing is written for two reasons, and each is one of the refusals.
  rcases Sql.declaration_error refused with
    ⟨column, member, absent, rfl⟩ | ⟨name, member, unsafeName, rfl⟩
  · exact .unstorable member absent
  · exact .unsafeName member unsafeName

/-- A declaration that is written and carried out has nothing that speaks against it. -/
theorem not_refuses_of_create {store created : Store}
    (declared : Sql.declaration table = .ok declaration)
    (done : store.create table.name (storedColumns table) declaration = .ok created)
    (fault : Fault) : ¬ asRead.Refuses store table fault := by
  obtain ⟨storable, named⟩ := Sql.declaration_ok declared
  intro refused
  -- What speaks against it, one by one, contradicts that it is written or carried out.
  cases refused with
  | unstorable member absent =>
    obtain ⟨type, storable⟩ := storable _ member
    cases absent.symm.trans storable
  | unsafeName member fails => cases (named _ member).symm.trans fails
  | statement again refused =>
    cases declared.symm.trans again
    cases done.symm.trans refused

/-- A declaration against which nothing speaks is written, and can be carried out. -/
theorem create_of_not_refuses {store : Store}
    (unrefused : ∀ fault, ¬ asRead.Refuses store table fault) :
    ∃ declaration created, Sql.declaration table = .ok declaration ∧
      store.create table.name (storedColumns table) declaration = .ok created := by
  -- Whatever stops one of the two steps would be a reason to refuse the table.
  cases declared : Sql.declaration table with
  | error fault => exact absurd (refuses_of_declaration declared) (unrefused fault)
  | ok declaration =>
    cases done : store.create table.name (storedColumns table) declaration with
    | error fault => exact absurd (.statement declared done) (unrefused _)
    | ok created => exact ⟨declaration, created, rfl, done⟩

/-- A declaration is carried out if nothing speaks against it, and is refused for what does. -/
theorem createTable_ends (table : Table) (machine : Machine) :
    (∃ fault, asRead.Refuses machine.store table fault ∧
        (createTable table machine).1 = .fault fault ∧
        (createTable table machine).2.store = machine.store) ∨
      (∀ fault, ¬ asRead.Refuses machine.store table fault) ∧
        (createTable table machine).1 = .done () ∧
        asRead.Takes machine.store table (createTable table machine).2.store := by
  -- What cannot be written never reaches the store; of what is written, the store decides.
  cases declared : Sql.declaration table with
  | error fault =>
    rw [createTable_unwritten declared]
    exact Or.inl ⟨fault, refuses_of_declaration declared, rfl, rfl⟩
  | ok declaration =>
    obtain ⟨sql, clean, same⟩ := createTable_written declared
    rw [same]
    cases created : machine.store.create table.name (storedColumns table) declaration with
    | error fault =>
      obtain ⟨ended, kept⟩ := creation_refused clean created
      exact Or.inl ⟨.store (.fault fault), .statement declared created, ended, kept⟩
    | ok after =>
      obtain ⟨ended, left⟩ := creation_done clean created
      refine Or.inr ⟨not_refuses_of_create declared created, ended, ?_⟩
      rw [left]
      rcases Store.create_cases created with
        ⟨relation, found, rfl⟩ | ⟨absent, relation, rfl, name, text, empty, read⟩
      · exact .known found
      · exact .new absent ⟨name, read, text ▸ declared, empty⟩

/-- After a declaration that is carried out, the others follow. -/
theorem createTables_next {rest : List Table} (done : (createTable table machine).1 = .done ()) :
    createTables (table :: rest) machine = createTables rest (createTable table machine).2 := by
  -- Once its outcome is known, the sequence goes on with the machine that it left.
  rcases ended : createTable table machine with ⟨outcome, after⟩
  rw [ended] at done
  obtain rfl : outcome = .done () := done
  exact Run.andThen_of_done ended

/-- After a declaration that is refused, nothing follows. -/
theorem createTables_stop {rest : List Table} {fault : Fault}
    (refused : (createTable table machine).1 = .fault fault) :
    createTables (table :: rest) machine = (.fault fault, (createTable table machine).2) := by
  rcases ended : createTable table machine with ⟨outcome, after⟩
  -- A fault ends the sequence there and then.
  rw [ended] at refused
  obtain rfl : outcome = .fault fault := refused
  exact Run.andThen_of_fault ended

/-- Declarations are taken one by one, up to the first that something speaks against. -/
theorem createTables_ends (tables : List Table) (machine : Machine) :
    ∃ accepted, asRead.Accepts machine.store accepted (createTables tables machine).2.store ∧
      asRead.Ends tables accepted (createTables tables machine).2.store
        (createTables tables machine).1 := by
  -- Each declaration is judged by the store that those before it have left.
  induction tables generalizing machine with
  | nil => exact ⟨[], .nil _, .done rfl⟩
  | cons table rest ih =>
    rcases createTable_ends table machine with
      ⟨fault, refused, ended, kept⟩ | ⟨unrefused, ended, taken⟩
    · rw [createTables_stop ended, kept]
      exact ⟨[], .nil _, .refused rfl refused⟩
    · rw [createTables_next ended]
      obtain ⟨accepted, accepts, ends⟩ := ih (createTable table machine).2
      exact ⟨table :: accepted, .cons unrefused taken accepts, ends.cons table⟩

/-! Declarations that are gone through again -/

/-- A declaration that some store has taken, and whose table is there. -/
def Holds (store : Store) (table : Table) : Prop :=
  ∃ declaration earlier created, Sql.declaration table = .ok declaration ∧
    Store.create earlier table.name (storedColumns table) declaration = .ok created ∧
    (store.relation? (Store.bareName table.name)).isSome

/-- A table that is held is not created anew. -/
theorem createTable_holds (held : Holds machine.store table) :
    (createTable table machine).1 = .done () ∧
      (createTable table machine).2.store = machine.store := by
  -- Its declaration was carried out once, so it can be read again, and finds the table.
  obtain ⟨declaration, earlier, created, declared, done, there⟩ := held
  obtain ⟨relation, found⟩ := Option.isSome_iff_exists.mp there
  obtain ⟨sql, clean, same⟩ := createTable_written declared
  rw [same]
  exact creation_done clean (Store.create_known done found)

/-- Tables that are held are not created anew. -/
theorem createTables_holds {tables : List Table}
    (held : ∀ table ∈ tables, Holds machine.store table) :
    (createTables tables machine).1 = .done () ∧
      (createTables tables machine).2.store = machine.store := by
  -- The induction is on the tables: creating one changes nothing, so the others are still held.
  induction tables generalizing machine with
  | nil => exact ⟨rfl, rfl⟩
  | cons table rest ih =>
    obtain ⟨here, others⟩ := List.forall_mem_cons.mp held
    obtain ⟨ended, kept⟩ := createTable_holds here
    rw [createTables_next ended]
    have still : ∀ other ∈ rest, Holds (createTable table machine).2.store other := by
      rwa [kept]
    obtain ⟨done, same⟩ := ih still
    exact ⟨done, same.trans kept⟩

/-- A store that has a table of every name for which another one has. -/
def Covers (before after : Store) : Prop :=
  ∀ name, (before.relation? name).isSome → (after.relation? name).isSome

/-- What is held stays so as long as no table goes. -/
theorem Holds.mono {before after : Store} (covers : Covers before after) (held : Holds before table) :
    Holds after table := by
  -- The declaration stays as it is; only whether the table is there is asked of the store.
  obtain ⟨declaration, earlier, created, declared, done, there⟩ := held
  exact ⟨declaration, earlier, created, declared, done, covers _ there⟩

/-- What a store makes of a declaration leaves its tables there. -/
theorem Convention.Takes.covers {convention : Convention} {store next : Store}
    (takes : convention.Takes store table next) : Covers store next := by
  intro name there
  -- A name that is there is found before the table that was added.
  cases takes with
  | known _ => exact there
  | new _ _ => simp [Store.relation?_more, there]

/-- Declarations that are taken leave the tables there. -/
theorem Convention.Accepts.covers {convention : Convention} {before after : Store}
    {accepted : List Table} (accepts : convention.Accepts before accepted after) :
    Covers before after := by
  -- What one declaration leaves there, the following ones leave there too.
  induction accepts with
  | nil _ => exact fun _ there => there
  | cons _ takes _ ih => exact fun name there => ih name (takes.covers name there)

/-- A declaration that nothing speaks against is held by the store that has taken it. -/
theorem Convention.Takes.holds {store next : Store}
    (unrefused : ∀ fault, ¬ asRead.Refuses store table fault)
    (takes : asRead.Takes store table next) : Holds next table := by
  -- Either a table of the name was there before, or it has just been added.
  obtain ⟨declaration, created, declared, done⟩ := create_of_not_refuses unrefused
  refine ⟨declaration, store, created, declared, done, ?_⟩
  cases takes with
  | known found => exact Option.isSome_iff_exists.mpr ⟨_, found⟩
  | new absent makes =>
    have named : _ = Store.bareName table.name := makes.name
    simp [Store.relation?_more, named, Store.sameName_self]

/-- All declarations that have been taken are held. -/
theorem Convention.Accepts.holds {before after : Store} {accepted : List Table}
    (accepts : asRead.Accepts before accepted after) : ∀ table ∈ accepted, Holds after table := by
  -- A declaration is held once it is taken, and those that follow take no table away.
  induction accepts with
  | nil _ => exact List.forall_mem_nil _
  | cons unrefused takes others ih =>
    exact List.forall_mem_cons.mpr ⟨(takes.holds unrefused).mono others.covers, ih⟩

/-- Machines on which insertions have followed, whether or not they succeeded. -/
inductive Filled (start : Machine) : Machine → Prop where
  | start : Filled start start
  | insert {machine : Machine} (table : String) (fields : Fields Value) :
    Filled start machine → Filled start (Storage.insert table fields machine).2

/-- An insertion leaves the tables there. -/
theorem insert_covers (name : String) (fields : Fields Value) (machine : Machine) :
    Covers machine.store (insert name fields machine).2.store := by
  -- An insertion is refused, or puts a row into a table, which keeps its name.
  rcases insert_store name fields machine with same | ⟨row, appended⟩
  · rw [same]
    exact fun _ there => there
  · rw [appended]
    intro other there
    simpa [Store.relation?_append] using there

/-- Insertions leave the tables there. -/
theorem Filled.covers {start later : Machine} (filled : Filled start later) :
    Covers start.store later.store := by
  induction filled with
  | start => exact fun _ there => there
  -- The induction is on the insertions since the start.
  | insert table fields _ ih => exact fun name there => insert_covers table fields _ name (ih name there)

end Storage

/-! Declarations that are taken literally -/

/-- A declaration without line feeds after its names, whose later columns do not name constraints. -/
structure Table.IsLiteral (table : Table) : Prop where
  unbroken : ∀ name ∈ table.columns.keys ++ [table.name], ¬ Sql.IsBroken name
  meant : ∀ column ∈ table.columns.tail, Store.sameName column.1 "constraint" = false

namespace Table.IsLiteral

open Storage Storage.Convention

variable {table : Table} {store next before after : Store} {tables accepted : List Table}
  {fault : Fault}

/-- Of a literal declaration, the names that may be written are the words. -/
theorem isName_eq (literal : table.IsLiteral) {name : String}
    (member : name ∈ table.columns.keys ++ [table.name]) : Sql.isName name = Sql.isWord name := by
  -- Only a line feed at the end makes the two differ.
  rw [Sql.isName_eq, Sql.stem_of_not_isBroken (literal.unbroken name member)]

/-- The same speaks against a literal declaration, whichever way it is understood. -/
theorem refuses_iff (literal : table.IsLiteral) :
    asWritten.Refuses store table fault ↔ asRead.Refuses store table fault := by
  -- Both ways differ in which names they allow, and on the names of this table they agree.
  constructor
  · intro refused
    cases refused with
    | unstorable member absent => exact .unstorable member absent
    | unsafeName member fails => exact .unsafeName member ((literal.isName_eq member).trans fails)
    | statement declared refused => exact .statement declared refused
  · intro refused
    cases refused with
    | unstorable member absent => exact .unstorable member absent
    | unsafeName member fails =>
      exact .unsafeName member ((literal.isName_eq member).symm.trans fails)
    | statement declared refused => exact .statement declared refused

/-- A literal declaration against which nothing speaks is called, and stored, as it is written. -/
theorem makes (literal : table.IsLiteral) (unrefused : ∀ fault, ¬ asRead.Refuses store table fault) :
    asRead.called table = asWritten.called table ∧
      ∀ relation, asRead.Makes table relation → asWritten.Makes table relation := by
  -- Nothing speaks against its names and types, so they are in order.
  have words : ∀ name ∈ table.columns.keys ++ [table.name], Sql.isWord name = true := by
    intro name member
    rw [← literal.isName_eq member, ← Bool.not_eq_false]
    exact fun fails => unrefused _ (.unsafeName member fails)
  have storable : ∀ column ∈ table.columns, ∃ type, column.2.storable? = some type := by
    intro column member
    rw [← Option.ne_none_iff_exists']
    exact fun absent => unrefused _ (.unstorable member absent)
  have called : asRead.called table = asWritten.called table :=
    Store.bareName_of_isWord (words table.name (by simp))
  refine ⟨called, fun relation makes => ⟨makes.name.trans called, ?_, makes.declaration, makes.rows⟩⟩
  -- The columns that the store finds are the declared ones.
  have read := makes.columns
  simp only [asRead, storedColumns_eq storable] at read
  refine Store.readColumns_words ?_ ?_ read
  · intro stored member
    obtain ⟨column, among, rfl⟩ := List.mem_map.mp member
    exact words column.1 (List.mem_append_left _ (List.mem_map_of_mem among))
  · intro stored member
    rw [List.isEmpty_nil, if_pos rfl, ← List.map_tail] at member
    obtain ⟨column, among, rfl⟩ := List.mem_map.mp member
    exact literal.meant column among

/-- Literal declarations that are taken are taken as they are written. -/
theorem accepts (literal : ∀ table ∈ accepted, table.IsLiteral)
    (accepts : asRead.Accepts before accepted after) : asWritten.Accepts before accepted after := by
  -- The induction is on the run; each table takes the same step under either convention.
  induction accepts with
  | nil store => exact .nil store
  | cons unrefused takes _ ih =>
    obtain ⟨here, others⟩ := List.forall_mem_cons.mp literal
    obtain ⟨called, made⟩ := here.makes unrefused
    refine .cons (fun fault refused => unrefused fault (here.refuses_iff.mp refused)) ?_ (ih others)
    cases takes with
    | known found => exact .known (called ▸ found)
    | new absent makes => exact .new (called ▸ absent) (made _ makes)

/-- Literal declarations end as they do when they are read. -/
theorem ends (literal : ∀ table ∈ tables, table.IsLiteral) {outcome : Outcome Unit}
    (ends : asRead.Ends tables accepted after outcome) :
    asWritten.Ends tables accepted after outcome := by
  -- The one that is refused is a declaration of the list, so it is literal as well.
  cases ends with
  | done same => exact .done same
  | @refused failing later fault split refused =>
    have here : failing.IsLiteral := literal failing (by simp [split])
    exact .refused split (here.refuses_iff.mpr refused)

end Table.IsLiteral

namespace Storage

open Convention

/--
Tables are created without harm, and created again without effect.

The tables that are there stay as they are, and what is added is empty and as the first declaration of
its name has it, of those before the first against which anything speaks; that one ends the run with its
fault. A declaration is understood as the store reads it: as it is written, unless a line feed ends
one of its names or a later column is named like a constraint. Once all declarations have been carried
out, and whatever is inserted then, to go through any of them again changes nothing.
-/
theorem createTables_repeatable (tables : List Table) (machine : Machine) :
    (∃ accepted, asRead.Creates tables accepted machine.store (createTables tables machine)) ∧
    ((∀ table ∈ tables, table.IsLiteral) →
      ∃ accepted, asWritten.Creates tables accepted machine.store (createTables tables machine)) ∧
    ((createTables tables machine).1 = .done () →
      ∀ later part, Filled (createTables tables machine).2 later → part ⊆ tables →
        (createTables part later).1 = .done () ∧
          (createTables part later).2.store = later.store) := by
  -- The run gives the first part, which literal declarations turn into the second.
  obtain ⟨accepted, accepts, ends⟩ := createTables_ends tables machine
  refine ⟨⟨accepted, accepts, accepts.adds, ends⟩, ?_, ?_⟩
  · intro literal
    -- What is taken is some of the declarations, so they are all literal.
    have among : accepted ⊆ tables := ends.subset
    have written := Table.IsLiteral.accepts (fun table member => literal table (among member)) accepts
    exact ⟨accepted, written, written.adds, Table.IsLiteral.ends literal ends⟩
  · intro done later part filled chosen
    -- If all are taken, every one of them is held, and stays so under insertions.
    rw [done] at ends
    cases ends with
    | done same =>
      subst same
      have held := accepts.holds
      exact createTables_holds fun table member => (held table (chosen member)).mono filled.covers

/-- Two declarations of one name, but for the case of its letters. -/
def spelledTwice : List Table :=
  [{ name := "Note", columns := [("body", .text)] },
   { name := "note", columns := [("title", .text), ("done", .bool)] }]

/-- A machine on which both have been created and a note has been inserted. -/
def afterNote : Machine :=
  (insert "NOTE" [("body", .text "hi")] (createTables spelledTwice visited).2).2

/-- The second spelling adds nothing, neither at first nor after a note is inserted. -/
theorem createTables_repeatable_cases :
    (insert "NOTE" [("body", .text "hi")] (createTables spelledTwice visited).2).1 = .done () ∧
      (∃ accepted, asWritten.Creates spelledTwice accepted visited.store
        (createTables spelledTwice visited)) ∧
      (createTables spelledTwice.tail afterNote).1 = .done () ∧
      (createTables spelledTwice.tail afterNote).2.store = afterNote.store := by
  have inserted : (insert "NOTE" [("body", .text "hi")]
      (createTables spelledTwice visited).2).1 = .done () :=
    Outcome.eq_of_value? (by decide +kernel)
  have done : (createTables spelledTwice visited).1 = .done () :=
    Outcome.eq_of_value? (by decide +kernel)
  -- No name ends in a line feed or starts a constraint.
  have literal : ∀ table ∈ spelledTwice, table.IsLiteral := by
    have checked : ∀ table ∈ spelledTwice,
        (∀ name ∈ table.columns.keys ++ [table.name], ¬ Sql.IsBroken name) ∧
          ∀ column ∈ table.columns.tail, Store.sameName column.1 "constraint" = false := by
      decide
    exact fun table member => ⟨(checked table member).1, (checked table member).2⟩
  have filled : Filled (createTables spelledTwice visited).2 afterNote :=
    .insert "NOTE" [("body", .text "hi")] .start
  obtain ⟨_, written, again⟩ := createTables_repeatable spelledTwice visited
  exact ⟨inserted, written literal, again done _ _ filled (List.tail_suffix _).subset⟩

/-- A table whose name ends in a line feed, which no word does. -/
def brokenName : Table where
  name := "user\n"
  columns := [("name", .text)]

/-- A declaration whose name is no word is carried out. -/
theorem createTables_repeatable_linefeed :
    (createTables [brokenName] visited).1 = .done () ∧
      ¬ ∃ accepted, asWritten.Creates [brokenName] accepted visited.store
        (createTables [brokenName] visited) := by
  have done : (createTables [brokenName] visited).1 = .done () :=
    Outcome.eq_of_value? (by decide +kernel)
  refine ⟨done, ?_⟩
  rintro ⟨accepted, accepts, _, ends⟩
  rw [done] at ends
  -- All is taken then, and yet the name speaks against it.
  cases ends with
  | done same =>
    subst same
    cases accepts with
    | cons unrefused _ _ =>
      exact unrefused _ (.unsafeName (List.mem_append_right _ (List.mem_singleton_self _)) (by decide))

/-- A table whose second column is called like a constraint. -/
def constrained : Table where
  name := "task"
  columns := [("title", .text), ("constraint", .text)]

/-- A declaration is carried out whose second column is taken for the name of a constraint. -/
theorem createTables_repeatable_constraint :
    (createTables [constrained] visited).1 = .done () ∧
      ¬ ∃ accepted, asWritten.Creates [constrained] accepted visited.store
        (createTables [constrained] visited) := by
  have done : (createTables [constrained] visited).1 = .done () :=
    Outcome.eq_of_value? (by decide +kernel)
  -- The store has left the second column out.
  have columns : (createTables [constrained] visited).2.store.relations.getLast?.map
      Store.Relation.columns = some [⟨"title", .text⟩] := by
    decide +kernel
  refine ⟨done, ?_⟩
  rintro ⟨accepted, accepts, _, ends⟩
  rw [done] at ends
  cases ends with
  | done same =>
    subst same
    generalize (createTables [constrained] visited).2.store = after at accepts columns
    -- As all declarations were taken, the one there is made a table.
    obtain _ | ⟨_, takes, _ | _⟩ := accepts
    cases takes with
    | known found => cases found
    | new _ makes =>
      -- The table that is added has both columns if it is as it is declared.
      have declared := makes.columns
      simp only [asWritten, constrained] at declared
      simp [declared] at columns

end Storage

end PageServer
