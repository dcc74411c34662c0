import Mathlib.Data.List.Nodup
import PageServer.Proofs.Declared
import PageServer.Proofs.Growth

/-!
What is inserted is what is read back.

A record that fits a table becomes a row with one cell for each column, whatever the order of its
fields, and insertions elsewhere do not touch it. The query for every column gives the rows in the
order of their insertion, and decoding gives each column the value that the record had for it.
-/

namespace PageServer

/-- A value of a column's type; whole numbers have at most 64 bits. -/
inductive Value.IsOf : Ty.Storable → Value → Prop where
  | text (content : String) : IsOf .text (.text content)
  | int {n : Int} : -9223372036854775808 ≤ n → n < 9223372036854775808 → IsOf .int (.int n)
  | bool (value : Bool) : IsOf .bool (.bool value)

/-- A value as a cell. -/
def Value.cell : Value → Store.Cell
  | .text content => .text content
  | .int n => .int n
  | .bool value => .int (if value then 1 else 0)
  | _ => .null

namespace Value.IsOf

variable {type : Ty.Storable} {value : Value}

/-- A value of a column's type is bound as its cell. -/
theorem encode (kind : IsOf type value) : Storage.encode value = .ok value.cell := by
  cases kind <;> rfl

/-- A cell of a column's type fits. -/
theorem overflows (kind : IsOf type value) : value.cell.overflows = false := by
  cases kind with
  | text _ => rfl
  | @int n low high =>
    -- The bounds of the type are those of a cell.
    have within : Store.fits n = true := by
      rw [Store.fits, Bool.and_eq_true]
      exact ⟨decide_eq_true (by rw [Store.leastInt]; omega),
        decide_eq_true (by rw [Store.greatestInt]; omega)⟩
    simp [Value.cell, Store.Cell.overflows, within]
  | bool value => cases value <;> rfl

/-- A cell of a column's type is taken in as it is. -/
theorem admitted (kind : IsOf type value) :
    Store.Affinity.admit (Storage.affinity type) value.cell = value.cell := by
  -- Each affinity keeps the kind of cell that is stored under it.
  cases kind <;> rfl

/-- A cell of a column's type is decoded as the value it came from. -/
theorem decode (kind : IsOf type value) {declared : Ty} (storable : declared.storable? = some type)
    (column : String) : Storage.decode column value.cell declared = .ok value := by
  -- The declared type is the one whose name stands for the column's type.
  unfold Ty.storable? at storable
  split at storable <;> cases storable <;> cases kind
  · rfl
  · rfl
  · rename_i value
    cases value <;> rfl

end Value.IsOf

namespace Table

/-- A record with exactly the columns of a table, in any order, each with a value of its type. -/
structure Takes (table : Table) (record : Fields Value) : Prop where
  names : record.keys.Perm table.columns.keys
  values : ∀ name declared value, (name, declared) ∈ table.columns → (name, value) ∈ record →
    ∃ type, declared.storable? = some type ∧ Value.IsOf type value

/-- The cells of a record, one for each column. -/
def row (table : Table) (record : Fields Value) : List Store.Cell :=
  table.columns.map fun column => ((record.get? column.1).map Value.cell).getD .null

/-- Named values that are, for every column and nothing else, what a record holds. -/
structure Restores (table : Table) (record fields : Fields Value) : Prop where
  keys : fields.keys = table.columns.keys
  values : ∀ name ∈ table.columns.keys, fields.get? name = record.get? name

variable {table : Table} {record : Fields Value}

/-- No column is declared twice. -/
theorem IsStorable.nodup (storable : table.IsStorable) : table.columns.keys.Nodup := by
  -- The store tells the names of any two columns apart, so they differ.
  rw [Fields.keys, List.nodup_iff_pairwise_ne, List.pairwise_map]
  refine storable.distinct.imp ?_
  intro a b apart same
  rw [same, Store.sameName_self] at apart
  cases apart

/-- The name of the table is read as it is. -/
theorem IsStorable.readName (storable : table.IsStorable) :
    Store.readName table.name = .ok table.name := by
  simp [Store.readName, Store.bareName_of_isWord storable.named, storable.free]

/-- Two columns that are one to the store are one. -/
theorem IsStorable.eq_of_sameName (storable : table.IsStorable) {a b : String}
    (first : a ∈ table.columns.keys) (second : b ∈ table.columns.keys)
    (same : Store.sameName a b = true) : a = b := by
  -- The store tells declared columns apart, so their names differ also once they are folded.
  have folds : (table.columns.keys.map Store.fold).Nodup := by
    rw [Fields.keys, List.map_map, List.nodup_iff_pairwise_ne, List.pairwise_map]
    refine storable.distinct.imp ?_
    intro a b apart
    simpa [Store.sameName] using apart
  exact List.inj_on_of_nodup_map folds first second (by simpa [Store.sameName] using same)

/-- A record has a value of its type for each column. -/
theorem Takes.value (takes : table.Takes record) {name : String} {declared : Ty}
    (column : (name, declared) ∈ table.columns) :
    ∃ type value, record.get? name = some value ∧ declared.storable? = some type ∧
      Value.IsOf type value := by
  -- A record that fits has the names of the columns, each once.
  have named : name ∈ record.keys := takes.names.mem_iff.mpr (List.mem_map_of_mem column)
  obtain ⟨value, found, member⟩ := Fields.get?_of_mem_keys named
  obtain ⟨type, storable, kind⟩ := takes.values name declared value column member
  exact ⟨type, value, found, storable, kind⟩

/-- Each entry of a record is a value of the type of some column. -/
theorem Takes.entry (takes : table.Takes record) {entry : String × Value} (member : entry ∈ record) :
    entry.1 ∈ table.columns.keys ∧ ∃ type, Value.IsOf type entry.2 := by
  -- Each name of the record is that of a column, whose type its value has.
  have named : entry.1 ∈ table.columns.keys := takes.names.mem_iff.mp (List.mem_map_of_mem member)
  obtain ⟨⟨name, declared⟩, column, same⟩ := List.mem_map.mp named
  obtain ⟨type, _, kind⟩ := takes.values entry.1 declared entry.2 (same ▸ column) member
  exact ⟨named, type, kind⟩

end Table

namespace Storage

variable {table : Table} {record : Fields Value}

/-- The cells of a record under their names. -/
def supplied (record : Fields Value) : Fields Store.Cell :=
  record.map fun entry => (entry.1, entry.2.cell)

/-- The fields of a record are bound as their cells. -/
theorem encodeFields_takes (takes : table.Takes record) :
    encodeFields record = .ok (supplied record) := by
  have kinds : ∀ entry ∈ record, ∃ type, Value.IsOf type entry.2 :=
    fun entry member => (takes.entry member).2
  -- Only the kinds count from here on, which hold of every part of the record.
  clear takes
  induction record with
  | nil => rfl
  | cons entry rest ih =>
    obtain ⟨⟨type, kind⟩, later⟩ := List.forall_mem_cons.mp kinds
    simp only [encodeFields, kind.encode, ih later]
    rfl

/-- The first cell under a name that passes a test is that of the field which the test means. -/
theorem find?_cells (test : String → Bool) {name : String} {value : Value}
    (found : record.get? name = some value) (passes : test name = true)
    (only : ∀ entry ∈ record, test entry.1 = true → entry.1 = name) :
    (supplied record).find? (fun entry => test entry.1) = some (name, value.cell) := by
  -- The induction is on the record; a field of another name fails the test and is passed by.
  unfold supplied
  induction record with
  | nil => cases found
  | cons entry rest ih =>
    obtain ⟨here, later⟩ := List.forall_mem_cons.mp only
    by_cases same : entry.1 = name
    · simp only [Fields.get?, same, if_true, Option.some.injEq] at found
      simp [same, passes, found]
    · have fails : test entry.1 = false := by
        rw [Bool.eq_false_iff]
        exact fun hit => same (here hit)
      simp only [Fields.get?, same, if_false] at found
      simp only [List.map_cons, List.find?_cons, fails]
      exact ih found later

/-- Each placeholder of a record's names takes the cell of its field. -/
theorem bound_cells (distinct : record.keys.Nodup) :
    record.keys.map (Store.bound (supplied record)) =
      (record.map fun entry => entry.2.cell).map .ok := by
  rw [Fields.keys, List.map_map, List.map_map]
  apply List.map_congr_left
  intro entry member
  obtain ⟨value, found, among⟩ := Fields.get?_of_mem_keys (List.mem_map_of_mem member)
  -- There is one field of this name only.
  have same : (entry.1, value) = entry := List.inj_on_of_nodup_map distinct among member rfl
  have value_eq : value = entry.2 := congrArg Prod.snd same
  have cell := find?_cells (· == entry.1) found (by simp) (by simp)
  simp only [Function.comp_apply, Store.bound, cell, value_eq]

/-- A row that is made of a record has its cells in the order of the columns. -/
theorem cells_takes (storable : table.IsStorable) (takes : table.Takes record)
    {relation : Store.Relation} (columns : relation.columns = table.columns.map storedColumn) :
    relation.cells (supplied record) = table.row record := by
  rw [Store.Relation.cells, columns, List.map_map, Table.row]
  apply List.map_congr_left
  rintro ⟨name, declared⟩ member
  obtain ⟨type, value, found, storable_eq, kind⟩ := takes.value member
  have named : name ∈ table.columns.keys := List.mem_map_of_mem member
  -- The first field that the store takes for the column is the one of its name.
  have cell := find?_cells (Store.sameName · name) found (Store.sameName_self name)
    fun entry among same => storable.eq_of_sameName (takes.entry among).1 named same
  simp only [Function.comp_apply, storedColumn, cell, storable_eq, found, Option.map_some,
    Option.getD_some, kind.admitted]

/-- Every name of a record is a column of the table. -/
theorem hasColumn_takes (takes : table.Takes record) {relation : Store.Relation}
    (columns : relation.columns = table.columns.map storedColumn) {name : String}
    (member : name ∈ record.keys) : relation.hasColumn name = true := by
  -- A name of the record is that of a column, which is stored under it.
  obtain ⟨column, among, rfl⟩ := List.mem_map.mp (takes.names.mem_iff.mp member)
  rw [Store.Relation.hasColumn, columns, List.any_eq_true]
  exact ⟨storedColumn column, List.mem_map_of_mem among, Store.sameName_self column.1⟩

/-- A row that is made of a record takes the next number. -/
theorem number_takes (takes : table.Takes record) {relation : Store.Relation}
    (columns : relation.columns = table.columns.map storedColumn) :
    relation.number (supplied record) = .ok relation.nextNumber := by
  -- A column hides the row number of its name.
  have unnumbered : ((supplied record).reverse.find? fun entry =>
      relation.namesNumber entry.1) = none := by
    rw [List.find?_eq_none]
    intro entry member
    obtain ⟨field, among, rfl⟩ := List.mem_map.mp (List.mem_reverse.mp member)
    have named := hasColumn_takes takes columns (List.mem_map_of_mem among)
    simp [Store.Relation.namesNumber, named]
  simp only [Store.Relation.number, unnumbered]

end Storage

namespace Store

variable {store : Store}

/-- Plain names are read as they are. -/
theorem readNames_plain {names : List String} (plain : ∀ name ∈ names, IsPlainName name) :
    readNames names = .ok names := by
  -- The names are read one by one, and each stays as it is.
  induction names with
  | nil => rfl
  | cons name rest ih =>
    obtain ⟨here, later⟩ := List.forall_mem_cons.mp plain
    simp only [readNames, readName_plain here, ih later]
    rfl

/-- Names of columns are not refused. -/
theorem requireColumns_ok {relation : Relation} {names : List String}
    (columns : ∀ name ∈ names, relation.hasColumn name = true) (table : String) :
    requireColumns table relation names = .ok () := by
  -- The first name that is no column would be refused, and there is none.
  induction names with
  | nil => rfl
  | cons name rest ih =>
    obtain ⟨here, later⟩ := List.forall_mem_cons.mp columns
    simp [requireColumns, here, ih later]

/-- An insertion of plain names into a table that has them is accepted. -/
theorem prepareInsert_plain {table : String} {names : List String} {relation : Relation}
    (target : readName table = .ok table) (read : readNames names = .ok names)
    (found : store.relation? table = some relation)
    (required : requireColumns table relation names = .ok ()) (supplied : List (String × Cell)) :
    ∃ statement, store.prepareInsert table names supplied = .ok statement ∧
      statement.bindings = names.map (bound supplied) ∧
      ∀ cells number, relation.number (names.zip cells) = .ok number →
        statement.step cells =
          some (.ok (store.append table ⟨number, relation.cells (names.zip cells)⟩, ())) := by
  -- Each stage of the preparation succeeds, so what is prepared is known in full.
  refine ⟨{
      bindings := names.map (bound supplied)
      step := fun cells => some do
        let number ← relation.number (names.zip cells)
        return (store.append table ⟨number, relation.cells (names.zip cells)⟩, ()) }, ?_, rfl, ?_⟩
  · simp only [prepareInsert, target, read, found, required, bind, Except.bind]
    rfl
  · intro cells number given
    simp only [given]
    rfl

/-- The next number is above that of every row. -/
theorem Relation.lt_nextNumber {relation : Relation} {row : Row} (member : row ∈ relation.rows) :
    row.number < relation.nextNumber := by
  -- The highest number so far only goes up, and passes each row on the way.
  have highest : ∀ (rows : List Row) (start : Int),
      start ≤ rows.foldl (fun highest row => max highest row.number) start ∧
        ∀ row ∈ rows, row.number ≤ rows.foldl (fun highest row => max highest row.number) start := by
    intro rows
    induction rows with
    | nil => simp
    | cons first rest ih =>
      intro start
      obtain ⟨above, others⟩ := ih (max start first.number)
      simp only [List.foldl_cons]
      refine ⟨by omega, List.forall_mem_cons.mpr ⟨by omega, others⟩⟩
  unfold nextNumber
  split
  · rename_i none
    rw [none] at member
    cases member
  · rename_i first rest some
    rw [some] at member
    obtain ⟨above, others⟩ := highest rest first.number
    rcases List.mem_cons.mp member with rfl | member
    · omega
    · have := others row member
      omega

/-- A table that is found under a name goes by it. -/
theorem sameName_of_relation? {name : String} {relation : Relation}
    (found : store.relation? name = some relation) : sameName relation.name name = true := by
  unfold relation? at found
  -- The search ends with a table that passes its test.
  simpa using List.find?_some found

/-- Tables are found in a store with one more row as they are without it, up to that row. -/
theorem relation?_append (name other : String) (row : Row) :
    (store.append name row).relation? other =
      (store.relation? other).map fun relation =>
        if sameName relation.name name then { relation with rows := relation.rows ++ [row] }
        else relation := by
  -- A row more does not change the name of a table, by which it is looked for.
  have kept : ((fun relation : Relation => sameName relation.name other) ∘ fun relation =>
      if sameName relation.name name then { relation with rows := relation.rows ++ [row] }
      else relation) = fun relation => sameName relation.name other := by
    funext relation
    simp only [Function.comp_apply]
    split <;> rfl
  rw [relation?, append, List.find?_map, kept]
  rfl

/-- A row that is added to a table is the last one there. -/
theorem relation?_append_self {name : String} {relation : Relation}
    (found : store.relation? name = some relation) (row : Row) :
    (store.append name row).relation? name =
      some { relation with rows := relation.rows ++ [row] } := by
  -- The table that is found goes by the name, so it is the one that takes the row.
  simp [relation?_append, found, sameName_of_relation? found]

/-- A row that is added to a table leaves every other table as it is. -/
theorem relation?_append_other {name other : String} (apart : sameName name other = false)
    (row : Row) : (store.append name row).relation? other = store.relation? other := by
  rw [relation?_append]
  cases found : store.relation? other with
  | none => rfl
  | some relation =>
    have named := sameName_of_relation? found
    -- Its name is not the one that the row is added under.
    have differs : sameName relation.name name = false := by
      simp only [sameName, beq_iff_eq, beq_eq_false_iff_ne] at named apart ⊢
      exact fun same => apart (same.symm.trans named)
    simp [differs]

end Store

namespace Storage

variable {table : Table} {record : Fields Value} {rows : List Store.Row} {machine : Machine}

/-- An insertion ends as its statement does. -/
theorem insertion_done {target sql : String} {names : List String} {given : Fields Store.Cell} :
    (insertion target names sql given machine).1 = .done () ↔
      (machine.connection.run sql fun store => store.prepareInsert target names given).1 =
        some (.ok ()) := by
  -- As for a selection: the note that comes first leaves the connection alone.
  rw [insertion, Run.note_andThen]
  exact Run.statement_done

/-- The columns that a record names are plain. -/
theorem plain_takes (storable : table.IsStorable) (takes : table.Takes record) :
    ∀ name ∈ record.keys, Store.IsPlainName name := by
  -- Its names are those of columns, which are plain by declaration.
  intro name member
  obtain ⟨column, among, rfl⟩ := List.mem_map.mp (takes.names.mem_iff.mp member)
  exact storable.plain column among

/-- The statement for a record that fits adds its row, with the next number, to the table. -/
theorem run_insert_takes (storable : table.IsStorable) (takes : table.Takes record)
    {relation : Store.Relation} (found : machine.store.relation? table.name = some relation)
    (columns : relation.columns = table.columns.map storedColumn) {sql : String}
    (clean : Sql.IsClean sql) :
    (machine.connection.run sql fun store =>
        store.prepareInsert table.name record.keys (supplied record)).1 = some (.ok ()) ∧
      (machine.connection.run sql fun store =>
        store.prepareInsert table.name record.keys (supplied record)).2.store =
        machine.store.append table.name ⟨relation.nextNumber, table.row record⟩ := by
  -- Nothing speaks against the statement, so it is prepared.
  obtain ⟨statement, prepared, bindings, stepped⟩ := Store.prepareInsert_plain storable.readName
    (Store.readNames_plain (plain_takes storable takes)) found
    (Store.requireColumns_ok (fun _ => hasColumn_takes takes columns) table.name) (supplied record)
  -- A value of a column's type never overflows.
  have fit : ∀ cell ∈ record.map fun entry => entry.2.cell, cell.overflows = false := by
    intro cell member
    obtain ⟨entry, among, rfl⟩ := List.mem_map.mp member
    obtain ⟨_, type, kind⟩ := takes.entry among
    exact kind.overflows
  have distinct : record.keys.Nodup := takes.names.nodup_iff.mpr storable.nodup
  have given : record.keys.zip (record.map fun entry => entry.2.cell) = supplied record := by
    rw [Fields.keys, List.zip_map']
    rfl
  -- The row takes the cells in the order of the columns, and the next number.
  have after := stepped (record.map fun entry => entry.2.cell) relation.nextNumber
    (by rw [given, number_takes takes columns])
  rw [given, cells_takes storable takes columns] at after
  refine Store.Connection.run_ok clean ?_ fit (bindings.trans (bound_cells distinct)) after
  exact prepared

/-- A record that fits is inserted, as a row after those that are there. -/
theorem insert_takes (storable : table.IsStorable) (takes : table.Takes record)
    (kept : Keeps table rows machine.store) :
    (insert table.name record machine).1 = .done () ∧
      ∃ number, (∀ row ∈ rows, row.number < number) ∧
        Keeps table (rows ++ [⟨number, table.row record⟩])
          (insert table.name record machine).2.store := by
  obtain ⟨relation, found, columns, rfl⟩ := kept
  -- Its names are words, so the statement can be written and has nothing that the store refuses.
  obtain ⟨sql, written, clean⟩ := Sql.insert_words storable.named fun name member =>
    (plain_takes storable takes name member).word
  have inserted : insert table.name record =
      insertion table.name record.keys sql (supplied record) := by
    rw [insert, written, encodeFields_takes takes]
    rfl
  obtain ⟨ended, left⟩ := run_insert_takes storable takes found columns clean
  rw [inserted, insertion_machine, Machine.store, left]
  refine ⟨insertion_done.mpr ended, relation.nextNumber, ?_, ?_⟩
  · exact fun row member => Store.Relation.lt_nextNumber member
  · exact ⟨_, Store.relation?_append_self found _, columns, rfl⟩

/-- An insertion under another name leaves the table as it is, whether or not it succeeds. -/
theorem insert_other {name : String} (apart : Store.sameName (Store.bareName name) table.name = false)
    (fields : Fields Value) (kept : Keeps table rows machine.store) :
    Keeps table rows (insert name fields machine).2.store := by
  -- At most a row is appended, and that to a table of another name.
  rcases insert_store name fields machine with same | ⟨row, appended⟩
  · rw [same]
    exact kept
  · obtain ⟨relation, found, described⟩ := kept
    refine ⟨relation, ?_, described⟩
    rw [appended, Store.relation?_append_other apart]
    exact found

end Storage

/-- Records that are inserted into a table in order, with any insertions elsewhere between them. -/
inductive Table.Inserted (table : Table) (start : Machine) : List (Fields Value) → Machine → Prop where
  | start : Inserted table start [] start
  /-- A record is inserted that fits the table. -/
  | own {records : List (Fields Value)} {machine : Machine} {record : Fields Value} :
    Inserted table start records machine → table.Takes record →
    Inserted table start (records ++ [record]) (Storage.insert table.name record machine).2
  /-- Something is inserted into another table. -/
  | other {records : List (Fields Value)} {machine : Machine} {name : String}
    (fields : Fields Value) : Inserted table start records machine →
    Store.sameName (Store.bareName name) table.name = false →
    Inserted table start records (Storage.insert name fields machine).2

namespace Storage

variable {table : Table} {start machine : Machine} {records : List (Fields Value)}

/-- Inserted records are the rows of the table, numbered in the order of their insertion. -/
theorem keeps_of_inserted (storable : table.IsStorable) (empty : Keeps table [] start.store)
    (inserted : table.Inserted start records machine) :
    (∀ record ∈ records, table.Takes record) ∧
      ∃ rows, Keeps table rows machine.store ∧ (rows.Pairwise fun a b => a.number < b.number) ∧
        rows.map Store.Row.cells = records.map table.row := by
  -- The induction is on the insertions, of which only those into the table add rows.
  induction inserted with
  | start => exact ⟨by simp, [], empty, .nil, rfl⟩
  | @own records machine record _ takes ih =>
    obtain ⟨all, rows, kept, ordered, cells⟩ := ih
    -- The new row is the last, and its number is above all others.
    obtain ⟨_, number, above, next⟩ := insert_takes storable takes kept
    refine ⟨?_, _, next, ?_, ?_⟩
    · intro other member
      rcases List.mem_append.mp member with earlier | last
      · exact all other earlier
      · cases List.mem_singleton.mp last
        exact takes
    · rw [List.pairwise_append]
      exact ⟨ordered, List.pairwise_singleton _ _, by simpa using above⟩
    · simp [cells]
  -- What is inserted elsewhere leaves the rows as they are.
  | other fields _ apart ih =>
    obtain ⟨all, rows, kept, ordered, cells⟩ := ih
    exact ⟨all, rows, insert_other apart fields kept, ordered, cells⟩

/-- A query ends as its statement does. -/
theorem selection_done {query : Query} {sql : String} {tail : Store.Tail}
    {parameters : List Store.Cell} {rows : List (Fields Store.Cell)} :
    (selection query sql tail parameters machine).1 = .done rows ↔
      (machine.connection.run sql fun store =>
        store.prepareSelect (machine.engines 0) (query.question tail) parameters).1 =
          some (.ok rows) := by
  -- The note that comes first does not touch the connection.
  rw [selection, Run.note_andThen]
  exact Run.statement_done

/-- Rows whose numbers go up are read in their order. -/
theorem scan_eq {relation : Store.Relation}
    (ordered : relation.rows.Pairwise fun a b => a.number < b.number) :
    relation.scan = relation.rows := by
  -- Rows that are in order already are not moved.
  apply List.mergeSort_of_pairwise
  exact ordered.imp fun below => decide_eq_true (Int.le_of_lt below)

/-- The stored columns of a table go by the names that are declared. -/
theorem names_storedColumn (table : Table) :
    (table.columns.map storedColumn).map Store.Column.name = table.columns.keys := by
  rw [List.map_map]
  rfl

/-- Every stored column of a table can be asked for by its name. -/
theorem plain_storedColumn (storable : table.IsStorable) :
    ∀ column ∈ table.columns.map storedColumn, Store.IsPlainName column.name := by
  intro stored member
  -- The stored columns keep the names that are declared.
  obtain ⟨column, among, rfl⟩ := List.mem_map.mp member
  exact storable.plain column among

/-- The query for every column of a table gives its rows in order. -/
theorem select_ofTable (storable : table.IsStorable) {rows : List Store.Row}
    (kept : Keeps table rows machine.store)
    (ordered : rows.Pairwise fun a b => a.number < b.number)
    (wide : ∀ row ∈ rows, row.cells.length = table.columns.length) :
    (select (.ofTable table) [] machine).1 =
      .done (rows.map fun row => table.columns.keys.zip row.cells) := by
  obtain ⟨relation, found, columns, rfl⟩ := kept
  -- The query is written with plain names, and asked as it is written.
  obtain ⟨sql, written, clean⟩ := Sql.select_ofTable storable.named (by
    intro name member
    obtain ⟨column, among, rfl⟩ := List.mem_map.mp member
    exact (storable.plain column among).word)
  have selected : select (.ofTable table) [] =
      selection (.ofTable table) sql (.plain [] none) [] := by
    rw [select, written]
    rfl
  -- The store accepts it, and gives the rows in the order of their numbers.
  have readable : machine.store.readable? table.name = some relation := by
    simp [Store.readable?, found]
  obtain ⟨statement, prepared, bindings, stepped⟩ := Store.prepareSelect_whole
    (machine.engines 0) (Store.bareName_of_isWord storable.named) storable.free readable
    (columns ▸ plain_storedColumn storable) (by simpa [columns] using storable.filled)
    (by simpa [columns] using storable.few)
    (columns ▸ List.pairwise_map.mpr storable.distinct) (by simpa [columns] using wide)
  rw [columns, names_storedColumn, scan_eq ordered] at stepped
  rw [columns, names_storedColumn] at prepared
  -- There is nothing to bind.
  have fit : ∀ cell ∈ ([] : List Store.Cell), cell.overflows = false := by simp
  rw [selected, selection_done]
  refine (Store.Connection.run_ok clean ?_ fit bindings stepped).1
  exact prepared

/-- A column is declared with its type. -/
theorem declaredType_ofTable (storable : table.IsStorable) {name : String} {declared : Ty}
    (column : (name, declared) ∈ table.columns) :
    declaredType (.ofTable table) name = declared := by
  -- A name is declared once, so the entry that is found is the column's.
  have found : (Fields.ofPairs table.columns).get? name = some declared := by
    refine Fields.get?_ofPairs_of_mem column ?_
    intro entry member same
    exact congrArg Prod.snd (List.inj_on_of_nodup_map storable.nodup member column same)
  simp [declaredType, Query.ofTable, found]

/-- The cells of a record under the names of columns are decoded as its values. -/
theorem decodeCells_row (storable : table.IsStorable) {record : Fields Value}
    (takes : table.Takes record) {columns : Fields Ty} (among : columns ⊆ table.columns) :
    ∃ fields, decodeCells (.ofTable table) (columns.keys.zip (Table.row ⟨table.name, columns⟩ record)) =
        .ok fields ∧
      fields.keys = columns.keys ∧ ∀ entry ∈ fields, record.get? entry.1 = some entry.2 := by
  -- The induction is on a part of the columns, each of which the record has a value for.
  induction columns with
  | nil => exact ⟨[], rfl, rfl, by simp⟩
  | cons column rest ih =>
    obtain ⟨here, later⟩ := List.cons_subset.mp among
    obtain ⟨fields, decoded, keys, values⟩ := ih later
    obtain ⟨type, value, found, stored, kind⟩ := takes.value here
    have declared := declaredType_ofTable storable here
    refine ⟨(column.1, value) :: fields, ?_, ?_, ?_⟩
    · simp only [Table.row, Fields.keys, List.map_cons, List.zip_cons_cons, decodeCells] at decoded ⊢
      rw [found, declared, decoded]
      simp only [Option.map_some, Option.getD_some, kind.decode stored]
      rfl
    · simpa [Fields.keys] using keys
    · exact List.forall_mem_cons.mpr ⟨found, values⟩

/-- The row of a record is decoded as what the record holds for each column. -/
theorem decodeRow_row (storable : table.IsStorable) {record : Fields Value}
    (takes : table.Takes record) :
    ∃ fields, decodeRow (.ofTable table) (table.columns.keys.zip (table.row record)) = .ok fields ∧
      table.Restores record fields := by
  -- The cells are decoded in order, and then merged by name.
  obtain ⟨fields, decoded, keys, values⟩ := decodeCells_row storable takes (List.Subset.refl _)
  refine ⟨Fields.ofPairs fields, ?_, ?_, ?_⟩
  · simp only [decodeRow, decoded]
    rfl
  · rw [Fields.ofPairs_of_nodup (by rw [keys]; exact storable.nodup), keys]
  · intro name member
    rw [← keys] at member
    obtain ⟨entry, among, rfl⟩ := List.mem_map.mp member
    rw [values entry among]
    -- Two entries of one name have the value that the record has for it.
    refine Fields.get?_ofPairs_of_mem among ?_
    intro other there same
    have := values other there
    rw [same, values entry among] at this
    exact (Option.some.inj this).symm

/--
What is inserted is what is read back.

After a table is created whose names are plain words, every record that fits it can be inserted. The
query for every column of the table then gives as many rows as records were inserted, in their order,
and each row is decoded as the value that its record held for each column.
-/
theorem select_reads_back (named : Sql.isWord table.name = true)
    (plain : ∀ column ∈ table.columns, Store.IsPlainName column.1)
    (new : start.store.relation? table.name = none)
    (created : (createTables [table] start).1 = .done ())
    (inserted : table.Inserted (createTables [table] start).2 records machine) :
    (∀ record, table.Takes record → (insert table.name record machine).1 = .done ()) ∧
      ∃ rows, (select (.ofTable table) [] machine).1 = .done rows ∧
        List.Forall₂ (fun record row => ∃ fields,
          decodeRow (.ofTable table) row = .ok fields ∧ table.Restores record fields)
          records rows := by
  -- The table is there and empty, and keeps what the insertions have added.
  obtain ⟨storable, empty⟩ := createTables_done named plain new created
  obtain ⟨all, rows, kept, ordered, cells⟩ := keeps_of_inserted storable empty inserted
  refine ⟨fun record takes => (insert_takes storable takes kept).1, ?_⟩
  -- A row is as wide as the table, since it was made from a record.
  have wide : ∀ row ∈ rows, row.cells.length = table.columns.length := by
    intro row member
    have among : row.cells ∈ records.map table.row := cells ▸ List.mem_map_of_mem member
    obtain ⟨record, _, same⟩ := List.mem_map.mp among
    simp [← same, Table.row]
  refine ⟨_, select_ofTable storable kept ordered wide, ?_⟩
  -- The cells of the rows are those of the records.
  have zipped : (rows.map fun row => table.columns.keys.zip row.cells) =
      records.map fun record => table.columns.keys.zip (table.row record) := by
    have zips := congrArg (List.map (table.columns.keys.zip ·)) cells
    simpa [Function.comp_def] using zips
  rw [zipped, List.forall₂_map_right_iff, List.forall₂_same]
  exact fun record member => decodeRow_row storable (all record member)

end Storage

namespace Table

/-- Members, each with a name, an age, and whether they lead. -/
def members : Table where
  name := "member"
  columns := [("name", .text), ("age", .int), ("leads", .bool)]

/-- The record of a member, whose fields are in another order than the columns. -/
def member (name : String) (age : Int) (leads : Bool) : Fields Value :=
  [("leads", .bool leads), ("name", .text name), ("age", .int age)]

/-- The record of a member fits, whatever the name, if the age fits. -/
theorem members_takes {age : Int} (low : -9223372036854775808 ≤ age)
    (high : age < 9223372036854775808) (name : String) (leads : Bool) :
    members.Takes (member name age leads) where
  names := (by decide : ["leads", "name", "age"].Perm ["name", "age", "leads"])
  values := by
    intro column declared value declares holds
    simp only [members, member, List.mem_cons, Prod.mk.injEq, List.not_mem_nil,
      or_false] at declares holds
    -- Each column has one field of its name, whose value is of its type.
    rcases declares with ⟨rfl, rfl⟩ | ⟨rfl, rfl⟩ | ⟨rfl, rfl⟩
    · simp at holds
      exact ⟨.text, rfl, holds ▸ .text name⟩
    · simp at holds
      exact ⟨.int, rfl, holds ▸ .int low high⟩
    · simp at holds
      exact ⟨.bool, rfl, holds ▸ .bool leads⟩

end Table

namespace Storage

/-- A machine with a table of visits, which has no rows. -/
def visited : Machine where
  connection := { store := { relations := [{ name := "visit", columns := [⟨"place", .text⟩] }] } }
  clock := fun _ => 0

/-- Two members and a visit between them: the members are read back in their order. -/
theorem select_reads_back_members :
    ∃ rows, (select (.ofTable .members) [] (insert "member" (Table.member "bo" (-1) false)
        (insert "visit" [("place", .text "home")] (insert "member" (Table.member "ann" 41 true)
          (createTables [.members] visited).2).2).2).2).1 = .done rows ∧
      List.Forall₂ (fun record row => ∃ fields,
        decodeRow (.ofTable .members) row = .ok fields ∧ Table.members.Restores record fields)
        [Table.member "ann" 41 true, Table.member "bo" (-1) false] rows := by
  -- The names of its columns are words that mean nothing else.
  have plain : ∀ column ∈ Table.members.columns, Store.IsPlainName column.1 := by
    have checked : ∀ column ∈ Table.members.columns, Sql.isWord column.1 = true ∧
      Store.isKeyword column.1 = false ∧ Store.fold column.1 ∉ Store.formulaWords := by decide
    intro column member
    obtain ⟨word, free, apart⟩ := checked column member
    exact ⟨word, free, apart⟩
  have created : (createTables [.members] visited).1 = .done () :=
    Outcome.eq_of_value? (by decide +kernel)
  -- Both ages fit into a column of numbers.
  have ann := @Table.members_takes 41 (by decide) (by decide) "ann" true
  have bo := @Table.members_takes (-1) (by decide) (by decide) "bo" false
  have apart : Store.sameName (Store.bareName "visit") Table.members.name = false := by decide
  -- The visit is inserted between the two members, into a table of another name.
  have inserted : Table.Inserted .members (createTables [.members] visited).2 _ _ :=
    .own (.other [("place", .text "home")] (.own .start ann) apart) bo
  exact (select_reads_back (by decide) plain rfl created inserted).2

end Storage

end PageServer
