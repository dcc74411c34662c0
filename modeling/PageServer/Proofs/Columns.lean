import PageServer.Proofs.Reading
import PageServer.Proofs.Storage

/-! Selecting every column of a table: its rows, each cell under the name of its column. -/

namespace PageServer.Store

/-- No two columns go by one name, as the store tells names apart. -/
def AreDistinct (columns : List Column) : Prop :=
  columns.Pairwise fun a b => sameName a.name b.name = false

namespace Relation

variable {relation : Relation}

/-- The name of a column refers to its place. -/
theorem source?_column (distinct : AreDistinct relation.columns) {index : Nat} {column : Column}
    (here : relation.columns[index]? = some column) :
    relation.source? column.name = some (.place index column) := by
  -- The first column of the name is this one, since no earlier one goes by it.
  obtain ⟨bound, rfl⟩ := List.getElem?_eq_some_iff.mp here
  have found : (relation.columns.findIdx? fun column =>
      sameName column.name relation.columns[index].name) = some index := by
    rw [List.findIdx?_eq_some_iff_getElem]
    refine ⟨bound, by simp [sameName], ?_⟩
    intro earlier before
    simp [List.pairwise_iff_getElem.mp distinct earlier index (Nat.lt_trans before bound) bound before]
  simp [source?, found]

/-- The name of a column means the column, whatever else it might mean. -/
theorem meaning?_column (distinct : AreDistinct relation.columns) {index : Nat} {column : Column}
    (here : relation.columns[index]? = some column) :
    Scope.meaning? (some relation) { name := column.name } =
      some (.source (.place index column)) := by
  -- Columns are looked at before anything else that a name can mean.
  simp [Scope.meaning?, Scope.source?, Scope.owns, source?_column distinct here]

/-- The formulas of all columns. -/
def mentions (relation : Relation) : List Formula :=
  relation.columns.map fun column => .name { name := column.name }

/-- Names of columns are in order. -/
theorem nameFaults_mentions (distinct : AreDistinct relation.columns) :
    Selection.nameFaults (some relation) relation.mentions = none := by
  -- Each mention names a column, so it is in order by itself.
  have fine : ∀ formula ∈ relation.mentions, formula.nameFault? (some relation) = none := by
    intro formula member
    obtain ⟨column, among, rfl⟩ := List.mem_map.mp member
    obtain ⟨index, here⟩ := List.getElem?_of_mem among
    simp [Formula.nameFault?, Check.formula, Check.name, meaning?_column distinct here]
  -- Only that each formula is in order counts from here on, not where it comes from.
  generalize relation.mentions = formulas at fine
  induction formulas with
  | nil => rfl
  | cons first rest ih =>
    obtain ⟨here, later⟩ := List.forall_mem_cons.mp fine
    simp [Selection.nameFaults, here, ih later]

/-- Names put nothing aside and meet no fault. -/
theorem inOrder_mentions (scope : Scope) (columns : List Column) (coding : Coding) :
    Coding.inOrder ((Formula.codersAll scope
      (columns.map fun column => .name { name := column.name })).map Coders.value) coding =
      coding := by
  -- A name has nothing to code, so the induction leaves the state as it is at each column.
  induction columns with
  | nil => rfl
  | cons column rest ih => exact ih

/-- The values of all columns in a row are its cells. -/
theorem all_mentions (distinct : AreDistinct relation.columns) (supply : Supply) {row : Row}
    (wide : row.cells.length = relation.columns.length) :
    (supply.on relation row).all relation.mentions = .ok row.cells := by
  have cells : ∀ columns : List Column, (supply.on relation row).all
      (columns.map fun column => .name { name := column.name }) =
        .ok (columns.map fun column => (supply.on relation row).name { name := column.name }) := by
    -- No formula of the list has a fault, so all of them have values.
    intro columns
    induction columns with
    | nil => rfl
    | cons column rest ih =>
      simp only [View.all, View.outcomes, List.map_cons, Outcome.cells] at ih ⊢
      rw [ih]
      rfl
  rw [mentions, cells]
  congr 1
  -- The name at a place means the column at that place, and so the cell there.
  apply List.ext_getElem
  · simp [wide]
  · intro index bound below
    have here : relation.columns[index]? = some relation.columns[index] := by simp
    simp [View.name, Supply.on, meaning?_column distinct here, Source.cell, below]

/-- The selection of all columns. -/
def whole (relation : Relation) (table : String) : Selection where
  columns := relation.columns.map fun column => (.name { name := column.name }, column.name)
  table

/-- The columns of the selection are all columns. -/
theorem columns_whole (table : String) :
    (relation.whole table).columns.map Prod.fst = relation.mentions := by
  simp [whole, mentions]

/-- The names in the selection of all columns are in order. -/
theorem nameFault?_whole (distinct : AreDistinct relation.columns)
    (few : relation.columns.length ≤ columnLimit) (table : String) :
    (relation.whole table).nameFault? relation = none := by
  -- There are as many mentions as columns, which is within the limit.
  have length : relation.mentions.length ≤ columnLimit := by simpa [mentions] using few
  have fine := nameFaults_mentions distinct
  simp only [Selection.nameFault?, columns_whole]
  simp [whole, Selection.nameFaults, Selection.sortFaults, fine, Nat.not_lt.mpr length]

/-- Nothing in the selection of all columns is known before it runs. -/
theorem answered_whole (scope : Scope) (table : String) :
    (relation.whole table).answered scope = relation.whole table := by
  -- Its formulas are names of columns, whose outcome needs a row.
  simp [Selection.answered, whole, Formula.changed, Formula.answered]

/-- The selection of all columns is put into steps without a fault, and nothing is put aside. -/
theorem coded_whole (table : String) : (relation.whole table).coded relation = .ok {} := by
  -- A column by its name has no constant in it, so no stage has anything to put aside.
  have values : Coding.inOrder ((Formula.codersAll (some relation) relation.mentions).map
      Coders.value) = id := funext (inOrder_mentions (some relation) relation.columns)
  have tests : (relation.whole table).tests (some relation) = ⟨[], [], none⟩ := rfl
  have order : (relation.whole table).order = [] := rfl
  simp only [Selection.coded, tests, order, columns_whole, List.map_nil, List.append_nil, values]
  rfl

/-- Without conditions, the rows are read in the order of their numbers. -/
theorem readingOrder_nil (supply : Supply) : readingOrder relation supply [] = relation.scan := by
  unfold readingOrder arranged
  -- An empty scan and one with rows take different branches to the same result.
  cases empty : relation.scan with
  | nil => rfl
  | cons row rest => rfl

/-- Without conditions, every row is wanted. -/
theorem satisfying_nil (supply : Supply) (rows : List Row) :
    Selection.satisfying relation supply [] none rows = .ok rows := by
  -- The induction is on the rows; with nothing wanted in particular none is the last.
  induction rows with
  | nil => rfl
  | cons row rest ih =>
    simp only [Selection.satisfying, Selection.allHold, Option.map_none, ih]
    rfl

/-- The values of formulas on rows, if they have values on each. -/
theorem withValues_eq {supply : Supply} {formulas : List Formula} {cells : Row → List Cell}
    {rows : List Row}
    (valued : ∀ row ∈ rows, (supply.on relation row).all formulas = .ok (cells row)) :
    Selection.withValues relation supply formulas rows = .ok (rows.map fun row => (cells row, row)) := by
  -- The induction is on the rows, each of which is given with its values.
  induction rows with
  | nil => rfl
  | cons row rest ih =>
    obtain ⟨here, later⟩ := List.forall_mem_cons.mp valued
    simp only [Selection.withValues, here, ih later]
    rfl

/-- The selection of all columns tests no condition, so all rows pass in their order. -/
theorem filtered_whole (table : String) (supply : Supply) :
    (relation.whole table).filtered relation supply none = .ok relation.scan := by
  -- With no condition, no row is sought by its number either.
  have tests : (relation.whole table).tests (some relation) = ⟨[], [], none⟩ := rfl
  have unordered : (relation.whole table).byNumber? (some relation) = none := rfl
  simp only [Selection.filtered, tests, unordered, readingOrder_nil]
  exact satisfying_nil supply relation.scan

/-- The selection of all columns has no sort term that tells rows apart, so they keep their order. -/
theorem sorted_whole (table : String) (supply : Supply) :
    (relation.whole table).sorted relation supply relation.scan = .ok relation.scan := by
  have valued : Selection.withValues relation supply [] relation.scan =
      .ok (relation.scan.map fun row => ([], row)) := withValues_eq fun _ _ => rfl
  -- Sorting is stable, and any two rows are in order.
  have kept : (relation.scan.map fun row => (([] : List Cell), row)).mergeSort
      (fun a b => Selection.inOrder [] a.1 b.1) = relation.scan.map fun row => ([], row) :=
    List.mergeSort_of_pairwise (List.pairwise_of_forall fun _ _ => rfl)
  have order : (relation.whole table).order = [] := rfl
  simp only [Selection.sorted, order, List.map_nil, valued, bind, Except.bind, kept]
  simp [Pure.pure, Except.pure, Function.comp_def]

/-- The selection of all columns reports the name of a column as it was declared. -/
theorem names_whole (distinct : AreDistinct relation.columns) (table : String) :
    (relation.whole table).columns.map (Selection.columnName relation) =
      relation.columns.map Column.name := by
  -- Each name is found at its own place, since no two columns share one.
  simp only [whole, List.map_map]
  apply List.map_congr_left
  intro column member
  obtain ⟨index, here⟩ := List.getElem?_of_mem member
  simp [Selection.columnName, Scope.source?, Scope.owns, source?_column distinct here,
    Source.name]

/-- The selection of all columns gives the rows in order, each cell under the name of its column. -/
theorem run_whole (distinct : AreDistinct relation.columns)
    (wide : ∀ row ∈ relation.rows, row.cells.length = relation.columns.length) (table : String)
    (supply : Supply) :
    (relation.whole table).run relation supply [] =
      .ok (relation.scan.map fun row => (relation.columns.map Column.name).zip row.cells) := by
  -- Each row gives its own cells, since a row is as wide as the relation.
  have valued : Selection.withValues relation supply relation.mentions relation.scan =
      .ok (relation.scan.map fun row => (row.cells, row)) :=
    withValues_eq fun row member =>
      all_mentions distinct supply (wide row (List.mem_mergeSort.mp member))
  -- Nothing is put aside, and there is no limit.
  have stages : (relation.whole table).run relation supply [] = (do
      let rows ← (relation.whole table).filtered relation supply none
      let rows ← (relation.whole table).sorted relation supply rows
      let valued ← Selection.withValues relation supply
        ((relation.whole table).columns.map Prod.fst) rows
      return valued.map fun (entry : List Cell × Row) =>
        ((relation.whole table).columns.map (Selection.columnName relation)).zip entry.1) := rfl
  -- With no condition and no order, the three stages hand on the rows as they were scanned.
  simp only [stages, filtered_whole, sorted_whole, valued, columns_whole, names_whole distinct, bind,
    Except.bind, Pure.pure, Except.pure, List.map_map, Function.comp_def]

/-- Nothing in the selection of all columns is left to an engine. -/
theorem isOpen_whole (table : String) : (relation.whole table).isOpen = false := by
  -- Its formulas are names, which have no parts.
  simp [Selection.isOpen, Selection.formulas, whole, Formula.subformulas, Formula.within,
    Formula.isOpen]

end Relation

/-- The question for every column of a table. -/
def Question.whole (table : String) (columns : List String) : Question :=
  { columns, table, tail := .plain [] none }

/-- The question for every column is spelled with the names themselves, which have no line feed. -/
theorem Question.tokens_whole {table : String} {columns : List String}
    (named : bareName table = table) (bare : ∀ name ∈ columns, bareName name = name) :
    (Question.whole table columns).tokens =
      (.ofWord "SELECT" :: Parse.nameTokens columns ++ [.ofWord "FROM", .ofWord table], []) := by
  -- A bare name is spelled as it is.
  have names : (columns.map fun name => [Token.ofWord (bareName name)]) =
      columns.map fun name => [Token.ofWord name] :=
    List.map_congr_left fun name member => by rw [bare name member]
  simp only [Question.tokens, Question.whole, names, named, Parse.nameTokens]
  rfl

/-- Every column of a table can be asked for, and the answer is all its rows, without an engine. -/
theorem prepareSelect_whole (engine : Engine) {store : Store} {relation : Relation} {table : String}
    (named : bareName table = table) (free : isKeyword table = false)
    (found : store.readable? table = some relation)
    (plain : ∀ column ∈ relation.columns, IsPlainName column.name) (filled : relation.columns ≠ [])
    (few : relation.columns.length ≤ columnLimit) (distinct : AreDistinct relation.columns)
    (wide : ∀ row ∈ relation.rows, row.cells.length = relation.columns.length) :
    ∃ statement, store.prepareSelect engine (.whole table (relation.columns.map Column.name)) [] =
        .ok statement ∧ statement.bindings = [] ∧
      statement.step [] = some (.ok (store,
        relation.scan.map fun row => (relation.columns.map Column.name).zip row.cells)) := by
  have bare : ∀ name ∈ relation.columns.map Column.name, bareName name = name := by
    intro name member
    obtain ⟨column, among, rfl⟩ := List.mem_map.mp member
    exact bareName_of_isWord (plain column among).word
  -- What is spelled is read as the selection of all columns.
  have read : Selection.ofTokens (.ofWord "SELECT" ::
      Parse.nameTokens (relation.columns.map Column.name) ++ [.ofWord "FROM", .ofWord table]) =
      .ok (relation.whole table) := by
    rw [Selection.ofTokens_names (by simpa using filled) (by simpa using plain) free]
    simp [Relation.whole]
  refine ⟨{
      bindings := numbered (relation.whole table).placeholders []
      step := fun cells => some do
        let rows ← (relation.whole table).run relation ⟨cells, store.tally⟩ []
        return (store, rows) }, ?_, rfl, ?_⟩
  -- It is accepted: its names are in order, and it goes into steps without a fault.
  · have asked : (relation.whole table).table = table := rfl
    have spelled : (Question.whole table (relation.columns.map Column.name)).selection? =
        .ok (some (relation.whole table)) := by
      apply Question.selection?_eq_some.mpr
      simp only [Question.tokens_whole named bare, read, Relation.isOpen_whole, and_self]
    simp only [prepareSelect, spelled, Question.tokens_whole named bare, Selection.prepare, bind,
      Except.bind, asked, found, Relation.nameFault?_whole distinct few, Relation.answered_whole,
      Relation.coded_whole]
    rfl
  -- Run with no values, it gives the rows and leaves the store as it is.
  · simp only [Relation.run_whole distinct wide]
    rfl

end PageServer.Store
