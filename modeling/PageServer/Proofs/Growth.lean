import PageServer.Proofs.Requests
import PageServer.Proofs.Storage

/-!
A request adds rows and does nothing else to the store.

Main statement: whichever way a request ends, tables are neither made nor altered, the rows of each
table before it are a prefix of its rows after it, and only tables that the body inserts into have
more of them.
-/

namespace PageServer

namespace Store

/-- A table with perhaps more rows, which stand after those it had. -/
structure Relation.Grows (before after : Relation) : Prop where
  name : after.name = before.name
  columns : after.columns = before.columns
  declaration : after.declaration = before.declaration
  page : after.page = before.page
  rows : before.rows <+: after.rows

/-- A table grows into itself. -/
theorem Relation.Grows.refl (relation : Relation) : relation.Grows relation :=
  ⟨rfl, rfl, rfl, rfl, List.prefix_refl _⟩

/-- Growth after growth is growth. -/
theorem Relation.Grows.trans {first second third : Relation} (earlier : first.Grows second)
    (later : second.Grows third) : first.Grows third where
  name := later.name.trans earlier.name
  columns := later.columns.trans earlier.columns
  declaration := later.declaration.trans earlier.declaration
  page := later.page.trans earlier.page
  rows := earlier.rows.trans later.rows

/-- Adding a row at the end makes a table grow. -/
theorem Relation.grows_append (relation : Relation) (row : Row) :
    relation.Grows { relation with rows := relation.rows ++ [row] } :=
  ⟨rfl, rfl, rfl, rfl, List.prefix_append _ _⟩

/-- Whether a table goes by one of the names, as the store tells them apart. -/
def Relation.IsAmong (relation : Relation) (names : List String) : Prop :=
  ∃ name ∈ names, sameName relation.name name

/-- A table with perhaps more rows, and with none if it goes by none of the names. -/
structure Relation.GrowsAmong (names : List String) (before after : Relation) : Prop where
  grows : before.Grows after
  same : ¬ before.IsAmong names → after = before

/-- A table that goes by none of the names is the same after both stretches. -/
theorem Relation.GrowsAmong.trans {names : List String} {first second third : Relation}
    (earlier : first.GrowsAmong names second) (later : second.GrowsAmong names third) :
    first.GrowsAmong names third where
  grows := earlier.grows.trans later.grows
  -- The stretches are taken one after the other, and neither changes the table.
  same other := by
    obtain rfl := earlier.same other
    exact later.same other

/-- A store with the same tables in the same order, where those of the names may have grown. -/
def GrowsAmong (names : List String) (before after : Store) : Prop :=
  List.Forall₂ (Relation.GrowsAmong names) before.relations after.relations

namespace GrowsAmong

variable {names : List String}

/-- A store grows into itself. -/
theorem refl (store : Store) : store.GrowsAmong names store :=
  List.forall₂_same.mpr fun relation _ => ⟨.refl relation, fun _ => rfl⟩

/-- Growth after growth is growth. -/
theorem trans {first second third : Store} (earlier : first.GrowsAmong names second)
    (later : second.GrowsAmong names third) : first.GrowsAmong names third := by
  -- Both walks go through the same tables side by side.
  unfold GrowsAmong at *
  generalize first.relations = before at *
  generalize second.relations = middle at *
  generalize third.relations = after at *
  induction earlier generalizing after with
  | nil => exact later
  | cons here _ ih =>
    cases later with
    | cons there others => exact .cons (here.trans there) (ih _ others)

/-- Each table of a store that has grown was there before. -/
theorem exists_before {before after : Store} (grown : before.GrowsAmong names after)
    {relation : Relation} (member : relation ∈ after.relations) :
    ∃ old ∈ before.relations, old.GrowsAmong names relation := by
  -- The tables stand in the same places in both stores.
  unfold GrowsAmong at grown
  generalize before.relations = earlier at grown ⊢
  generalize after.relations = later at grown member
  induction grown with
  | nil => cases member
  | cons here _ ih =>
    rcases List.mem_cons.mp member with rfl | later
    · exact ⟨_, by simp, here⟩
    · obtain ⟨old, was, grows⟩ := ih later
      -- Tables further on have their places further on in both stores.
      exact ⟨old, by simp [was], grows⟩

/-- Adding a row under one of the names makes the store grow. -/
theorem append (store : Store) {name : String} (named : name ∈ names) (row : Row) :
    store.GrowsAmong names (store.append name row) := by
  -- Tables of other names are passed over, and the one that is hit grows.
  unfold GrowsAmong Store.append
  rw [List.forall₂_map_right_iff]
  apply List.forall₂_same.mpr
  intro relation _
  by_cases hit : sameName relation.name name
  · simp only [hit, if_true]
    exact ⟨relation.grows_append row, fun other => absurd ⟨name, named, hit⟩ other⟩
  · simp only [hit]
    exact ⟨.refl relation, fun _ => rfl⟩

end GrowsAmong

/-- A question leaves the store as it is. -/
theorem prepareSelect_step {store after : Store} {engine : Engine} {question : Question}
    {parameters cells : List Cell} {statement : Prepared (List (Fields Cell))}
    {rows : List (Fields Cell)}
    (prepared : store.prepareSelect engine question parameters = .ok statement)
    (stepped : statement.step cells = some (.ok (after, rows))) : after = store := by
  -- Both a selection and an engine give back the store that the question was prepared for.
  rcases prepareSelect_cases prepared with ⟨selection, _, ready⟩ | ⟨_, ready⟩
  · obtain ⟨relation, aside, _, step⟩ := Selection.prepare_cases ready
    simp only [step, Option.some.injEq, bind_eq_ok] at stepped
    obtain ⟨found, _, built⟩ := stepped
    cases built
    rfl
  · obtain ⟨foreign, relation, _, _, step⟩ := Engine.prepare_cases ready
    rw [step, Option.map_eq_some_iff] at stepped
    obtain ⟨answered, _, built⟩ := stepped
    obtain ⟨found, _, built⟩ := map_eq_ok.mp built
    cases built
    rfl

/-- An insertion adds one row to the table it names, a final line feed aside. -/
theorem prepareInsert_step {store after : Store} {table : String} {columns : List String}
    {supplied : List (String × Cell)} {cells : List Cell} {statement : Prepared Unit}
    (prepared : store.prepareInsert table columns supplied = .ok statement)
    (stepped : statement.step cells = some (.ok (after, ()))) :
    ∃ row, after = store.append (bareName table) row := by
  -- The name is read before all else; a table that is found takes the row.
  unfold prepareInsert at prepared
  simp only [bind_eq_ok] at prepared
  obtain ⟨name, read, names, _, prepared⟩ := prepared
  obtain ⟨_, rfl⟩ := readName_eq_ok.mp read
  -- Without a table of the name, the insertion is refused before its step.
  split at prepared
  · split at prepared <;> cases prepared
  · rename_i relation _
    simp only [bind_eq_ok] at prepared
    obtain ⟨_, _, prepared⟩ := prepared
    cases prepared
    simp only [Option.some.injEq, bind_eq_ok] at stepped
    obtain ⟨number, _, built⟩ := stepped
    cases built
    exact ⟨_, rfl⟩

end Store

/-- An insertion leaves the store as it is, or adds one row under the name it is given. -/
theorem Storage.insert_store (table : String) (fields : Fields Value) (machine : Machine) :
    (insert table fields machine).2.store = machine.store ∨
      ∃ row, (insert table fields machine).2.store =
        machine.store.append (Store.bareName table) row := by
  rcases insert_cases table fields with ⟨fault, same⟩ | ⟨sql, supplied, _, same⟩
  · exact Or.inl (by rw [same]; rfl)
  · rw [same, insertion_machine]
    -- Only a statement that runs to its end has added a row.
    rcases Store.Connection.store_run machine.connection sql _ with
      kept | ⟨statement, cells, answer, prepared, stepped⟩
    · exact Or.inl kept
    · exact Or.inr (Store.prepareInsert_step prepared stepped)

namespace Endpoint

variable {endpoint : Endpoint}

/-- One step leaves the store as it is, or adds one row to a table that the body inserts into. -/
theorem Step.store_cases {before after : Machine} (step : endpoint.Step before after) :
    after.store = before.store ∨
      ∃ target ∈ endpoint.body.targets, ∃ row,
        after.store = before.store.append (Store.bareName target) row := by
  -- Notes, numbers and the clock are not in the store.
  cases step with
  | renumber | freshIdentity => exact Or.inl rfl
  | tick _ => exact Or.inl rfl
  | note _ => exact Or.inl rfl
  | @select query arguments asked =>
    rcases Storage.select_cases query arguments with ⟨fault, same⟩ | ⟨sql, tail, given, _, _, same⟩
    · exact Or.inl (by rw [same]; rfl)
    · rw [same, Storage.selection_machine]
      -- A selection that runs hands the store on.
      rcases Store.Connection.store_run before.connection sql _ with
        kept | ⟨statement, cells, answer, prepared, stepped⟩
      · exact Or.inl kept
      · exact Or.inl (Store.prepareSelect_step prepared stepped)
  | @insert table fields named _ =>
    rcases Storage.insert_store table fields before with kept | ⟨row, appended⟩
    · exact Or.inl kept
    · exact Or.inr ⟨table, named, row, appended⟩

/-- The names under which a body inserts rows: a line feed after a name does not count. -/
def written (endpoint : Endpoint) : List String := endpoint.body.targets.map Store.bareName

/-- What each step lets grow, a whole stretch of steps lets grow. -/
theorem Reaches.grows {before after : Machine} (reached : endpoint.Reaches before after) :
    before.store.GrowsAmong endpoint.written after.store := by
  -- The induction is on the steps; each adds to what has grown before.
  induction reached with
  | refl => exact .refl _
  | tail _ step ih =>
    rcases step.store_cases with same | ⟨target, named, row, appended⟩
    · rw [same]
      exact ih
    · rw [appended]
      exact ih.trans (.append _ (List.mem_map_of_mem named) row)

/-- Without an insertion in the body, no step changes the store. -/
theorem Reaches.store_same {before after : Machine} (reached : endpoint.Reaches before after)
    (none : endpoint.body.targets = []) : after.store = before.store := by
  -- The one step that could add a row has no table to add it to.
  induction reached with
  | refl => rfl
  | tail _ step ih =>
    rcases step.store_cases with same | ⟨target, named, _⟩
    · exact same.trans ih
    · simp [none] at named

/--
However a request ends, the store has grown by rows in the tables that the body inserts into.

They are the tables of the names in the body, if no line feed follows any of these; a name with a
line feed after it is that of the table without. Where the body inserts nothing, nothing changes.
-/
theorem run_grows (endpoint : Endpoint) (depth : Nat) (tables : List Table)
    (pathVars form : Fields String) (machine : Machine) :
    machine.store.GrowsAmong endpoint.written
        (endpoint.run depth tables pathVars form machine).2.store ∧
      ((∀ target ∈ endpoint.body.targets, Store.bareName target = target) →
        machine.store.GrowsAmong endpoint.body.targets
          (endpoint.run depth tables pathVars form machine).2.store) ∧
      (endpoint.body.targets = [] →
        (endpoint.run depth tables pathVars form machine).2.store = machine.store) := by
  -- All parts are about what a run reaches, whatever its end.
  have reached := (endpoint.run_reaches depth tables pathVars form machine).1
  refine ⟨reached.grows, fun plain => ?_, reached.store_same⟩
  -- Names without a line feed are read as they are written.
  have same : endpoint.written = endpoint.body.targets := by
    simpa [written] using List.map_congr_left plain
  rw [← same]
  exact reached.grows

/-- An insertion under a name that a line feed follows. -/
def linefeed : Endpoint where
  method := "GET"
  path := ⟨[]⟩
  body := .insert "user\n" (.record [("name", .literal (.text "ann"))]) (.literal (.text "ok"))
  type := .primitive "html"

/-- A machine with one table, which has no rows. -/
def users : Machine where
  connection := { store := { relations := [{ name := "user", columns := [⟨"name", .text⟩] }] } }
  clock := fun _ => 0

/-- A table can grow though the body has no insertion under its name. -/
theorem run_grows_linefeed :
    ¬ users.store.GrowsAmong linefeed.body.targets (linefeed.run 4 [] [] [] users).2.store := by
  intro grown
  have relations : (linefeed.run 4 [] [] [] users).2.store.relations =
      [{ name := "user", columns := [⟨"name", .text⟩], rows := [⟨1, [.text "ann"]⟩] }] := by
    decide +kernel
  unfold Store.GrowsAmong at grown
  -- The one table there is would have to be the same as before.
  rw [relations] at grown
  cases grown with
  | cons here _ =>
    -- The name in the body has one more character than that of the table.
    have other : ¬ Store.Relation.IsAmong { name := "user", columns := [⟨"name", .text⟩] }
        linefeed.body.targets := by
      rintro ⟨name, member, same⟩
      cases List.mem_singleton.mp member
      cases same
    cases here.same other

end Endpoint

end PageServer
