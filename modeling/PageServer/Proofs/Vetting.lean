import Mathlib.Data.List.Basic
import Mathlib.Data.List.Find
import PageServer.Proofs.Basic
import PageServer.Proofs.Statement

/-!
Names that reach the text of statements.

A statement is written exactly when each of its names is a word, but for a line feed that may follow it,
and it is refused for the first name that is not. Where no name ends in a line feed, insertions and
creations are written with letters, digits, underscores and a few marks only.
-/

namespace PageServer.Sql

/-! Words and what may follow them -/

/-- Whether a text ends in a line feed. -/
def IsBroken (text : String) : Prop := text.toList.getLast? = some '\n'

instance (text : String) : Decidable (IsBroken text) :=
  inferInstanceAs (Decidable (_ = _))

/-- A text without the line feed that it may end in. -/
def stem (text : String) : String :=
  if IsBroken text then String.ofList text.toList.dropLast else text

/-- The characters of a name without the line feed that may end it. -/
theorem toList_stem (text : String) : (stem text).toList =
    if text.toList.getLast? = some '\n' then text.toList.dropLast else text.toList := by
  by_cases broken : IsBroken text
  · have feed : text.toList.getLast? = some '\n' := broken
    rw [stem, if_pos broken, if_pos feed, String.toList_ofList]
  · have other : text.toList.getLast? ≠ some '\n' := broken
    rw [stem, if_neg broken, if_neg other]

/-- The rest of a name has name characters up to a line feed at its end. -/
theorem isNameRest_eq (rest : List Char) :
    isNameRest rest =
      (if rest.getLast? = some '\n' then rest.dropLast else rest).all isNameChar := by
  -- The check walks down the characters and looks for the end before each of them.
  induction rest with
  | nil => rfl
  | cons c rest ih =>
    cases rest with
    | nil =>
      by_cases feed : c = '\n'
      · subst feed
        rfl
      · simp [isNameRest, feed]
    -- The last of the characters is further on, so the first is an ordinary one.
    | cons d rest =>
      rw [isNameRest, ih, List.getLast?_cons_cons]
      · split <;> simp
      · simp

/-- A name is a word that a line feed may follow. -/
theorem isName_eq (name : String) : isName name = isWord (stem name) := by
  -- Words and names differ in what may stand at the end only.
  unfold isName isWord
  rw [toList_stem]
  generalize name.toList = chars
  cases chars with
  | nil => rfl
  | cons c rest =>
    cases rest with
    | nil =>
      -- A line feed does not start a name.
      by_cases feed : c = '\n'
      · subst feed
        rfl
      · simp [feed, isNameRest]
    | cons d rest =>
      simp only [isNameRest_eq, List.getLast?_cons_cons]
      split <;> simp

/-- Where no line feed follows, a name is a word. -/
theorem stem_of_not_isBroken {name : String} (unbroken : ¬ IsBroken name) : stem name = name :=
  if_neg unbroken

/-! Vetting -/

/--
A result that depends on names, as far as they pass a test.

There is a value exactly if all names pass, and the fault is about the first that does not.
-/
structure Vets {α : Type} (passes : String → Bool) (names : List String) (result : Except Fault α) :
    Prop where
  accepts : (∃ value, result = .ok value) ↔ ∀ name ∈ names, passes name = true
  refuses : ∀ name, (names.find? fun name => !passes name) = some name →
    result = .error (.unsafeName (.text name))

namespace Vets

variable {α β : Type} {passes : String → Bool}

/-- It is enough that there is a value if all names pass, and the right fault if not. -/
theorem intro {names : List String} {result : Except Fault α}
    (accepts : (names.find? fun name => !passes name) = none → ∃ value, result = .ok value)
    (refuses : ∀ name, (names.find? fun name => !passes name) = some name →
      result = .error (.unsafeName (.text name))) : Vets passes names result := by
  refine ⟨⟨?_, ?_⟩, refuses⟩
  · rintro ⟨value, found⟩ name member
    by_contra fails
    -- Some name is the first that does not pass, and then there is no value.
    have located : (names.find? fun name => !passes name).isSome := by
      rw [List.find?_isSome]
      exact ⟨name, member, by simpa using fails⟩
    obtain ⟨first, located⟩ := Option.isSome_iff_exists.mp located
    rw [refuses first located] at found
    cases found
  · intro all
    apply accepts
    -- No name fails, so the search for one is in vain.
    rw [List.find?_eq_none]
    intro name member
    simp [all name member]

/-- A value that depends on no name. -/
theorem pure (value : α) : Vets passes [] (Except.ok value) :=
  .intro (fun _ => ⟨value, rfl⟩) fun _ located => by cases located

/-- The names of a first result come before those of a second. -/
theorem bind {first : Except Fault α} {next : α → Except Fault β} {names others : List String}
    (here : Vets passes names first) (there : ∀ value, Vets passes others (next value)) :
    Vets passes (names ++ others) (first >>= next) := by
  cases located : names.find? fun name => !passes name with
  | none =>
    -- The names of the first result all pass, so the second decides.
    have all : ∀ name ∈ names, passes name = true := by
      simpa [List.find?_eq_none] using located
    obtain ⟨value, rfl⟩ := here.accepts.mpr all
    refine ⟨?_, ?_⟩
    · change (∃ result, next value = .ok result) ↔ _
      rw [(there value).accepts]
      constructor
      · intro later name member
        rcases List.mem_append.mp member with member | member
        · exact all name member
        · exact later name member
      · exact fun every name member => every name (List.mem_append_right names member)
    · intro name found
      rw [List.find?_append, located, Option.none_or] at found
      exact (there value).refuses name found
  | some name =>
    -- The first result is refused already, and the second is not reached.
    have refused := here.refuses name located
    apply intro
    · intro none
      simp [located] at none
    · intro other found
      rw [List.find?_append, located, Option.some_or] at found
      cases found
      rw [refused]
      rfl

/-- What is made of a value depends on the same names. -/
theorem map {result : Except Fault α} {names : List String} (vets : Vets passes names result)
    (build : α → β) : Vets passes names (result >>= fun value => .ok (build value)) := by
  -- To build something from the value changes no fault.
  simpa using vets.bind fun value => pure (build value)

/-- Tests that agree on the names can stand for one another. -/
theorem congr {other : String → Bool} {names : List String} {result : Except Fault α}
    (vets : Vets passes names result) (same : ∀ name ∈ names, passes name = other name) :
    Vets other names result := by
  -- The first name that fails one test is the first that fails the other.
  have located : (names.find? fun name => !other name) = names.find? fun name => !passes name :=
    List.find?_congr fun name member => by rw [same name member]
  refine ⟨?_, fun name found => vets.refuses name (located ▸ found)⟩
  rw [vets.accepts]
  exact forall₂_congr fun name member => by rw [same name member]

end Vets

/-! Generators of statements -/

/-- Checking a name vets it. -/
theorem checkName_vets (name : String) : Vets isName [name] (checkName name) := by
  unfold checkName
  -- There is one name only, so it is the first that does not pass, if any.
  split
  · rename_i passes
    refine .intro (fun _ => ⟨name, rfl⟩) ?_
    simp [passes]
  -- A single name that fails is the first that fails.
  · rename_i fails
    refine .intro ?_ ?_
    · simp [fails]
    · intro first found
      simp [fails] at found
      rw [found]

/-- Checking names vets them in order. -/
theorem checkNames_vets (names : List String) : Vets isName names (checkNames names) := by
  -- Each name is checked before those that follow it.
  induction names with
  | nil => exact .pure []
  | cons name rest ih =>
    exact (checkName_vets name).bind fun first => ih.map (first :: ·)

/-- Writing sort terms vets their columns. -/
theorem orderTerms_vets (order : Fields Datum) : Vets isName order.keys (orderTerms order) := by
  -- Each column is vetted before its term is written, and the terms in order.
  induction order with
  | nil => exact .pure []
  | cons term rest ih =>
    exact (checkName_vets term.1).bind fun name => ih.map (_ :: ·)

/-- Writing columns that can be stored vets their names. -/
theorem columnDefinitions_vets (table : String) {columns : Fields Ty}
    (storable : ∀ column ∈ columns, column.2.storable? ≠ none) :
    Vets isName columns.keys (columnDefinitions table columns) := by
  -- A column that can be stored is refused for its name only.
  induction columns with
  | nil => exact .pure []
  | cons column rest ih =>
    obtain ⟨here, later⟩ := List.forall_mem_cons.mp storable
    obtain ⟨stored, kind⟩ := Option.ne_none_iff_exists'.mp here
    unfold columnDefinitions
    rw [kind]
    exact (checkName_vets column.1).bind fun name => (ih later).map (_ :: ·)

/-- The names that a query writes, in the order in which they are checked. -/
def selected (query : Query) : List String :=
  query.columns.keys ++ query.table :: query.order.keys

/-- Writing a query without a limit vets its names. -/
theorem select_vets {query : Query} (unlimited : query.limit = .null) :
    Vets isName (selected query) (select query) := by
  -- Without a limit, what follows the table depends on the names to sort by only.
  have rest : Vets isName query.order.keys (tail query) := by
    unfold tail limitOf
    rw [unlimited]
    exact (orderTerms_vets query.order).map _
  -- The names are checked in the order in which they are selected.
  apply (checkNames_vets query.columns.keys).bind
  intro columns
  apply (checkName_vets query.table).bind
  intro table
  exact rest.map _

/-- Writing an insertion vets its columns, and then its table. -/
theorem insert_vets (table : String) (columns : List String) :
    Vets isName (columns ++ [table]) (insert table columns) := by
  apply (checkNames_vets columns).bind
  intro names
  -- The table is checked the same way, whether or not there are columns.
  split
  · exact (checkName_vets table).map _
  · exact (checkName_vets table).map _

/-- Writing a creation vets its columns, and then its table. -/
theorem create_vets {table : Table}
    (storable : ∀ column ∈ table.columns, column.2.storable? ≠ none) :
    Vets isName (table.columns.keys ++ [table.name]) (create table) := by
  -- The first words of a creation are the same for all tables.
  have inside : Vets isName (table.columns.keys ++ [table.name]) (declaration table) := by
    apply (columnDefinitions_vets table.name storable).bind
    intro columns
    exact (checkName_vets table.name).map _
  exact inside.map _

/-! What statements are written with -/

/-- Letters, digits and underscores, and the marks that stand between names. -/
def isPlain (c : Char) : Bool := isNameChar c || [' ', ',', ':', '(', ')'].contains c

/-- Names that pass are given as they are. -/
theorem checkName_ok {name found : String} (checked : checkName name = .ok found) :
    found = name := by
  -- The check gives the name that it was given.
  unfold checkName at checked
  split at checked
  · cases checked
    rfl
  · cases checked

/-- Names that pass are given as they are, one by one. -/
theorem checkNames_ok {names found : List String} (checked : checkNames names = .ok found) :
    found = names := by
  -- The induction is on the names, each of which is passed on as it is.
  induction names generalizing found with
  | nil =>
    cases checked
    rfl
  | cons name rest ih =>
    simp only [checkNames, bind_eq_ok] at checked
    obtain ⟨first, passed, others, further, built⟩ := checked
    cases built
    rw [checkName_ok passed, ih further]

/-- The definitions of columns are their names and types, which are written plainly. -/
theorem columnDefinitions_written {allowed : Char → Bool}
    (plain : ∀ c, isPlain c = true → allowed c = true) {table : String} {columns : Fields Ty}
    (names : ∀ name ∈ columns.keys, IsWritten allowed name) {definitions : List String}
    (written : columnDefinitions table columns = .ok definitions) :
    ∀ definition ∈ definitions, IsWritten allowed definition := by
  -- Each definition is a name, a blank and a type.
  induction columns generalizing definitions with
  | nil =>
    cases written
    simp
  | cons column rest ih =>
    obtain ⟨here, later⟩ := List.forall_mem_cons.mp names
    unfold columnDefinitions at written
    split at written
    · cases written
    -- A column that can be stored is written with the word for its type.
    · rename_i stored _
      simp only [bind_eq_ok] at written
      obtain ⟨name, passed, others, further, built⟩ := written
      cases built
      obtain rfl := checkName_ok passed
      have kind : IsWritten allowed (columnType stored) := by
        cases stored <;> exact .mono plain (by decide)
      have blank : IsWritten allowed " " := .mono plain (by decide)
      exact List.forall_mem_cons.mpr ⟨(here.append blank).append kind, ih later further⟩

/-- A creation is written with what its names are written with, and plain characters. -/
theorem create_written {allowed : Char → Bool} (plain : ∀ c, isPlain c = true → allowed c = true)
    {table : Table} (names : ∀ name ∈ table.columns.keys ++ [table.name], IsWritten allowed name)
    {sql : String} (written : create table = .ok sql) : IsWritten allowed sql := by
  -- The text is put together from its names, the types, and what stands between them.
  simp only [create, declaration, bind_eq_ok] at written
  -- The parts of the text, as they follow each other.
  obtain ⟨_, ⟨definitions, defined, name, passed, built⟩, whole⟩ := written
  cases built
  cases whole
  obtain rfl := checkName_ok passed
  have start : IsWritten allowed "CREATE TABLE IF NOT EXISTS " := .mono plain (by decide)
  have opening : IsWritten allowed " (" := .mono plain (by decide)
  have comma : IsWritten allowed ", " := .mono plain (by decide)
  have closing : IsWritten allowed ")" := .mono plain (by decide)
  have columns := comma.intercalate (columnDefinitions_written plain
    (fun name member => names name (List.mem_append_left _ member)) defined)
  exact start.append ((((names _ (by simp)).append opening).append columns).append closing)

/-- An insertion is written with what its names are written with, and plain characters. -/
theorem insert_written {allowed : Char → Bool} (plain : ∀ c, isPlain c = true → allowed c = true)
    {table : String} {columns : List String}
    (names : ∀ name ∈ columns ++ [table], IsWritten allowed name) {sql : String}
    (written : insert table columns = .ok sql) : IsWritten allowed sql := by
  simp only [insert, bind_eq_ok] at written
  obtain ⟨found, checked, target, passed, built⟩ := written
  -- Names are written as they are given.
  obtain rfl := checkNames_ok checked
  obtain rfl := checkName_ok passed
  obtain ⟨columns, named⟩ : (∀ name ∈ found, IsWritten allowed name) ∧ IsWritten allowed target := by
    simpa [or_imp, forall_and] using names
  -- The parts of the text are its words, and the names.
  have start : IsWritten allowed "INSERT INTO " := .mono plain (by decide)
  -- Without columns there is nothing to bind.
  split at built
  · cases built
    have defaults : IsWritten allowed " DEFAULT VALUES" := .mono plain (by decide)
    exact (start.append named).append defaults
  · cases built
    have opening : IsWritten allowed "(" := .mono plain (by decide)
    have comma : IsWritten allowed "," := .mono plain (by decide)
    have values : IsWritten allowed ") VALUES (" := .mono plain (by decide)
    have colon : IsWritten allowed ":" := .mono plain (by decide)
    have closing : IsWritten allowed ")" := .mono plain (by decide)
    have places : ∀ place ∈ found.map (":" ++ ·), IsWritten allowed place := by
      intro place member
      obtain ⟨name, among, rfl⟩ := List.mem_map.mp member
      exact colon.append (columns name among)
    exact (((((start.append named).append opening).append (comma.intercalate columns)).append
      values).append (comma.intercalate places)).append closing

/-! Words only, but for line feeds -/

/-- Names pass if they are words, a line feed at the end apart; where there is none, if they are words. -/
structure Guards {α : Type} (names : List String) (result : Except Fault α) : Prop where
  loosely : Vets (fun name => isWord (stem name)) names result
  strictly : (∀ name ∈ names, ¬ IsBroken name) → Vets isWord names result

/-- A text is written plainly, line feeds apart; where no name ends in one, there are none. -/
structure Writes (names : List String) (result : Except Fault String) : Prop where
  loosely : ∀ sql, result = .ok sql → IsWritten (fun c => isPlain c || c == '\n') sql
  strictly : (∀ name ∈ names, ¬ IsBroken name) → ∀ sql, result = .ok sql → IsWritten isPlain sql

/-- The test that names are put to is the one for words, but for a line feed at the end. -/
theorem Vets.guards {α : Type} {names : List String} {result : Except Fault α}
    (vets : Vets isName names result) : Guards names result := by
  have loosely := vets.congr fun name _ => isName_eq name
  -- Where no name ends in a line feed, there is none to leave out.
  refine ⟨loosely, fun unbroken => loosely.congr fun name member => ?_⟩
  rw [stem_of_not_isBroken (unbroken name member)]

/-- A word is written plainly. -/
theorem isWritten_of_isWord {name : String} (word : isWord name = true) : IsWritten isPlain name := by
  -- Each character of a word is a letter, a digit or an underscore.
  intro c member
  simp [isPlain, isNameChar_of_isWord word member]

/-- A name is written plainly, but for a line feed at its end. -/
theorem isWritten_of_isName {name : String} (named : isName name = true) :
    IsWritten (fun c => isPlain c || c == '\n') name := by
  rw [isName_eq] at named
  have written := isWritten_of_isWord named
  intro c member
  by_cases broken : IsBroken name
  · -- The characters before the last one are those of the word.
    have feed : name.toList.getLast? = some '\n' := broken
    rw [IsWritten, toList_stem, if_pos feed] at written
    rw [← List.dropLast_append_getLast? '\n' feed] at member
    rcases List.mem_append.mp member with before | last
    · simp [written c before]
    · simp [List.mem_singleton.mp last]
  · rw [stem_of_not_isBroken broken] at written
    simp [written c member]

/-- A text that is written with what its names are written with is written as they are. -/
theorem Vets.writes {names : List String} {result : Except Fault String}
    (vets : Vets isName names result)
    (written : ∀ {allowed : Char → Bool}, (∀ c, isPlain c = true → allowed c = true) →
      (∀ name ∈ names, IsWritten allowed name) →
      ∀ {sql}, result = .ok sql → IsWritten allowed sql) : Writes names result := by
  constructor
  · intro sql built
    -- There is a text, so all names have passed.
    have named := vets.accepts.mp ⟨sql, built⟩
    refine written (fun c plain => by simp [plain]) (fun name member => ?_) built
    exact isWritten_of_isName (named name member)
  -- Without line feeds the names that pass are words.
  · intro unbroken sql built
    have words := (vets.guards.strictly unbroken).accepts.mp ⟨sql, built⟩
    exact written (fun _ plain => plain)
      (fun name member => isWritten_of_isWord (words name member)) built

/--
Only words reach the text of statements, but for line feeds.

Selections without a limit, insertions, and creations of columns that can be stored are written exactly
if their names pass, and are refused for the first that does not, as something that the checker should
have ruled out. Insertions and creations are written with plain characters.
-/
theorem names_guarded (query : Query) (target : String) (columns : List String) (table : Table) :
    (query.limit = .null → Guards (selected query) (select query)) ∧
    (Guards (columns ++ [target]) (insert target columns) ∧
      Writes (columns ++ [target]) (insert target columns)) ∧
    ((∀ column ∈ table.columns, column.2.storable? ≠ none) →
      Guards (table.columns.keys ++ [table.name]) (create table) ∧
      Writes (table.columns.keys ++ [table.name]) (create table)) ∧
    ∀ name, ∃ message, (Fault.unsafeName (.text name)).diagnostic? =
      some (Fault.violation "E405" message [("name", .text name)]) := by
  -- A vetted statement guards its names, and those without conditions are written plainly.
  refine ⟨?_, ?_, ?_, fun name => ⟨_, rfl⟩⟩
  · exact fun unlimited => (select_vets unlimited).guards
  · have vets := insert_vets target columns
    exact ⟨vets.guards, vets.writes fun plain names _ => insert_written plain names⟩
  · intro storable
    have vets := create_vets storable
    exact ⟨vets.guards, vets.writes fun plain names _ => create_written plain names⟩

/-- A name that a line feed follows is no word, and yet reaches the text of an insertion. -/
theorem names_guarded_linefeed :
    insert "user\n" ["name"] = .ok "INSERT INTO user\n(name) VALUES (:name)" ∧
      ¬ Vets isWord (["name"] ++ ["user\n"]) (insert "user\n" ["name"]) := by
  have written : insert "user\n" ["name"] = .ok "INSERT INTO user\n(name) VALUES (:name)" := rfl
  refine ⟨written, fun vets => ?_⟩
  -- If names had to be words, there would be no text.
  have words := vets.accepts.mp ⟨_, written⟩
  exact absurd (words "user\n" (by simp)) (by decide)

end PageServer.Sql
