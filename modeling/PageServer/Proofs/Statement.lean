import PageServer.Proofs.Storage
import PageServer.Proofs.Word

/-! Statements whose names are words: their texts, and how they run. -/

namespace PageServer

namespace Sql

/-- A text in which only such characters stand as are allowed. -/
def IsWritten (allowed : Char → Bool) (text : String) : Prop :=
  ∀ c ∈ text.toList, allowed c = true

instance (allowed : Char → Bool) (text : String) : Decidable (IsWritten allowed text) :=
  List.decidableBAll (fun c => allowed c = true) text.toList

namespace IsWritten

variable {allowed : Char → Bool}

/-- What is allowed may be widened. -/
theorem mono {other : Char → Bool} (wider : ∀ c, allowed c = true → other c = true) {text : String}
    (written : IsWritten allowed text) : IsWritten other text :=
  fun c member => wider c (written c member)

/-- Of two texts in such characters, one after the other is one. -/
theorem append {first second : String} (here : IsWritten allowed first)
    (there : IsWritten allowed second) : IsWritten allowed (first ++ second) := by
  intro c member
  -- A character of the whole is one of either text.
  rw [String.toList_append, List.mem_append] at member
  rcases member with member | member
  · exact here c member
  · exact there c member

/-- Texts in such characters can be joined by one. -/
theorem intercalate {separator : String} (between : IsWritten allowed separator)
    {parts : List String} (each : ∀ part ∈ parts, IsWritten allowed part) :
    IsWritten allowed (separator.intercalate parts) := by
  unfold IsWritten
  rw [String.toList_intercalate]
  -- The separator stands between a part and the next, if there is one.
  induction parts with
  | nil => simp
  | cons first rest ih =>
    obtain ⟨here, later⟩ := List.forall_mem_cons.mp each
    cases rest with
    | nil => simpa [IsWritten] using here
    | cons second rest =>
      rw [List.map_cons, List.map_cons, List.intercalate_cons_cons]
      intro c member
      rcases List.mem_append.mp member with member | member
      · exact (List.mem_append.mp member).elim (here c) (between c)
      · exact ih later c member

end IsWritten

/-- A text without null characters, at which the store would stop reading. -/
def IsClean (text : String) : Prop := '\x00' ∉ text.toList

instance (text : String) : Decidable (IsClean text) :=
  inferInstanceAs (Decidable ('\x00' ∉ text.toList))

/-- A clean text is one in characters other than the null character. -/
theorem isClean_iff {text : String} : IsClean text ↔ IsWritten (· != '\x00') text := by
  -- Having no null character and being made of others are the same.
  simp only [IsClean, IsWritten, bne_iff_ne]
  exact ⟨fun clean c member null => clean (null ▸ member), fun each member => each _ member rfl⟩

/-- Of two clean texts, one after the other is clean. -/
theorem IsClean.append {first second : String} (here : IsClean first) (there : IsClean second) :
    IsClean (first ++ second) := by
  -- Both are about the characters of the texts.
  rw [isClean_iff] at *
  exact IsWritten.append here there

/-- Clean texts can be joined by one. -/
theorem IsClean.intercalate {separator : String} (between : IsClean separator) {parts : List String}
    (clean : ∀ part ∈ parts, IsClean part) : IsClean (separator.intercalate parts) := by
  -- The separator counts as a text like the others.
  simp only [isClean_iff] at *
  exact IsWritten.intercalate between clean

/-- A word has no null characters. -/
theorem IsClean.word {name : String} (word : isWord name = true) : IsClean name := by
  intro member
  -- The null character stands in no name.
  exact absurd (isNameChar_of_isWord word member) (by decide)

/-- A word passes as a name. -/
theorem checkName_word {name : String} (word : isWord name = true) : checkName name = .ok name := by
  simp [checkName, isName_of_isWord word]

/-- Words pass as names. -/
theorem checkNames_words {names : List String} (words : ∀ name ∈ names, isWord name = true) :
    checkNames names = .ok names := by
  -- The names are checked in turn, and each passes.
  induction names with
  | nil => rfl
  | cons first rest ih =>
    obtain ⟨here, later⟩ := List.forall_mem_cons.mp words
    simp only [checkNames, checkName_word here, ih later]
    rfl

/-- The query for every column of a table whose names are words has a clean text. -/
theorem select_ofTable {table : Table} (named : isWord table.name = true)
    (words : ∀ name ∈ table.columns.keys, isWord name = true) :
    ∃ sql, select (.ofTable table) = .ok sql ∧ IsClean sql := by
  refine ⟨"SELECT " ++ ", ".intercalate table.columns.keys ++ " FROM " ++ table.name ++ "", ?_, ?_⟩
  · simp only [select, Query.ofTable, checkNames_words words, checkName_word named]
    rfl
  -- All parts of the text are clean, and so is what joins them.
  · have start : IsClean "SELECT " := by decide
    have columns : IsClean (", ".intercalate table.columns.keys) :=
      .intercalate (by decide) fun name member => .word (words name member)
    exact (((start.append columns).append (by decide)).append (.word named)).append (by decide)

/-- An insertion whose names are words has a clean text. -/
theorem insert_words {table : String} {names : List String} (named : isWord table = true)
    (words : ∀ name ∈ names, isWord name = true) :
    ∃ sql, insert table names = .ok sql ∧ IsClean sql := by
  -- Without columns the text has no list, otherwise one of names and one of placeholders.
  have target : IsClean ("INSERT INTO " ++ table) := .append (by decide) (.word named)
  by_cases none : names = []
  · refine ⟨"INSERT INTO " ++ table ++ " DEFAULT VALUES", ?_, target.append (by decide)⟩
    subst none
    simp only [insert, checkName_word named]
    rfl
  · refine ⟨"INSERT INTO " ++ table ++ "(" ++ ",".intercalate names ++ ") VALUES (" ++
      ",".intercalate (names.map (":" ++ ·)) ++ ")", ?_, ?_⟩
    -- The checks pass, so the text is put together.
    · simp only [insert, checkNames_words words, checkName_word named, bind, Except.bind]
      simp [none, pure, Except.pure]
    -- Names and placeholders are clean, and so is what is written around them.
    · have columns : IsClean (",".intercalate names) :=
        .intercalate (by decide) fun name member => .word (words name member)
      have places : IsClean (",".intercalate (names.map (":" ++ ·))) := by
        refine .intercalate (by decide) fun place member => ?_
        obtain ⟨name, among, rfl⟩ := List.mem_map.mp member
        exact .append (by decide) (.word (words name among))
      exact ((((target.append (by decide)).append columns).append (by decide)).append
        places).append (by decide)

end Sql

namespace Store.Connection

variable {α : Type}

/-- Values that do not overflow are bound. -/
theorem bind_ok {cells : List Cell} (fit : ∀ cell ∈ cells, cell.overflows = false)
    (failed : Option Fault) : (bind failed (cells.map .ok)).1 = .ok cells := by
  -- Whatever is pending, a value that fits is bound and clears it for the next.
  induction cells generalizing failed with
  | nil => rfl
  | cons cell rest ih =>
    obtain ⟨here, later⟩ := List.forall_mem_cons.mp fit
    simp only [List.map_cons, bind, here, Bool.false_eq_true, if_false, ih later none]
    rfl

/-- A statement that is accepted, whose values can be bound and whose step succeeds, runs. -/
theorem run_ok {connection : Connection} {text : String} (clean : Sql.IsClean text)
    {prepare : Store → Except Fault (Prepared α)} {statement : Prepared α}
    (prepared : prepare connection.store = .ok statement) {cells : List Cell}
    (fit : ∀ cell ∈ cells, cell.overflows = false) (bindings : statement.bindings = cells.map .ok)
    {after : Store} {answer : α} (stepped : statement.step cells = some (.ok (after, answer))) :
    (connection.run text prepare).1 = some (.ok answer) ∧
      (connection.run text prepare).2.store = after := by
  -- The text is not cut short, so it is prepared.
  have unbroken : text.toList.contains '\x00' = false := by
    rw [List.contains_eq_mem, decide_eq_false_iff_not]
    exact clean
  simp only [run, unbroken, prepared, Bool.false_eq_true, if_false, execute, bindings]
  -- Whether the text was kept or not, all values fit, so the pending fault is not told.
  generalize pending : (keep _ text).failed = failed
  have bound := bind_ok fit failed
  generalize bind failed (cells.map .ok) = found at bound
  obtain ⟨_, left⟩ := found
  cases bound
  simp [stepped]

/-- A text that is not prepared is a fault, and leaves the store as it is. -/
theorem run_error {connection : Connection} {text : String}
    (clean : Sql.IsClean text) {prepare : Store → Except Fault (Prepared α)}
    {fault : Fault} (refused : prepare connection.store = .error fault) :
    (connection.run text prepare).1 = some (.error (.fault fault)) ∧
      (connection.run text prepare).2.store = connection.store := by
  -- The text reaches the store as a whole, which then refuses it.
  have unbroken : '\x00' ∉ text.toList := clean
  simp [run, unbroken, refused]

/-- Where all values are bound, the cells are what the placeholders were given. -/
theorem bindings_of_bind {failed : Option Fault} {bindings : List (Except Fault Cell)}
    {cells : List Cell} (bound : (bind failed bindings).1 = .ok cells) : bindings = cells.map .ok := by
  -- The first fault, or value that does not fit, would end the binding.
  induction bindings generalizing failed cells with
  | nil =>
    cases bound
    rfl
  | cons first rest ih =>
    cases first with
    | error fault => cases bound
    | ok cell =>
      simp only [bind] at bound
      split at bound
      · cases bound
      · cases others : (bind none rest).1 with
        | error fault =>
          rw [others] at bound
          cases bound
        | ok found =>
          rw [others] at bound
          cases bound
          rw [ih others, List.map_cons]

/-- A statement that has run was accepted, its values were bound, and its step has succeeded. -/
theorem run_bound {connection : Connection} {text : String}
    {prepare : Store → Except Fault (Prepared α)} {answer : α}
    (done : (connection.run text prepare).1 = some (.ok answer)) :
    ∃ statement cells, prepare connection.store = .ok statement ∧
      statement.bindings = cells.map .ok ∧
      statement.step cells = some (.ok ((connection.run text prepare).2.store, answer)) := by
  cases prepared : prepare connection.store with
  | error fault =>
    -- What is not accepted does not run.
    unfold run at done
    split at done
    · cases done
    · rw [prepared] at done
      cases done
  | ok statement =>
    -- What is accepted runs if its values are bound and its step gives an answer.
    unfold run execute at done ⊢
    split at done
    · cases done
    · rename_i unbroken
      simp only [unbroken, Bool.false_eq_true, if_false, prepared] at done ⊢
      split at done
      · cases done
      · rename_i cells _ bound
        split at done
        · rename_i stepped
          cases done
          exact ⟨statement, cells, rfl, bindings_of_bind (congrArg Prod.fst bound), stepped⟩
        · cases done
        · cases done

/-- A statement that has run was accepted, and its step has succeeded. -/
theorem run_cases {connection : Connection} {text : String}
    {prepare : Store → Except Fault (Prepared α)} {answer : α}
    (done : (connection.run text prepare).1 = some (.ok answer)) :
    ∃ statement cells, prepare connection.store = .ok statement ∧
      statement.step cells = some (.ok ((connection.run text prepare).2.store, answer)) := by
  obtain ⟨statement, cells, prepared, _, stepped⟩ := run_bound done
  exact ⟨statement, cells, prepared, stepped⟩

end Store.Connection

end PageServer
