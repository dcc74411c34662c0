import PageServer.Proofs.Basic
import PageServer.Proofs.Columns
import PageServer.Proofs.Storage

/-!
The columns of a selection, and the names they are reported under.

Whatever follows its table, a selection of words is refused or gives these words as its columns. Each
row that it has then holds one cell for each of them, under the name that the table has for it.
-/

namespace PageServer.Store

namespace Parse

variable {α β : Type} {state : Parsing} {tokens rest : List Token} {kept left : Nat}

/-! What may come of reading -/

/-- If something is read, it is as said, and so is what is left. -/
def Gives (read : Parse α) (state : Parsing) (said : α → Parsing → Prop) : Prop :=
  ∀ value after, read state = .ok (value, after) → said value after

/-- Nothing is read. -/
def Fails (read : Parse α) (state : Parsing) : Prop := Gives read state fun _ _ => False

/-- If something is read from the tokens, it is this value, and so much is left. -/
def MayRead (read : Parse α) (tokens : List Token) (kept : Nat) (value : α) (rest : List Token)
    (left : Nat) : Prop :=
  Gives read { tokens, kept } fun found after =>
    found = value ∧ after = { tokens := rest, kept := left }

namespace Gives

/-- Nothing may be said. -/
theorem any {read : Parse α} : Gives read state fun _ _ => True := fun _ _ _ => trivial

/-- What is said of the first step is what the second one starts with. -/
theorem bind {read : Parse α} {next : α → Parse β} {between : α → Parsing → Prop}
    {said : β → Parsing → Prop} (first : Gives read state between)
    (second : ∀ value after, between value after → Gives (next value) after said) :
    Gives (read >>= next) state said := by
  intro value after ended
  -- A sequence of steps is read as one exactly if each of them is.
  change (read state >>= fun reached => next reached.1 reached.2) = _ at ended
  obtain ⟨⟨found, reached⟩, here, there⟩ := bind_eq_ok.mp ended
  exact second found reached (first found reached here) value after there

/-- What holds of a value that is there can be said. -/
theorem pure {value : α} {said : α → Parsing → Prop} (holds : said value state) :
    Gives (Pure.pure value) state said := by
  -- Nothing is read, so the value and the state are the given ones.
  intro found after ended
  cases ended
  exact holds

end Gives

namespace Fails

/-- Of what is not read, anything can be said. -/
theorem gives {read : Parse α} (fails : Fails read state) {said : α → Parsing → Prop} :
    Gives read state said := fun value after ended => (fails value after ended).elim

/-- What is thrown is not read. -/
theorem throw (fault : Fault) : Fails (throw fault : Parse α) state := by
  intro value after ended
  cases ended

/-- A first step that fails leaves nothing to the second. -/
theorem bind {read : Parse α} (fails : Fails read state) (next : α → Parse β) :
    Fails (read >>= next) state :=
  Gives.bind fails fun _ _ impossible => impossible.elim

/-- A token that is refused is not read. -/
theorem refuse : Fails (Parse.refuse : Parse α) state := by
  refine Gives.bind .any fun found after _ => ?_
  -- It is refused with a fault, whether there is a token or not.
  cases found with
  | none => exact throw _
  | some token => exact throw _

end Fails

namespace Reads

variable {read : Parse α} {value : α}

/-- What is read is read, if anything is. -/
theorem mayRead (found : Reads read tokens kept value rest left) :
    MayRead read tokens kept value rest left := by
  -- Reading gives one result, so the other one is the same.
  intro other after ended
  cases found.symm.trans ended
  exact ⟨rfl, rfl⟩

/-- A second step starts with what the first has read. -/
theorem thenGives (found : Reads read tokens kept value rest left) {next : α → Parse β}
    {said : β → Parsing → Prop} (second : Gives (next value) { tokens := rest, kept := left } said) :
    Gives (read >>= next) { tokens, kept } said := by
  -- The first step has one result, and the second goes on from it.
  refine Gives.bind found.mayRead ?_
  rintro _ _ ⟨rfl, rfl⟩
  exact second

end Reads

namespace MayRead

variable {read : Parse α} {value : α}

/-- A second step starts with what the first may have read. -/
theorem thenGives (found : MayRead read tokens kept value rest left) {next : α → Parse β}
    {said : β → Parsing → Prop} (second : Gives (next value) { tokens := rest, kept := left } said) :
    Gives (read >>= next) { tokens, kept } said := by
  -- If the first step has a result, it is the one that is told of.
  refine Gives.bind found ?_
  rintro _ _ ⟨rfl, rfl⟩
  exact second

/-- What may be read may be read as one part, which adds one to what is kept. -/
theorem asOne (found : MayRead read tokens kept value rest left) :
    MayRead (asOne read) tokens kept value rest (kept + 1) :=
  Reads.get.thenGives (found.thenGives ((Reads.keeping (kept + 1)).bind (.pure value)).mayRead)

/-- What may be read may be read as joined, which leaves what is kept as it was. -/
theorem joined (found : MayRead read tokens kept value rest left) :
    MayRead (joined read) tokens kept value rest kept :=
  Reads.get.thenGives (found.thenGives ((Reads.keeping kept).bind (.pure value)).mayRead)

end MayRead

/-! Words that stand as formulas -/

/-- The formula that a word is by itself: a value, or a name. -/
def reading (name : String) : Formula := (literal? (.ofWord name)).getD (.name { name })

/-- A word is nothing, the time, or a name. -/
theorem reading_cases (name : String) :
    reading name = .literal .null ∨ (∃ word, reading name = .clock word) ∨
      literal? (.ofWord name) = none ∧ reading name = .name { name } := by
  -- Words are looked up among those for nothing and for the time, in this order.
  have kind : (Token.ofWord name).kind = .word := rfl
  unfold reading literal?
  simp only [kind]
  -- The word for nothing is a literal, and those for the time are no names.
  split
  · exact Or.inl rfl
  · split
    · exact Or.inr (Or.inl ⟨_, rfl⟩)
    · exact Or.inr (Or.inr ⟨rfl, rfl⟩)

/-- No operand starts with the end of a column. -/
theorem Ends.operand_fails {token : Token} (ends : Ends token) (fuel : Nat) :
    Fails (Parse.operand fuel) { tokens := token :: rest, kept } := by
  intro value after ended
  -- Neither a comma nor a reserved word is an operand, so either is refused.
  cases fuel with
  | zero => cases ended
  | succ fuel => cases ends <;> cases ended

/-- Nor does a formula. -/
theorem Ends.formula_fails {token : Token} (ends : Ends token) (level fuel : Nat) :
    Fails (Parse.formula level fuel) { tokens := token :: rest, kept } := by
  cases fuel with
  | zero => exact .throw _
  | succ fuel =>
    rw [Parse.formula]
    -- A formula starts with an operand.
    have first : Fails (asOne (Parse.operand fuel)) { tokens := token :: rest, kept } :=
      Reads.get.thenGives ((ends.operand_fails fuel).bind _)
    exact first.bind _

/-- Nor does what follows `CASE`. -/
theorem Ends.choice_fails {token : Token} (ends : Ends token) (fuel : Nat) :
    Fails (choice fuel) { tokens := token :: rest, kept } := by
  -- Each case needs fuel for a step; without it the reader gives up.
  cases fuel with
  | zero => exact .throw _
  | succ fuel =>
    rw [choice]
    -- Without `WHEN`, a choice starts with the formula that it tests.
    have other : (token :: rest).head?.any (·.isWord "when") = false := by cases ends <;> rfl
    have base : Fails (asOne do
        if ← atWord "when" then
          keep
          return none
        else return some (← Parse.formula 0 fuel)) { tokens := token :: rest, kept } := by
      refine Reads.get.thenGives (Fails.bind ((Reads.atWord ends.legal "when").thenGives ?_) _)
      rw [other]
      exact (ends.formula_fails 0 fuel).bind _
    exact base.bind _

/-- Nor does what must come between parentheses. -/
theorem Ends.enclosed_fails {token : Token} (ends : Ends token) :
    Fails (expectSymbol "(") { tokens := token :: rest, kept } := by
  -- The token is none of the symbols that start something.
  have other : Reads (takeSymbol "(") (token :: rest) kept false (token :: rest) kept :=
    .noSymbol ends.legal (by cases ends <;> rfl)
  exact other.thenGives Fails.refuse

/-- A word before the end of a column is read as a value or as a name, if it is read. -/
theorem Ends.operand_word {token : Token} (ends : Ends token) (name : String)
    (room : kept < keptLimit) (fuel : Nat) :
    MayRead (Parse.operand fuel) (.ofWord name :: token :: rest) kept (reading name)
      (token :: rest) (kept + 1) := by
  -- The first token decides what kind of operand follows.
  cases fuel with
  | zero => exact (Fails.throw _).gives
  | succ fuel =>
    rw [Parse.operand]
    refine (Reads.peek (.cons (by simp [Token.ofWord]))).thenGives ?_
    have symbols : ∀ symbol, (Token.ofWord name).isSymbol symbol = false := fun _ => rfl
    have passed : Reads skip (.ofWord name :: token :: rest) kept () (token :: rest) (kept + 1) :=
      .skip room
    -- A word is no symbol, so of the cases that are left all go by words.
    simp only [List.head?_cons, symbols, Bool.false_eq_true, if_false]
    -- The words that start a formula of another kind need more than follows here.
    split
    · exact passed.thenGives ((ends.formula_fails 3 fuel).bind _).gives
    split
    · exact passed.thenGives (ends.choice_fails fuel).gives
    split
    · exact passed.thenGives (ends.enclosed_fails.bind _).gives
    split
    · exact passed.thenGives (ends.enclosed_fails.bind _).gives
    split
    · exact passed.thenGives (ends.enclosed_fails.bind _).gives
    -- Any other word is a value, a name, or out of place.
    have kind : (Token.ofWord name).kind = .word := rfl
    simp only [kind]
    cases valued : literal? (.ofWord name) with
    -- A word for nothing, for a truth value or for the time is read as that.
    | some found =>
      have same : reading name = found := by simp [reading, valued]
      rw [same]
      exact (passed.bind (.pure found)).mayRead
    | none =>
      have same : reading name = .name { name } := by simp [reading, valued]
      rw [same]
      dsimp only
      split
      -- A name that is no keyword stands for a column.
      · rename_i named
        have free : isKeyword name = false := by
          rw [← Bool.not_eq_true]
          intro reserved
          simp [nameOf?, Token.ofWord, reserved] at named
        cases fuel with
        | zero => exact passed.thenGives (Fails.throw _).gives
        | succ fuel => exact passed.thenGives (ends.named free fuel).mayRead
      · exact Fails.refuse.gives

/-- A formula is complete before the end of a column. -/
theorem Ends.operators_end {token : Token} (ends : Ends token) (left : Formula) (fuel : Nat) :
    MayRead (Parse.operators 0 false left fuel) (token :: rest) kept left (token :: rest) kept := by
  -- Two steps are too few to see that no operator follows.
  match fuel with
  | 0 => exact (Fails.throw _).gives
  | 1 | 2 =>
    intro value after ended
    cases ends <;> cases ended
  | fuel + 3 => exact (ends.operators left fuel).mayRead

/-- A word before the end of a column is a formula, if it is read. -/
theorem Ends.formula_word {token : Token} (ends : Ends token) (name : String)
    (room : kept < keptLimit) (fuel : Nat) :
    MayRead (Parse.formula 0 fuel) (.ofWord name :: token :: rest) kept (reading name)
      (token :: rest) (kept + 1) := by
  -- The word is the first operand, and the end of the column leaves no room for an operator.
  cases fuel with
  | zero => exact (Fails.throw _).gives
  | succ fuel =>
    rw [Parse.formula]
    -- A formula of one word is not deep.
    have shallow : Reads (checked (reading name)) (token :: rest) (kept + 1) (reading name)
        (token :: rest) (kept + 1) := by
      obtain same | ⟨_, same⟩ | ⟨_, same⟩ := reading_cases name <;> rw [same] <;> rfl
    exact (ends.operand_word name room fuel).asOne.thenGives
      (shallow.thenGives (ends.operators_end _ fuel))

/-- A word before the end of a column is the column, if it is read. -/
theorem Ends.column_word {token : Token} (ends : Ends token) (name : String)
    (room : kept < keptLimit) :
    MayRead (joined do Parse.formula 0 (← steps)) (.ofWord name :: token :: rest) kept
      (reading name) (token :: rest) kept := by
  -- The reader takes as much fuel as there are tokens to come.
  have fuel : Reads steps (.ofWord name :: token :: rest) kept (4 * (rest.length + 2) + 4)
      (.ofWord name :: token :: rest) kept := Reads.get.bind (.pure _)
  exact MayRead.joined (fuel.thenGives (ends.formula_word name room _))

/-- Words before the table are the columns, each written as it is, if they are read. -/
theorem columns_words (first : String) (names : List String) (room : kept < keptLimit) (fuel : Nat) :
    MayRead (columns fuel) (nameTokens (first :: names) ++ .ofWord "FROM" :: rest) kept
      ((first :: names).map fun name => (reading name, name)) (.ofWord "FROM" :: rest) kept := by
  -- A comma after a word leads to the next one, and the last word is before the table.
  induction names generalizing first fuel with
  | nil =>
    cases fuel with
    | zero => exact (Fails.throw _).gives
    | succ fuel =>
      have tokens : nameTokens [first] ++ .ofWord "FROM" :: rest =
        .ofWord first :: .ofWord "FROM" :: rest := rfl
      rw [columns, tokens]
      -- The last word is before the table, so there is no comma to go on after.
      refine Reads.get.thenGives ((Ends.source.column_word first room).thenGives
        (Reads.get.thenGives ?_))
      refine (Reads.noSymbol Ends.source.legal rfl).joined.thenGives ?_
      simp only [join_taken]
      exact (Reads.pure _).mayRead
  | cons second names ih =>
    cases fuel with
    | zero => exact (Fails.throw _).gives
    | succ fuel =>
      have tokens : nameTokens (first :: second :: names) ++ .ofWord "FROM" :: rest =
        .ofWord first :: .ofSymbol "," ::
          (nameTokens (second :: names) ++ .ofWord "FROM" :: rest) := rfl
      rw [columns, tokens]
      -- Here there is a comma, and the names after it are read in the same way.
      refine Reads.get.thenGives ((Ends.comma.column_word first room).thenGives
        (Reads.get.thenGives ?_))
      refine (Reads.takeSymbol rfl (by decide) room).joined.thenGives ?_
      simp only [join_taken]
      exact (ih second fuel).thenGives (Reads.pure _).mayRead

/-- No columns are read from the end of one. -/
theorem Ends.columns_fails {token : Token} (ends : Ends token) (fuel : Nat) :
    Fails (columns fuel) { tokens := token :: rest, kept } := by
  -- A list of columns starts with a formula, and none is there.
  cases fuel with
  | zero => exact .throw _
  | succ fuel =>
    rw [columns]
    -- Fuel is counted from the tokens, so there is always some for a formula.
    have fuel : Reads steps (token :: rest) kept (4 * (rest.length + 1) + 4) (token :: rest) kept :=
      Reads.get.bind (.pure _)
    have first : Fails (joined do Parse.formula 0 (← steps)) { tokens := token :: rest, kept } :=
      Reads.get.thenGives (Fails.bind (fuel.thenGives (ends.formula_fails 0 _)) _)
    exact Reads.get.thenGives (first.bind _)

/-- A word is followed by the end of its column. -/
theorem nameTokens_cons (first : String) (names : List String) (rest : List Token) :
    ∃ token more, Ends token ∧
      nameTokens (first :: names) ++ .ofWord "FROM" :: rest = .ofWord first :: token :: more := by
  -- What follows is a comma, or the word before the table.
  cases names with
  | nil => exact ⟨_, _, .source, rfl⟩
  | cons second names => exact ⟨_, _, .comma, rfl⟩

/-- The table of a selection is the word after the last column, if it is read. -/
theorem name_word (table : String) :
    Gives name { tokens := .ofWord table :: rest, kept } fun found _ => found = table := by
  -- A reserved word is no name, and any other word is one as it stands.
  refine (Reads.peek (.cons (by simp [Token.ofWord]))).thenGives ?_
  simp only [List.head?_cons, Option.bind_some]
  -- The keywords are told apart first.
  by_cases reserved : isKeyword table = true
  · have none : nameOf? (.ofWord table) = none := by simp [nameOf?, Token.ofWord, reserved]
    rw [none]
    exact Fails.refuse.gives
  · have found : nameOf? (.ofWord table) = some table := by
      simp [nameOf?, Token.ofWord, reserved]
    rw [found]
    exact Gives.bind .any fun _ _ _ => .pure rfl

/-- A selection of words, whatever follows its table, has these words as its columns. -/
theorem selection_words (names : List String) (table : String) (rest : List Token) :
    Gives selection
      { tokens := .ofWord "SELECT" :: nameTokens names ++
          .ofWord "FROM" :: .ofWord table :: rest }
      fun found _ => found.columns = names.map (fun name => (reading name, name)) ∧
        found.table = table := by
  -- The word that starts a selection is there, and is passed by.
  rw [List.cons_append]
  refine Reads.thenGives (Reads.get.bind (.pure _)) ?_
  refine (Reads.expectWord rfl (by decide) (by decide)).thenGives ?_
  cases names with
  | nil =>
    -- There is no column before the table.
    refine (Reads.noWord Ends.source.legal rfl).thenGives ?_
    refine (Reads.noWord Ends.source.legal rfl).thenGives ?_
    exact ((Ends.source.columns_fails _).bind _).gives
  -- The first name is looked at together with what follows it.
  | cons first names =>
    obtain ⟨token, more, ends, tokens⟩ := nameTokens_cons first names (.ofWord table :: rest)
    have legal : Legal (.ofWord first :: token :: more) := .cons (by simp [Token.ofWord])
    by_cases distinct : (Token.ofWord first).isWord "distinct" = true
    · -- The first name is taken for another word, and then a column is missing.
      rw [tokens]
      refine (Reads.takeWord distinct (by simp [Token.ofWord]) (by decide)).thenGives ?_
      exact ((ends.columns_fails _).bind _).gives
    by_cases all : (Token.ofWord first).isWord "all" = true
    -- So is a name that is the word for all rows.
    · rw [tokens]
      refine (Reads.noWord legal (by simpa using distinct)).thenGives ?_
      refine (Reads.takeWord all (by simp [Token.ofWord]) (by decide)).thenGives ?_
      exact ((ends.columns_fails _).bind _).gives
    rw [← tokens] at legal
    have head : (nameTokens (first :: names) ++ .ofWord "FROM" :: .ofWord table :: rest).head? =
      some (.ofWord first) := by rw [tokens]; rfl
    -- A name that is neither starts the columns.
    refine (Reads.noWord legal (by simpa [head] using distinct)).thenGives ?_
    refine (Reads.noWord legal (by simpa [head] using all)).thenGives ?_
    refine (columns_words first names (by decide) _).thenGives ?_
    refine (Reads.expectWord rfl (by decide) (by decide)).thenGives ?_
    refine Gives.bind (name_word table) ?_
    rintro _ after rfl
    -- All that follows leaves the columns and the table as they are.
    repeat' first
      | exact Gives.pure ⟨rfl, rfl⟩
      | refine Gives.bind .any fun _ _ _ => ?_
      | split

end Parse

/-! The names of columns -/

/-- A column that is spelled as in its table is reported as it is spelled. -/
theorem Relation.heading_column {relation : Relation} (distinct : AreDistinct relation.columns)
    {column : Column} (member : column ∈ relation.columns) (plain : IsPlainName column.name) :
    relation.heading column.name = column.name := by
  -- A plain name is no value, and it is found among the columns at its own place.
  obtain ⟨index, here⟩ := List.getElem?_of_mem member
  simp [heading, bareName_of_isWord plain.word, Parse.literal?_ofWord plain,
    source?_column distinct here, Source.name]

/-- The columns that a question asks for are reported under their headings. -/
theorem columnName_reading (relation : Relation) (name : String) :
    Selection.columnName relation (Parse.reading (bareName name), bareName name) =
      relation.heading name := by
  -- What has a value of its own is reported as it is written.
  have valued : Parse.literal? (.ofWord (bareName name)) ≠ none →
      relation.heading name = bareName name := by
    intro some
    simp [Relation.heading, Option.isSome_iff_ne_none.mpr some]
  -- A value is no name, and so is reported as it is written.
  obtain same | ⟨_, same⟩ | ⟨none, same⟩ := Parse.reading_cases (bareName name)
  · rw [valued (fun none => by simp [Parse.reading, none] at same), same]
    rfl
  · rw [valued (fun none => by simp [Parse.reading, none] at same), same]
    rfl
  -- A name is that of a column, or of the row number, or else of nothing.
  · simp only [Relation.heading, none, same, Selection.columnName, Scope.source?, Scope.owns]
    cases relation.source? (bareName name) <;> rfl

/-- A word leaves nothing to be answered beforehand. -/
theorem changed_reading (scope : Scope) (name : String) :
    (Parse.reading name).changed (Formula.answered scope) = Parse.reading name := by
  -- A word is no call and no test, which are all that can be answered before.
  obtain same | ⟨_, same⟩ | ⟨_, same⟩ := Parse.reading_cases name <;>
    simp [same, Formula.changed, Formula.answered]

/-- Formulas have as many values as there are of them. -/
theorem View.length_all {view : View} {formulas : List Formula} {cells : List Cell}
    (valued : view.all formulas = .ok cells) : cells.length = formulas.length := by
  unfold View.all at valued
  -- The values are collected in order, one for each formula.
  induction formulas generalizing cells with
  | nil =>
    cases valued
    rfl
  | cons first rest ih =>
    simp only [View.outcomes, Outcome.cells, bind_eq_ok] at valued
    obtain ⟨cell, _, others, further, built⟩ := valued
    cases built
    simp [ih further]

/-- So it is on every row. -/
theorem Selection.length_withValues {relation : Relation} {supply : Supply}
    {formulas : List Formula} {rows : List Row} {valued : List (List Cell × Row)}
    (computed : withValues relation supply formulas rows = .ok valued) :
    ∀ entry ∈ valued, entry.1.length = formulas.length := by
  -- The induction is on the rows, which are given values for the same formulas.
  induction rows generalizing valued with
  | nil =>
    cases computed
    simp
  | cons row rest ih =>
    simp only [withValues, bind_eq_ok] at computed
    obtain ⟨cells, here, others, later, built⟩ := computed
    cases built
    exact List.forall_mem_cons.mpr ⟨View.length_all here, ih later⟩

/-- A selection gives rows that have each of its columns, under its name and in its place. -/
theorem Selection.keys_run {selection : Selection} {relation : Relation} {supply : Supply}
    {aside : List Formula} {rows : List (Fields Cell)}
    (ran : selection.run relation supply aside = .ok rows) :
    ∀ row ∈ rows, row.keys = selection.columns.map (columnName relation) := by
  -- A selection is read, filtered, sorted and cut before its columns are computed.
  simp only [run, bind_eq_ok] at ran
  obtain ⟨_, _, limit, _, ran⟩ := ran
  split at ran
  · -- For no rows there is nothing to show.
    cases ran
    simp
  · simp only [bind_eq_ok] at ran
    obtain ⟨_, _, _, _, _, _, valued, computed, built⟩ := ran
    cases built
    intro row member
    -- Each row that is shown has its cells computed for the columns in order.
    obtain ⟨entry, among, rfl⟩ := List.mem_map.mp member
    have length := length_withValues computed entry among
    simp only [List.length_map] at length
    exact List.map_fst_zip (by simp [length])

/-- A row under the names of columns has these names. -/
theorem Relation.keys_headed (relation : Relation) (columns : List String) (cells : List Cell) :
    (relation.headed columns cells).keys = columns.map relation.heading := by
  -- Name by name, whatever the cells are.
  apply List.ext_getElem <;> simp [headed, Fields.keys]

/-- A selection that a question spells has its words as columns, and is from its table. -/
theorem Question.spells {question : Question} {selection : Selection}
    (spelled : Selection.ofTokens question.tokens.1 = .ok selection) :
    selection.columns = (question.columns.map bareName).map
        (fun name => (Parse.reading name, name)) ∧
      selection.table = bareName question.table := by
  -- The tokens are those of words, and what they spell has these words as its columns.
  have tokens : question.tokens.1 = .ofWord "SELECT" ::
      Parse.nameTokens (question.columns.map bareName) ++
        .ofWord "FROM" :: .ofWord (bareName question.table) :: question.tail.tokens.1 := by
    simp [Question.tokens, Parse.nameTokens, Function.comp_def]
  rw [tokens] at spelled
  simp only [Selection.ofTokens, bind_eq_ok] at spelled
  obtain ⟨⟨found, left⟩, read, built⟩ := spelled
  cases built
  exact Parse.selection_words _ _ _ _ _ read

/-- Each row that is given has the columns that were asked for, under their headings. -/
theorem prepareSelect_keys {store after : Store} {engine : Engine} {question : Question}
    {parameters cells : List Cell} {statement : Prepared (List (Fields Cell))}
    {rows : List (Fields Cell)}
    (prepared : store.prepareSelect engine question parameters = .ok statement)
    (stepped : statement.step cells = some (.ok (after, rows))) :
    ∃ relation, store.readable? (bareName question.table) = some relation ∧
      ∀ row ∈ rows, row.keys = question.columns.map relation.heading := by
  -- The rows come from a selection that is laid down, or from the engine.
  rcases prepareSelect_cases prepared with ⟨selection, spelled, ready⟩ | ⟨_, ready⟩
  · obtain ⟨columns, table⟩ := Question.spells spelled
    obtain ⟨relation, aside, readable, step⟩ := Selection.prepare_cases ready
    rw [table] at readable
    refine ⟨relation, readable, ?_⟩
    simp only [step, Option.some.injEq, bind_eq_ok] at stepped
    -- A word is changed by nothing that is answered beforehand.
    obtain ⟨_, ran, built⟩ := stepped
    cases built
    intro row member
    rw [Selection.keys_run ran row member]
    simp [Selection.answered, columns, changed_reading, columnName_reading]
  · -- An engine gives cells only, which are put under the same names.
    obtain ⟨foreign, relation, _, readable, step⟩ := Engine.prepare_cases ready
    refine ⟨relation, readable, ?_⟩
    rw [step, Option.map_eq_some_iff] at stepped
    obtain ⟨answered, _, built⟩ := stepped
    obtain ⟨found, _, built⟩ := map_eq_ok.mp built
    cases built
    intro row member
    obtain ⟨given, _, rfl⟩ := List.mem_map.mp member
    exact relation.keys_headed question.columns given

end PageServer.Store
