import PageServer.Store.Select

/-!
Questions that go beyond what is laid down here.

Selections inside formulas, compound selections, groups, windows, structured texts, chance and the
present time are left to an engine. It is a parameter: what is said of a store holds whatever its engine
answers, and where the answers matter, what is asked of them is stated with the result. An engine may
work on a question without end.
-/

namespace PageServer.Store

/-! What is left to an engine -/

/-- Functions of chance, of the present time, and of how the store was made. -/
def varying : List String :=
  ["current_date", "current_time", "current_timestamp", "random", "randomblob", "sqlite_source_id"]

/-- Functions of points in time. -/
def instantNames : List String :=
  ["date", "datetime", "julianday", "strftime", "time", "unixepoch"]

/-- Words for the present time, and for the zone of the place. -/
def presentWords : List String := ["localtime", "now", "utc"]

namespace Formula

/-- Whether a formula is a value that gives a point in time, or moves one, the same way everywhere. -/
def isFixedTime : Formula → Bool
  | .literal cell => !((cell.chars?.map fun chars => fold (String.ofList chars)).any
      presentWords.contains)
  -- What a column or a placeholder holds may be one of the words.
  | _ => false

/-- Whether a formula, its parts aside, is left to an engine. -/
def isOpen : Formula → Bool
  | .nested | .clock _ | .binary .extract _ _ => true
  | .call function arguments =>
    let name := fold function
    -- The first argument of this one is not a time, but how it is written.
    let times := if name = "strftime" then arguments.drop 1 else arguments
    Signature.others.contains name || varying.contains name ||
      -- Without any time the present one is meant.
      (instantNames.contains name && (times.isEmpty || !times.all isFixedTime))
  | _ => false

end Formula

/-- The formulas of a selection. -/
def Selection.formulas (selection : Selection) : List Formula :=
  selection.columns.map Prod.fst ++ selection.condition.toList ++
    selection.order.map SortTerm.formula ++ selection.limit.toList ++ selection.offset.toList

/-- Whether a selection has a part that is left to an engine. -/
def Selection.isOpen (selection : Selection) : Bool :=
  selection.formulas.any fun formula => formula.subformulas.any Formula.isOpen

/-- The selection that a question spells, unless it goes beyond what is laid down here. -/
def Question.selection? (question : Question) : Except Fault (Option Selection) :=
  match Selection.ofTokens question.tokens.1 with
  | .ok selection => .ok (if selection.isOpen then none else some selection)
  | .error (.unsupported _) => .ok none
  | .error fault => .error fault

/-! Engines -/

/-- What an engine makes of a question that it accepts. -/
structure Foreign where
  /-- How many values it takes. -/
  placeholders : Nat
  /-- The cells of each row, in the order of the columns; nothing if no end is ever reached. -/
  answer : List Cell → Option (Except Fault (List (List Cell)))

/-- How questions are answered that go beyond what is laid down here. -/
structure Engine where
  accept : Store → Question → Except Fault Foreign

/--
The name that a column is reported under.

It is the name that the table has for it, whatever the case it is asked for in, or that of the row
number. What is no column is reported as it is written. A line feed after the name is not seen.
-/
def Relation.heading (relation : Relation) (name : String) : String :=
  if (Parse.literal? (.ofWord (bareName name))).isSome then bareName name
  else ((relation.source? (bareName name)).map Source.name).getD (bareName name)

/-- A row under the names of columns; it has a cell for each of them, whatever is given. -/
def Relation.headed (relation : Relation) (columns : List String) (cells : List Cell) :
    Fields Cell :=
  columns.mapIdx fun index name => (relation.heading name, cells.getD index .null)

/-- A question that an engine accepts, ready to run; it leaves the store as it is. -/
def Engine.prepare (engine : Engine) (store : Store) (question : Question)
    (parameters : List Cell) : Except Fault (Prepared (List (Fields Cell))) := do
  let foreign ← engine.accept store question
  match store.readable? (bareName question.table) with
  | none => throw (.noTable (bareName question.table))
  | some relation =>
    return {
      bindings := numbered foreign.placeholders parameters
      step := fun cells => (foreign.answer cells).map fun answered =>
        answered.map fun rows => (store, rows.map (relation.headed question.columns)) }

/-- A question ready to run: as it is laid down here, or else as an engine does it. -/
def prepareSelect (store : Store) (engine : Engine) (question : Question)
    (parameters : List Cell) : Except Fault (Prepared (List (Fields Cell))) := do
  match ← question.selection? with
  | some selection => selection.prepare store question.tokens.2 parameters
  | none => engine.prepare store question parameters

/-! An engine for trials -/

/--
Whether tokens ask on each row for the count of a table that has no end.

They do if they are those of the condition that
`(WITH RECURSIVE t(c) AS (SELECT n UNION ALL SELECT c FROM t) SELECT count(*) FROM t) > 0`.
-/
def asksEndless (tokens : List Token) : Bool :=
  let words := tokens.map fun token => fold token.text
  let word (place : Nat) : String := words.getD place ""
  let table := word 5
  let column := word 7
  words == ["where", "(", "(", "with", "recursive", table, "(", column, ")", "as", "(",
    "select", word 12, "union", "all", "select", column, "from", table, ")",
    "select", "count", "(", "*", ")", "from", table, ")", ">", "0", ")"] &&
  [5, 7].all (fun place => tokens[place]?.any (·.kind == .word)) &&
    tokens[12]?.any (·.kind == .integer)

/-- What an engine makes of a selection that it reads as it is laid down here. -/
def Selection.foreign (selection : Selection) (store : Store) (rest : List Char) :
    Except Fault Foreign := do
  let ready ← selection.prepare store rest []
  return {
    placeholders := selection.placeholders
    answer := fun cells => (ready.step cells).map fun stepped =>
      stepped.map fun reached => reached.2.map fun row => row.map Prod.snd }

/--
An engine for trials.

Chance and the present time are constants for it, and it knows no selections inside formulas but one,
on which it works without end if there is a row to ask it of.
-/
def Engine.standIn : Engine where
  accept store question :=
    if asksEndless question.tail.tokens.1 then do
      -- Names are looked up before any row is, so the question without conditions has their faults.
      let plain : Question := { question with tail := .plain [] none }
      let foreign ← (← Selection.ofTokens plain.tokens.1).foreign store plain.tokens.2
      return { foreign with
        answer := fun cells => (foreign.answer cells).bind fun answered =>
          match answered with
          | .ok (_ :: _) => none
          | ended => some ended }
    else do (← Selection.ofTokens question.tokens.1).foreign store question.tokens.2

end PageServer.Store
