import PageServer.Store.Coding
import PageServer.Store.Create
import PageServer.Store.Parser

/-!
Selecting rows from the store.

A selection is asked for by names, and by text from its conditions on. It is read, its names are
resolved, and only then is it run: rows are read, filtered, sorted and cut.
-/

namespace PageServer.Store

/-- What a question says after its table. -/
inductive Tail where
  /-- Columns to sort by, true for descending, and a limit. -/
  | plain (order : List (String × Bool)) (limit : Option Int)
  /-- Conditions, sort terms and limit as text. -/
  | written (text : String)
  deriving DecidableEq, Repr

/-- A question to the store. -/
structure Question where
  columns : List String
  table : String
  tail : Tail
  deriving DecidableEq, Repr

/-- Runs of tokens with commas between them. -/
def separated : List (List Token) → List Token
  | [] => []
  | [single] => single
  | first :: rest => first ++ .ofSymbol "," :: separated rest

/-- A whole number as tokens. -/
def numberTokens (n : Int) : List Token :=
  -- A sign is a token of its own.
  let digits : Token := ⟨.integer, toString n.natAbs⟩
  if n < 0 then [.ofSymbol "-", digits] else [digits]

/-- A sort term as tokens. -/
def orderTokens (term : String × Bool) : List Token :=
  [.ofWord (bareName term.1), .ofWord (if term.2 then "DESC" else "ASC")]

/-- The tokens of a tail, and what follows the end of the statement in it. -/
def Tail.tokens : Tail → List Token × List Char
  | .plain order limit =>
    -- A plain tail is spelled out, so that it is read like one that was written.
    let sorting := if order.isEmpty then []
      else .ofWord "ORDER" :: .ofWord "BY" :: separated (order.map orderTokens)
    let cutting := match limit with
      | none => []
      | some n => .ofWord "LIMIT" :: numberTokens n
    (sorting ++ cutting, [])
  | .written text => Store.tokens text

/-- The tokens of a question, and what follows the end of the statement. -/
def Question.tokens (question : Question) : List Token × List Char :=
  let names := separated (question.columns.map fun name => [.ofWord (bareName name)])
  let (tail, rest) := question.tail.tokens
  (.ofWord "SELECT" :: names ++ .ofWord "FROM" :: .ofWord (bareName question.table) :: tail, rest)

/-- How a sort term orders two values. -/
def SortTerm.compare (term : SortTerm) (a b : Cell) : Ordering :=
  let collation := (term.formula.collationName?.bind Collation.ofName?).getD .binary
  -- Where missing values stand is said of the order before it is turned around.
  let ascending := match a, b with
    | .null, .null => Ordering.eq
    | .null, _ => if term.missingLast then .gt else .lt
    | _, .null => if term.missingLast then .lt else .gt
    | _, _ => collation.order a b
  if term.descending then ascending.swap else ascending

namespace Selection

/-- The column that a sort term gives by its place, counted from one. -/
def columnPlace? : Formula → Option Int
  | .literal (.int n) => some n
  -- Signs and collations around a numeral leave it a place.
  | .unary .plus operand => columnPlace? operand
  | .unary .negate operand => (columnPlace? operand).map (-·)
  | .collate operand _ => columnPlace? operand
  | _ => none

/-- The first fault in the names of formulas. -/
def nameFaults (scope : Scope) : List Formula → Option Fault
  | [] => none
  | first :: rest => (first.nameFault? scope).or (nameFaults scope rest)

/-- The first fault in sort terms: a place beyond the columns, or a name. -/
def sortFaults (relation : Relation) (width : Nat) (position : Nat) : List Formula → Option Fault
  | [] => none
  | term :: rest =>
    let fault := match columnPlace? term with
      | some place =>
        -- A place is counted in the columns, and any other term is a formula.
        if 1 ≤ place && place ≤ width then none else some (Fault.sortTerm position width)
      | none => term.nameFault? (some relation)
    fault.or (sortFaults relation width (position + 1) rest)

/-- What a selection tests: constants once, and the other conditions on each row. -/
structure Tests where
  constant : List Formula
  varying : List Formula
  /-- The fault met while columns were tied to constants. -/
  fault : Option Fault

/-- What a selection tests. -/
def tests (selection : Selection) (scope : Scope) : Tests :=
  let (members, fault) := propagated scope selection.condition
  -- Columns are tied to constants before equalities of several values are taken apart.
  let conditions := Formula.sliced (members.flatMap Formula.conjuncts)
  -- A condition that needs no row is tested once for all of them.
  let (constant, varying) := conditions.partition (Formula.isPrior scope)
  { constant, varying, fault }

/-- The conditions on each row, those that bound the row number first. -/
def Tests.ordered (tests : Tests) (scope : Scope) : List Formula :=
  let (bounding, others) := tests.varying.partition fun condition =>
    !(condition.reaches scope).isEmpty
  bounding ++ others

/--
The conditions by which rows are found rather than tested: one that gives single row numbers, or one
from each side.
-/
def Tests.finding (tests : Tests) (scope : Scope) : List Nat :=
  let reaching (wanted : Reach → Bool) : List Nat :=
    (tests.varying.findIdx? fun condition => (condition.reaches scope).any wanted).toList
  -- Single numbers are the narrowest way to the rows, and leave the bounds to be tested.
  match reaching fun reach => reach matches .points _ with
  | [] => reaching (· == .above) ++ reaching (· == .below)
  | points => points

/-- The last of stages, each of which starts where the one before has ended without a fault. -/
def staged (coding : Coding) : List Coder → Except Fault Coding
  | [] => .ok coding
  | stage :: rest =>
    let coding := stage coding
    match coding.fault with
    | some fault => .error fault
    | none => staged coding rest

/-- Puts a selection into steps; what comes of it is how far that went. -/
def coded (selection : Selection) (relation : Relation) : Except Fault Coding :=
  let scope : Scope := some relation
  let tests := selection.tests scope
  let limits := selection.limit.toList ++ selection.offset.toList
  let terms := selection.order.map SortTerm.formula
  let finding := tests.finding scope
  -- What finds rows is not tested on them: only the constants in it are computed.
  let coder (index : Nat) (condition : Formula) : Coder :=
    if finding.contains index && condition.isSingle then
      Coding.inOrder ((Formula.codersAll scope (condition.bounds scope)).map Coders.operand)
    else (condition.coders scope).condition
  let values (list : List Formula) : Coder :=
    Coding.inOrder ((Formula.codersAll scope list).map Coders.value)
  staged { fault := tests.fault } [
    -- What is known before any row: sort terms, limits, and the bounds that conditions set.
    Coding.inOrder [
      Coding.inOrder (terms.map fun term => Coding.collation term.collationName?),
      values limits,
      Coding.inOrder (tests.varying.reverse.map (Formula.exchanged scope false))],
    -- What is tested once.
    Coding.inOrder ((Formula.codersAll scope tests.constant).map Coders.condition),
    -- What is computed on each row: the conditions, then the results and the sort terms.
    Coding.inOrder [
      Coding.inOrder (tests.varying.mapIdx coder),
      values (selection.columns.map Prod.fst ++ terms)],
    -- What the stages before have put aside.
    fun coding => Formula.fixedValues scope coding.aside coding]

/-- A selection with the outcomes of what need not be asked. -/
def answered (selection : Selection) (scope : Scope) : Selection :=
  -- Only limits are asked for before there is a row to refer to.
  let within (formula : Formula) : Formula := formula.changed (Formula.answered scope)
  let alone (formula : Formula) : Formula := formula.changed (Formula.answered none)
  { selection with
    columns := selection.columns.map fun column => (within column.1, column.2)
    condition := selection.condition.map within
    order := selection.order.map fun term => { term with formula := within term.formula }
    limit := selection.limit.map alone
    offset := selection.offset.map alone }

/-- The fault in the names of a selection from a table, if there is one; limits come first. -/
def nameFault? (selection : Selection) (relation : Relation) : Option Fault :=
  let limits := selection.limit.toList ++ selection.offset.toList
  let columns := selection.columns.map Prod.fst
  let condition := selection.condition.toList
  let terms := selection.order.map SortTerm.formula
  let exceeding (list : List Formula) (fault : Fault) : Option Fault :=
    if list.length > columnLimit then some fault else none
  -- The order of these checks decides which of several faults is reported.
  (exceeding columns .manyResults).or <|
    -- A limit belongs to no row, so its names refer to no column.
    (nameFaults none limits).or <|
      (nameFaults (some relation) (columns ++ condition)).or <|
        (sortFaults relation columns.length 1 terms).or (exceeding terms .manyTerms)

/-- The name a column is reported under: its own if it is a column, else what is written. -/
def columnName (relation : Relation) (column : Formula × String) : String :=
  match column.1 with
  | .name mention =>
    -- A column goes by the name it was declared with, whatever the case it is asked for in.
    match Scope.source? (some relation) mention with
    | some source => source.name
    | none => column.2
  | _ => column.2

/-- The value of a limit, which must be a whole number. -/
def limitValue (supply : Supply) : Option Formula → Except Fault (Option Int)
  | none => .ok none
  | some formula => do
    let cell ← supply.alone.value formula
    -- A text of digits does as well as the number.
    match Affinity.numeric.admit cell with
    | .int n => return some n
    | _ => throw .mismatch

/-- Whether all conditions are true, the first that is not ending the test. -/
def allHold (view : View) : List Formula → Except Fault Bool
  | [] => .ok true
  | first :: rest => do
    -- A condition after one that fails is not computed, so its fault does not show.
    if ← view.satisfies first then allHold view rest else return false

/-- The rows on which all conditions are true, in order, up to as many as are wanted. -/
def satisfying (relation : Relation) (supply : Supply) (conditions : List Formula) :
    Option Nat → List Row → Except Fault (List Row)
  -- A row after the last one wanted is not tested, so a fault on it does not come to light.
  | _, [] | some 0, _ => .ok []
  | wanted, row :: rest => do
    if ← allHold (supply.on relation row) conditions then
      let others ← satisfying relation supply conditions (wanted.map (· - 1)) rest
      return row :: others
    else satisfying relation supply conditions wanted rest

/-- The formula that a sort term stands for: a column by its place, or itself. -/
def sortFormula (selection : Selection) (term : Formula) : Formula :=
  match columnPlace? term with
  | none => term
  | some place => ((selection.columns[(place - 1).toNat]?).map Prod.fst).getD term

/-- Whether rows are wanted in the order of their numbers, and whether it is a descending one. -/
def byNumber? (selection : Selection) (scope : Scope) : Option Bool :=
  match selection.order with
  | term :: _ =>
    if (selection.sortFormula term.formula).isNumber scope then some term.descending else none
  | [] => none

/--
The rows of a table that a selection gives, in the order in which they are read, up to as many as
are wanted.

Conditions that have one value for all rows are tested once, before any row is read, and those that
bound the row number before the others.
-/
def filtered (selection : Selection) (relation : Relation) (supply : Supply)
    (wanted : Option Nat) : Except Fault (List Row) := do
  let tests := selection.tests (some relation)
  -- These conditions need no row, so any will do.
  if ← allHold (supply.on relation ⟨0, []⟩) tests.constant then
    -- The row numbers give the order for nothing if they are what is sorted by.
    let rows := match selection.byNumber? (some relation) with
      | some descending => if descending then relation.scan.reverse else relation.scan
      | none => readingOrder relation supply tests.varying
    satisfying relation supply (tests.ordered (some relation)) wanted rows
  else return []

/-- Rows with the values of formulas on each. -/
def withValues (relation : Relation) (supply : Supply) (formulas : List Formula) :
    List Row → Except Fault (List (List Cell × Row))
  | [] => .ok []
  | row :: rest => do
    let cells ← (supply.on relation row).all formulas
    let others ← withValues relation supply formulas rest
    return (cells, row) :: others

/-- Whether one row may stand before another by its sort values, the first difference deciding. -/
def inOrder : List SortTerm → List Cell → List Cell → Bool
  | term :: terms, a :: as, b :: bs =>
    match term.compare a b with
    | .eq => inOrder terms as bs
    | order => order = .lt
  -- Rows that agree in all terms may stand either way, so the sort leaves them as they are.
  | _, _, _ => true

/-- Rows in the order of the sort terms; rows that agree in all of them keep their order. -/
def sorted (selection : Selection) (relation : Relation) (supply : Supply)
    (rows : List Row) : Except Fault (List Row) := do
  let formulas := selection.order.map fun term => selection.sortFormula term.formula
  let valued ← withValues relation supply formulas rows
  return (valued.mergeSort fun a b => inOrder selection.order a.1 b.1).map Prod.snd

/-- At most so many rows after so many; a negative limit is none. -/
def cut {α : Type} (limit offset : Option Int) (rows : List α) : List α :=
  let rows := rows.drop (offset.getD 0).toNat
  match limit with
  | none => rows
  | some n => if n < 0 then rows else rows.take n.toNat

/-- How many rows have to be read for a limit after so many, unless it is none. -/
def reach (limit offset : Option Int) : Option Nat :=
  match limit with
  | some n => if n < 0 then none else some (n.toNat + (offset.getD 0).toNat)
  | none => none

/--
The rows that a selection gives, each value under the name of its column.

Constants that were put aside are computed before all else.
-/
def run (selection : Selection) (relation : Relation) (supply : Supply) (aside : List Formula) :
    Except Fault (List (Fields Cell)) := do
  let _ ← (supply.on relation ⟨0, []⟩).all aside
  let limit ← limitValue supply selection.limit
  -- For no rows none are read.
  if limit = some 0 then return []
  let offset ← limitValue supply selection.offset
  -- A sort has to see all rows before they are cut, unless they are read in its order.
  let isRead := selection.order.isEmpty || (selection.byNumber? (some relation)).isSome
  let rows ← selection.filtered relation supply (if isRead then reach limit offset else none)
  let rows ← selection.sorted relation supply rows
  let valued ← withValues relation supply (selection.columns.map Prod.fst)
    (cut limit offset rows)
  -- Values are computed for the rows that are left, and only for these.
  let names := selection.columns.map (columnName relation)
  return valued.map fun entry => names.zip entry.1

end Selection

/-- The values for placeholders that are numbered; there must be as many of them. -/
def numbered (wanted : Nat) (parameters : List Cell) : List (Except Fault Cell) :=
  if parameters.length = wanted then parameters.map .ok
  else [.error (.bindingCount wanted parameters.length)]

/-- A selection ready to run, with what follows it in its text; it leaves the store as it is. -/
def Selection.prepare (selection : Selection) (store : Store) (rest : List Char)
    (parameters : List Cell) : Except Fault (Prepared (List (Fields Cell))) := do
  match store.readable? selection.table with
  | none => throw (.noTable selection.table)
  | some relation =>
    match selection.nameFault? relation with
    | some fault => throw fault
    | none =>
      -- Names are in order from here on, so what follows need not look at them again.
      let selection := selection.answered (some relation)
      let coding ← selection.coded relation
      -- What comes after a statement is looked at only once the statement is ready.
      if !isBlankRest (rest.length + 1) rest then throw .severalStatements
      return {
        bindings := numbered selection.placeholders parameters
        step := fun cells => some do
          let rows ← selection.run relation ⟨cells, store.tally⟩ coding.aside
          return (store, rows) }

end PageServer.Store
