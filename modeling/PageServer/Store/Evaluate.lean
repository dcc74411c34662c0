import PageServer.Store.Function
import PageServer.Store.Trait

/-! The value of a formula on a row. -/

namespace PageServer.Store

/-- What is the same for all rows: the values supplied for placeholders, and the store's counts. -/
structure Supply where
  parameters : List Cell
  tally : Tally

/-- What a formula is evaluated on: the names it may use, a row, and what is supplied. -/
structure View extends Supply where
  scope : Scope
  row : Row

/-- The view of a row of a table. -/
def Supply.on (supply : Supply) (relation : Relation) (row : Row) : View :=
  { supply with scope := some relation, row }

/-- The view of no row. -/
def Supply.alone (supply : Supply) : View := { supply with scope := none, row := ⟨0, []⟩ }

/-- The value of a name. -/
def View.name (view : View) (mention : Mention) : Cell :=
  match view.scope.meaning? mention with
  | some (.source source) => source.cell view.row
  | some (.text content) => .text content
  | some (.truth value) => .int (if value then 1 else 0)
  -- A name that means nothing was refused before, so this is never asked for.
  | none => .null

/--
What becomes of a formula: its values, and whether it holds as a condition.

Each value may be a fault, which counts only where the value is looked at. A condition is told what
a missing value counts for; its parts are looked at only as long as they leave the outcome open.
-/
structure Outcome where
  values : List (Except Fault Cell)
  holds : Bool → Except Fault Bool

namespace Outcome

/-- The value of an outcome that has one. -/
def value (outcome : Outcome) : Except Fault Cell := outcome.values.headD (.ok .null)

/-- The outcome of a formula with the given value. -/
def one (value : Except Fault Cell) : Outcome :=
  { values := [value]
    holds := fun missing => do return (← value).truth?.getD missing }

/-- A truth value as an outcome. -/
def ofTruth (truth : Except Fault (Option Bool)) : Outcome := one (truth.map .ofTruth)

/-- The opposite of a condition; a missing value stays one. -/
def negated (outcome : Outcome) : Outcome :=
  { values := [do return .ofTruth ((← outcome.value).truth?.map (!·))]
    -- The parts are tested for the opposite, so a missing value counts the other way inside.
    holds := fun missing => do return !(← outcome.holds (!missing)) }

/-- The first of outcomes that has a value; the others are not looked at. -/
def firstPresent : List Outcome → Except Fault Cell
  | [] => .ok .null
  | first :: rest => do
    let cell ← first.value
    -- A fault is met only on the way to the first value that is there.
    if cell == .null then firstPresent rest else return cell

/-- The values of outcomes in order, up to the first fault. -/
def cells : List Outcome → Except Fault (List Cell)
  | [] => .ok []
  | first :: rest => do return (← first.value) :: (← cells rest)

/-- Both of two conditions, of which one may be plain. -/
def conjunction (left right : Outcome) (a b : Option Bool) : Outcome :=
  { one (do return .ofTruth (both (← left.value).truth? (← right.value).truth?)) with
    holds := fun missing =>
      -- A plain part settles before there is a row which of the two is tested.
      if a = some true || b = some false then right.holds missing
      else if b = some true || a = some false then left.holds missing
      else do if ← left.holds missing then right.holds missing else return false }

/-- At least one of two conditions, of which one may be plain. -/
def disjunction (left right : Outcome) (a b : Option Bool) : Outcome :=
  { one (do return .ofTruth (either (← left.value).truth? (← right.value).truth?)) with
    holds := fun missing =>
      if a = some true || b = some false then left.holds missing
      else if b = some true || a = some false then right.holds missing
      else do if ← left.holds missing then return true else right.holds missing }

/-- Whether a condition is true or false, as asked; it is missing in neither case. -/
def isTruth (outcome : Outcome) (wanted negated : Bool) : Outcome :=
  { one (do
      let truth := (← outcome.value).truth?
      return .ofTruth (some ((truth == some wanted) != negated))) with
    -- What counts as missing is turned so that it does not count as the wanted truth.
    holds := fun _ => do return (← outcome.holds (!wanted)) == (wanted != negated) }

/-- Whether values lie between two bounds, all included. -/
def within (lows highs : List Comparison) (operand low high : Outcome) : Outcome :=
  -- Both comparisons are with the same values, which are computed once.
  let above := compareEach .ge (lows.zip (operand.values.zip low.values))
  let below := compareEach .le (highs.zip (operand.values.zip high.values))
  -- As a value both bounds are looked at; as a condition the upper one may not be.
  { ofTruth (do return both (← above) (← below)) with
    holds := fun missing => do
      if (← above).getD missing then return (← below).getD missing else return false }

/-- Whether a value is among others, which are looked at up to the first that it equals. -/
def among (comparison : Comparison) (cell : Cell) : List Outcome → Except Fault (Option Bool)
  | [] => .ok (some false)
  | first :: rest => do
    match compareCells .eq comparison cell (← first.value) with
    -- A missing item leaves it open whether the value is there, unless a later one equals it.
    | some true => return some true
    | here => return either here (← among comparison cell rest)

/-- Whether several values are among others. -/
def amongVectors (comparisons : List Comparison) (operand : Outcome) :
    List Outcome → Except Fault (Option Bool)
  | [] => .ok (some false)
  | first :: rest => do
    match ← compareEach .eq (comparisons.zip (operand.values.zip first.values)) with
    | some true => return some true
    | here => return either here (← amongVectors comparisons operand rest)

/-- The result of the first arm whose condition holds, or equals what is tested. -/
def choose (otherwise : Outcome) : List ((Except Fault Bool) × Outcome) → Except Fault Cell
  | [] => otherwise.value
  | (condition, result) :: rest => do
    if ← condition then result.value else choose otherwise rest

end Outcome

/-- The most items of a list that are not collected before they are compared. -/
def smallList : Nat := 2

namespace View

/-- The value of a function on arguments; some look at an argument only if they need it. -/
def call (view : View) (function : String) (arguments : List Formula) (given : List Outcome) :
    Except Fault Cell :=
  match fold function, given with
  | "coalesce", _ | "ifnull", _ => Outcome.firstPresent given
  | "iif", [condition, yes, no] => do if ← condition.holds false then yes.value else no.value
  | "likely", first :: _ | "unlikely", first :: _ | "likelihood", first :: _ => first.value
  -- All other functions are called on the values of all their arguments.
  | _, _ => do
    let collation := (Formula.functionCollation? view.scope arguments).bind Collation.ofName?
    applyFunction view.tally (collation.getD .binary) function (← Outcome.cells given)

/-- Whether a value is in a list. A list of several constants is collected before it is searched. -/
def member (view : View) (operand : Formula) (items : List Formula) (tested : Outcome)
    (given : List Outcome) : Except Fault (Option Bool) :=
  match operand with
  | .vector _ =>
    -- The last item says how all are compared.
    let last := items.getLast?.getD (.vector [])
    Outcome.amongVectors (Formula.comparisons view.scope operand last) tested given
  | _ => do
    if items.length > smallList && items.all (·.isConstant view.scope) then
      -- What is collected may have a fault beyond the item that is found.
      let _ ← Outcome.cells given
    Outcome.among (operand.itemComparison view.scope) (← tested.value) given

mutual

/-- What becomes of a formula. -/
def outcome (view : View) : Formula → Outcome
  | .literal cell => .one (.ok cell)
  | .clock word => .one (applyFunction view.tally .binary word [])
  | .name mention => .one (.ok (view.name mention))
  | .pinned mention value =>
    -- The constant is what the column would hold if it had been stored there.
    let affinity := ((view.scope.source? mention).map Source.affinity).getD .none
    .one (do return affinity.admit (← (view.outcome value).value))
  | .parameter number => .one (.ok (view.parameters.getD (number - 1) .null))
  -- A denial is a condition of its own kind, other operators only have a value.
  | .unary .not operand => (view.outcome operand).negated
  | .unary op operand => .one (do return applyUnary op (← (view.outcome operand).value))
  | .binary op left right =>
    let a := view.outcome left
    let b := view.outcome right
    match op, Formula.truthTest? view.scope op right with
    -- Whether a side is plain is settled by the formula, not by the row.
    | .and, _ => a.conjunction b (left.plainTruth? view.scope) (right.plainTruth? view.scope)
    | .or, _ => a.disjunction b (left.plainTruth? view.scope) (right.plainTruth? view.scope)
    | _, some wanted => a.isTruth wanted (op == .isNot)
    | _, none =>
      if Formula.compares op then
        .ofTruth (compareEach op
          ((Formula.comparisons view.scope left right).zip (a.values.zip b.values)))
      else .one (do return combine op (← a.value) (← b.value))
  | .missing operand negated =>
    .ofTruth (do return some (((← (view.outcome operand).value) == .null) != negated))
  | .between operand low high negated =>
    let found := Outcome.within (Formula.comparisons view.scope operand low)
      (Formula.comparisons view.scope operand high) (view.outcome operand) (view.outcome low)
      (view.outcome high)
    if negated then found.negated else found
  | .among operand items negated =>
    let found := Outcome.ofTruth
      (view.member operand items (view.outcome operand) (view.outcomes items))
    if negated then found.negated else found
  | .case base branches otherwise =>
    -- A choice in which no arm holds is missing.
    let rest := (view.optional otherwise).getD (.one (.ok .null))
    .one (Outcome.choose rest (view.arms base (view.optional base) branches))
  | .cast operand type => .one (do return (← (view.outcome operand).value).cast (.ofType type))
  -- A collation changes how a value is compared, not the value.
  | .collate operand _ => view.outcome operand
  | .call function arguments => .one (view.call function arguments (view.outcomes arguments))
  | .vector items =>
    { Outcome.one (.ok .null) with values := (view.outcomes items).map Outcome.value }
  -- These are refused when a statement is put into steps, so no value of theirs is asked for.
  | .longHexadecimal _ | .raise | .nested => .one (.ok .null)

/-- What becomes of each formula in order. -/
def outcomes (view : View) : List Formula → List Outcome
  | [] => []
  | first :: rest => view.outcome first :: view.outcomes rest

/-- What becomes of a formula that may be left out. -/
def optional (view : View) : Option Formula → Option Outcome
  | none => none
  | some found => some (view.outcome found)

/-- The conditions of arms, each perhaps an equality with what is tested, and their results. -/
def arms (view : View) (base : Option Formula) (tested : Option Outcome) :
    List (Formula × Formula) → List ((Except Fault Bool) × Outcome)
  | [] => []
  | (condition, result) :: rest =>
    let found := view.outcome condition
    let holds := match base, tested with
      | some formula, some wanted => do
        let same ← compareEach .eq ((Formula.comparisons view.scope formula condition).zip
          (wanted.values.zip found.values))
        -- A comparison that stays open does not choose the arm.
        return same == some true
      | _, _ => found.holds false
    (holds, view.outcome result) :: view.arms base tested rest

end

/-- The value of a formula. -/
def value (view : View) (formula : Formula) : Except Fault Cell := (view.outcome formula).value

/-- The value of each formula in order. -/
def all (view : View) (formulas : List Formula) : Except Fault (List Cell) :=
  Outcome.cells (view.outcomes formulas)

/-- Whether a condition is true of a row. -/
def satisfies (view : View) (condition : Formula) : Except Fault Bool :=
  (view.outcome condition).holds false

end View

end PageServer.Store
