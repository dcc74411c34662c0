import PageServer.Store.Formula
import PageServer.Store.Insert
import PageServer.Store.Signature

/-!
What the names in a formula mean, and whether a formula means anything.

A formula is checked from the outside in and from left to right. The check usually ends with its
first fault, but a test for a missing value and a function let it go on, and then a later fault
takes the place of an earlier one.
-/

namespace PageServer.Store

/-- Where a column's value comes from: a place in the row, or the row number. -/
inductive Source where
  | place (index : Nat) (column : Column)
  | number
  deriving DecidableEq, Repr

namespace Source

/-- The name a source is reported under. -/
def name : Source → String
  | place _ column => column.name
  | number => "rowid"

/-- The affinity of a source. -/
def affinity : Source → Affinity
  | place _ column => column.affinity
  | number => .integer

/-- The value of a source in a row. -/
def cell (row : Row) : Source → Cell
  | place index _ => row.cells.getD index .null
  | number => .int row.number

end Source

/-- The source a name refers to; a declared column hides the row number. -/
def Relation.source? (relation : Relation) (name : String) : Option Source :=
  match relation.columns.findIdx? fun column => sameName column.name name with
  | some index => relation.columns[index]?.map (Source.place index)
  -- The names of the row number mean it only where no column has taken them.
  | none => if rowNumberNames.contains (fold name) then some .number else none

/-- What a name in a formula stands for. -/
inductive Meaning where
  | source (source : Source)
  /-- A name between double quotes that refers to nothing is a text. -/
  | text (content : String)
  | truth (value : Bool)
  deriving DecidableEq, Repr

/-- The table whose names formulas may mention, if there is one. -/
abbrev Scope := Option Relation

namespace Scope

/-- Whether the names before a column's name lead to a table. -/
def owns (relation : Relation) : List String → Bool
  | [] => true
  | [table] => sameName table relation.name
  | [database, table] => sameName database "main" && sameName table relation.name
  | _ => false

/-- The source that a mention refers to. -/
def source? (scope : Scope) (mention : Mention) : Option Source :=
  match scope with
  | some relation => if owns relation mention.owner then relation.source? mention.name else none
  | none => none

/-- The meaning of a mention: a source first, then a text or a truth value. -/
def meaning? (scope : Scope) (mention : Mention) : Option Meaning :=
  match scope.source? mention with
  | some source => some (.source source)
  | none =>
    -- With a table before it, a name can be nothing but a column.
    if !mention.owner.isEmpty then none
    else if mention.double then some (.text mention.name)
    else if mention.quoted then none
    else if sameName mention.name "true" then some (.truth true)
    else if sameName mention.name "false" then some (.truth false)
    else none

end Scope

/-- What is wrong with the use of a function of one row, by its name and its arguments. -/
def functionFault? (function : String) (arguments : List Formula) : Option Fault :=
  match functionKind function arguments.length with
  | .error fault => some fault
  -- What runs over several rows has no place in a formula for one.
  | .ok .aggregate => some (.aggregate function)
  | .ok .window => some (.window function)
  | .ok .plain =>
    match fold function, arguments with
    -- The probability has to be written out: a sign or a whole number is refused.
    | "likelihood", [_, .literal (.real value)] =>
      if value.compare (.ofInt 1) = .gt then some (.likelihood function) else none
    | "likelihood", [_, _] => some (.likelihood function)
    | _, _ => none

namespace Formula

/-- A formula without the collations around it. -/
def bare : Formula → Formula
  | .collate operand _ => operand.bare
  | other => other

/-- Whether an operator compares its operands, and so takes several values against as many. -/
def compares : BinaryOp → Bool
  | .eq | .ne | .is | .isNot | .lt | .le | .gt | .ge => true
  | _ => false

/-- Whether a formula always has a value: it is written out, or is the row number. -/
def isPresent (scope : Scope) : Formula → Bool
  | .literal cell => cell != .null
  | .longHexadecimal _ => true
  | .name mention =>
    match scope.meaning? mention with
    | some (.source source) => source == .number
    | some (.text _) => true
    | _ => false
  | .unary .plus operand | .unary .negate operand | .missing operand _ => operand.isPresent scope
  | _ => false

/--
The outcome of asking whether a formula is missing that always has a value.

It is a choice without arms, since a number that is written out has uses of its own.
-/
def answered (scope : Scope) : Formula → Option Formula
  | .missing operand negated =>
    if operand.isPresent scope then
      some (.case none [] (some (.literal (.int (if negated then 1 else 0)))))
    else none
  | _ => none

/-- Whether a formula is a truth value, by its name alone. -/
def truthWord? (scope : Scope) : Formula → Option Bool
  | .name mention =>
    match scope.meaning? mention with
    | some (.truth value) => some value
    | _ => none
  | _ => none

/-- Whether a test for identity asks whether its left side is true or false. -/
def truthTest? (scope : Scope) (op : BinaryOp) (right : Formula) : Option Bool :=
  if op = .is || op = .isNot then right.bare.truthWord? scope else none

end Formula

/-- A stage of a check: the fault met last, and whether the check goes on. -/
structure Check where
  fault : Option Fault := none
  goesOn : Bool := true
  deriving DecidableEq, Repr

namespace Check

/-- Meets a part that ends the check if there is a fault already. -/
def part (check : Check) : Check := { check with goesOn := check.fault.isNone }

/-- Meets a name. -/
def name (check : Check) (scope : Scope) (mention : Mention) : Check :=
  match scope.meaning? mention with
  | some _ => check
  | none =>
    let written := ".".intercalate (mention.owner ++ [mention.name])
    { fault := some (.noColumn written), goesOn := false }

/-- Meets several values that stand against another number of values. -/
def widths (check : Check) (agree : Bool) : Check :=
  if agree then check else { check with fault := some .severalValues }

/-- Whether a formula is a name alone on the right side of a test for identity. -/
def isIdentified (op : BinaryOp) : Formula → Bool
  | .name mention => (op matches .is | .isNot) && mention.owner.isEmpty
  | _ => false

/-- Meets the right side of a test for identity, which is looked at first if it is a name. -/
def identity (check : Check) (scope : Scope) (op : BinaryOp) (right : Formula) : Check :=
  match right.bare with
  | .name mention =>
    if isIdentified op (.name mention) then check.name scope mention else check
  | _ => check

mutual

/-- Checks the names and functions of a formula. -/
def formula (scope : Scope) (check : Check) : Formula → Check
  -- A pinned column is checked by its name: the constant was checked where it came from.
  | .name mention | .pinned mention _ => check.name scope mention
  -- Whatever is found inside, the check goes on after it.
  | .missing operand _ => { fault := (formula scope check operand).fault }
  | .call function arguments =>
    -- A fault inside the arguments takes the place of that of the call.
    let fault := (functionFault? function arguments).or check.fault
    { fault := (formulas scope { fault } arguments).fault }
  | .unary _ operand | .cast operand _ | .collate operand _ =>
    let check := check.part
    if check.goesOn then formula scope check operand else check
  | .binary op left right =>
    -- In a test for identity a name on the right may be a truth value, and is looked up first.
    let check := check.identity scope op right
    if !check.goesOn then check
    else
      let check :=
        if (Formula.truthTest? scope op right).isSome then check
        else (check.widths (!Formula.compares op || left.width = right.width)).part
      let check := if check.goesOn then formula scope check left else check
      if !check.goesOn then check
      -- Such a name was looked at before the left side.
      else if isIdentified op right then check.part
      else formula scope check right
  | .between operand low high _ =>
    let check :=
      -- The numbers of values are compared before any of them is checked.
      (check.widths (operand.width = low.width && operand.width = high.width)).part
    let check := if check.goesOn then formula scope check operand else check
    let check := if check.goesOn then formula scope check low else check
    if check.goesOn then formula scope check high else check
  | .among operand items _ =>
    let check := check.part
    let check := if check.goesOn then formula scope check operand else check
    formulas scope check items
  | .case base branches otherwise =>
    -- The parts are checked in the order in which they are written.
    let check := optional scope check.part base
    optional scope (arms scope check branches) otherwise
  | .vector items => formulas scope check.part items
  | .literal _ | .longHexadecimal _ | .clock _ | .parameter _ | .raise | .nested => check.part

/-- Checks formulas in order. -/
def formulas (scope : Scope) (check : Check) : List Formula → Check
  | [] => check
  | first :: rest =>
    if check.goesOn then formulas scope (formula scope check first) rest else check

/-- Checks a formula that may be left out. -/
def optional (scope : Scope) (check : Check) : Option Formula → Check
  | none => check
  | some found => if check.goesOn then formula scope check found else check

/-- Checks the arms of a choice in order. -/
def arms (scope : Scope) (check : Check) : List (Formula × Formula) → Check
  | [] => check
  | (condition, result) :: rest =>
    let check := if check.goesOn then formula scope check condition else check
    let check := if check.goesOn then formula scope check result else check
    arms scope check rest

end

end Check

/-- The fault in the names and functions of a formula, if there is one. -/
def Formula.nameFault? (scope : Scope) (formula : Formula) : Option Fault :=
  (Check.formula scope {} formula).fault

end PageServer.Store
