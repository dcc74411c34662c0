import PageServer.Store.Operator
import PageServer.Store.Scope

/-!
What can be said of a formula before there is a row: its affinity and collation, and whether it has
one value for all rows.
-/

namespace PageServer.Store

namespace Formula

/-- The affinity of a formula: that of a column or of a conversion. -/
def affinity? (scope : Scope) : Formula → Option Affinity
  | .name mention | .pinned mention _ => (scope.source? mention).map Source.affinity
  | .cast _ type => some (.ofType type)
  -- A collation says how values compare, and leaves alone what they prefer to be.
  | .collate operand _ => operand.affinity? scope
  | _ => none

mutual

/-- The name of the first collation in a formula. -/
def collationName? : Formula → Option String
  | .collate _ found => some found
  -- A range has the collation of what is tested, not that of a bound.
  | .unary _ operand | .cast operand _ | .missing operand _ | .between operand _ _ _ =>
    operand.collationName?
  | .binary _ left right => left.collationName?.or right.collationName?
  | .among operand items _ => operand.collationName?.or (collationNames items)
  | .case base branches otherwise =>
    (optionalCollationName? base).or
      ((armCollationNames branches).or (optionalCollationName? otherwise))
  | .call _ arguments => collationNames arguments
  -- A list of values is named after the first; compared with another, each value names its own.
  | .vector items => headCollationName? items
  | .literal _ | .longHexadecimal _ | .clock _ | .name _ | .pinned _ _ | .parameter _ | .raise
  | .nested => none

/-- The name of the first collation in formulas. -/
def collationNames : List Formula → Option String
  | [] => none
  | first :: rest => first.collationName?.or (collationNames rest)

/-- The name of the first collation in the first of formulas. -/
def headCollationName? : List Formula → Option String
  | [] => none
  | first :: _ => first.collationName?

/-- The name of the first collation in a formula that may be left out. -/
def optionalCollationName? : Option Formula → Option String
  | none => none
  | some found => found.collationName?

/-- The name of the first collation in the arms of a choice. -/
def armCollationNames : List (Formula × Formula) → Option String
  | [] => none
  | (condition, result) :: rest =>
    condition.collationName?.or (result.collationName?.or (armCollationNames rest))

end

/-- Whether a formula is a declared column, with no collation but the plain one. -/
def isColumn (scope : Scope) : Formula → Bool
  | .name mention | .pinned mention _ =>
    match scope.source? mention with
    | some (.place _ _) => true
    | _ => false
  | .cast operand _ | .unary .plus operand => operand.isColumn scope
  | _ => false

/-- The name of the collation of a function: of the first argument that has any. -/
def functionCollation? (scope : Scope) (arguments : List Formula) : Option String :=
  -- A column has a collation, the plain one, and so ends the search.
  (arguments.takeWhile fun argument => !argument.isColumn scope).findSome? collationName?

/-- How two formulas are compared: under the first collation that either names. -/
def comparison (scope : Scope) (left right : Formula) : Comparison :=
  let named := left.collationName?.or right.collationName?
  { affinity := Affinity.joint (left.affinity? scope) (right.affinity? scope)
    collation := (named.bind Collation.ofName?).getD .binary }

/-- How a formula is compared with the items of a list: its own affinity counts alone. -/
def itemComparison (scope : Scope) (operand : Formula) : Comparison :=
  { affinity := operand.affinity? scope
    collation := (operand.collationName?.bind Collation.ofName?).getD .binary }

/-- The formulas whose values a formula has. -/
def parts : Formula → List Formula
  | .vector items => items
  | single => [single]

/-- How the values of two formulas are compared, one by one. -/
def comparisons (scope : Scope) (left right : Formula) : List Comparison :=
  List.zipWith (comparison scope) left.parts right.parts

/--
The truth of a condition that is a plain number or a truth value, or a conjunction or disjunction
that such a part makes one.
-/
def plainTruth? (scope : Scope) : Formula → Option Bool
  | .literal (.int n) => if 0 ≤ n && n < 2147483648 then some (n != 0) else none
  | .name mention => truthWord? scope (.name mention)
  | .binary op left right =>
    let a := left.plainTruth? scope
    let b := right.plainTruth? scope
    match op with
    -- Only what settles the whole is known: a part that is true leaves the other one to decide.
    | .and => if a = some true || b = some false then b
      else if b = some true || a = some false then a else none
    | .or => if a = some true || b = some false then a
      else if b = some true || a = some false then b else none
    | _ => none
  | _ => none

/-- Whether a formula is no column of the row; one that is tied to a constant is none. -/
def isNoColumn (scope : Scope) : Formula → Bool
  | .name mention => (scope.source? mention).isNone
  | _ => true

/-- Whether a formula has one value for all rows, if the functions in it have: it has no column. -/
def isFree (scope : Scope) (formula : Formula) : Bool := formula.subformulas.all (isNoColumn scope)

/-- Functions that may give another value each time. -/
def unsteady : List String :=
  ["changes", "last_insert_rowid", "match", "matchinfo", "offsets", "optimize", "random",
   "randomblob", "snippet", "total_changes"]

/-- Whether a formula has the same value each time on one row. -/
def isSteady (formula : Formula) : Bool :=
  -- A function counts as unsteady by its name alone, whatever its arguments.
  formula.subformulas.all fun part =>
    match part with
    | .call function _ => !unsteady.contains (fold function)
    | _ => true

/-- Whether a formula is tested before any row is read. -/
def isPrior (scope : Scope) (formula : Formula) : Bool := formula.isFree scope && formula.isSteady

/-- Whether a formula has one value for all rows. -/
def isConstant (scope : Scope) (formula : Formula) : Bool :=
  formula.isPrior scope && formula.subformulas.all fun part => !(part matches .raise)

end Formula

end PageServer.Store
