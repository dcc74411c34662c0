import PageServer.Store.Evaluate

/-!
Columns that a condition ties to a constant.

Where one of several conditions that must all hold says that a column equals a constant, the other
conditions take the constant for the column.
-/

namespace PageServer.Store

/-- A column that equals a constant: which condition says so, and on which side the column is. -/
structure Tie where
  source : Source
  value : Formula
  condition : Nat
  onLeft : Bool

/-- The ties found so far, and the fault met last on the way. -/
structure Ties where
  found : List Tie := []
  fault : Option Fault := none

namespace Ties

/-- Adds a tie, unless the column has one, the constant has an affinity, or the collation counts. -/
def add (ties : Ties) (tie : Tie) (scope : Scope) (left right : Formula) : Ties :=
  if (tie.value.affinity? scope).isSome then ties
  else
    let named := left.collationName?.or right.collationName?
    let collation := named.bind Collation.ofName?
    -- The fault is noted even if the tie is not made.
    let fault := match named, collation with
      | some name, none => some (.noCollation name)
      | _, _ => ties.fault
    let known := ties.found.any fun other => other.source == tie.source
    if known || !(collation.getD .binary == .binary) then { ties with fault }
    else { found := ties.found ++ [tie], fault }

/-- The tie of one side of an equality, if it is a column and the other side is a constant. -/
def ofSide (scope : Scope) (index : Nat) (left right : Formula) (ties : Ties) (onLeft : Bool) :
    Ties :=
  let (column, value) := if onLeft then (left, right) else (right, left)
  match column with
  | .name mention =>
    match scope.source? mention with
    | some source =>
      if value.isConstant scope then
        ties.add { source, value, condition := index, onLeft } scope left right
      else ties
    | none => ties
  | _ => ties

/-- The ties of one condition. -/
def ofCondition (scope : Scope) (ties : Ties) (index : Nat) : Formula → Ties
  | .binary .eq left right =>
    -- The right side is looked at before the left one.
    ofSide scope index left right (ofSide scope index left right ties false) true
  | _ => ties

/-- The ties of conditions, the last condition first. -/
def ofConditions (scope : Scope) (conditions : List Formula) : Ties :=
  (conditions.mapIdx Prod.mk).foldr
    (fun (index, condition) ties => ties.ofCondition scope index condition) {}

/-- What stands for a name that is tied, other than where the tie itself is. -/
def change (ties : Ties) (scope : Scope) : Formula → Option Formula
  | .name mention => do
    let source ← scope.source? mention
    let tie ← ties.found.find? fun tie => tie.source == source
    return .pinned mention tie.value
  | _ => none

/-- A condition with constants in place of the columns that are tied. -/
def apply (ties : Ties) (scope : Scope) (index : Nat) (condition : Formula) : Formula :=
  match condition, ties.found.find? fun tie => tie.condition == index with
  | .binary .eq left right, some tie =>
    -- The column itself stays where it says what it equals.
    if tie.onLeft then .binary .eq left (right.changed (ties.change scope))
    else .binary .eq (left.changed (ties.change scope)) right
  | other, _ => other.changed (ties.change scope)

end Ties

/-- How many names formulas have that are not tied. -/
def Formula.nameCount (formulas : List Formula) : Nat :=
  ((formulas.flatMap subformulas).filter fun part => part matches .name _).length

/-- The parts of a condition that stand between `AND`. -/
def Formula.members : Formula → List Formula
  | .binary .and left right => left.members ++ right.members
  | other => [other]

/-- Ties columns to constants until nothing changes: the conditions, and the fault met last. -/
def propagate (scope : Scope) : Nat → List Formula → List Formula × Option Fault
  | 0, conditions => (conditions, none)
  | fuel + 1, conditions =>
    let ties := Ties.ofConditions scope conditions
    let changed := conditions.mapIdx (ties.apply scope)
    -- Each round ties at least one more name, or is the last.
    if Formula.nameCount changed = Formula.nameCount conditions then (conditions, ties.fault)
    else
      let (final, fault) := propagate scope fuel changed
      (final, fault.or ties.fault)

/-- The conditions of a selection with constants in place of columns that are tied to them. -/
def propagated (scope : Scope) (condition : Option Formula) : List Formula × Option Fault :=
  match condition.toList.flatMap Formula.members with
  | [] => ([], none)
  -- One condition has no other to take its constant.
  | [single] => ([single], none)
  | members => propagate scope (Formula.nameCount members + 1) members

end PageServer.Store
