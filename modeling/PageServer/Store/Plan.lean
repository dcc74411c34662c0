import PageServer.Store.Propagation

/-!
The order in which a selection reads rows.

Rows are read in the order of their numbers. Where one of the conditions is a disjunction that
bounds the numbers in every branch, and nothing bounds them better, they are read branch by branch,
and each branch is planned in the same way. Efforts are compared on a coarse scale.
-/

namespace PageServer.Store

namespace Formula

/-- Whether a function only says how likely its argument is. -/
def isHint (function : String) : Bool :=
  ["likelihood", "likely", "unlikely"].contains (fold function)

/-- The conditions that must all hold; collations and hints around a condition do not count. -/
def conjuncts : Formula → List Formula
  | .binary .and left right => left.conjuncts ++ right.conjuncts
  | .collate operand _ => operand.conjuncts
  | .call function (first :: rest) =>
    if isHint function then first.conjuncts else [.call function (first :: rest)]
  | other => [other]

/-- The conditions of which one must hold. -/
def disjuncts : Formula → List Formula
  | .binary .or left right => left.disjuncts ++ right.disjuncts
  | .collate operand _ => operand.disjuncts
  | .call function (first :: rest) =>
    if isHint function then first.disjuncts else [.call function (first :: rest)]
  | other => [other]

/-- The equalities that an equality of several values with as many consists of. -/
def slices : Formula → Option (List Formula)
  | .binary op (.vector lefts) (.vector rights) =>
    if op matches .eq | .is then some (List.zipWith (.binary op) lefts rights) else none
  | _ => none

/-- Conditions with equalities of several values taken apart, which come last. -/
def sliced (conditions : List Formula) : List Formula :=
  conditions.filter (fun condition => condition.slices.isNone) ++
    (conditions.filterMap slices).flatten

/-- Whether a formula is the row number. -/
def isNumber (scope : Scope) (formula : Formula) : Bool :=
  match formula.bare with
  | .name mention | .pinned mention _ => scope.source? mention == some .number
  | _ => false

/-- The comparison that holds with the sides exchanged. -/
def mirrored : BinaryOp → BinaryOp
  | .lt => .gt
  | .le => .ge
  | .gt => .lt
  | .ge => .le
  | other => other

/-- A comparison of the row number with a constant, as one with the number on the left. -/
def sideTest? (scope : Scope) (op : BinaryOp) (left right : Formula) :
    Option (BinaryOp × Formula) :=
  if left.isNumber scope && right.isFree scope then some (op, right)
  -- With the number on the right, the comparison is turned around.
  else if right.isNumber scope && left.isFree scope then some (mirrored op, left)
  else none

/--
What a condition says of the row number in comparison with a constant.

Of several values against as many, any pair counts if they are to be equal, else the first.
-/
def numberTest? (scope : Scope) : Formula → Option (BinaryOp × Formula)
  | .binary op left right =>
    if !(op matches .eq | .is | .lt | .le | .gt | .ge) then none
    else
      match left, right with
      | .vector lefts, .vector rights =>
        let pairs := lefts.zip rights
        let pairs := if op matches .eq | .is then pairs else pairs.take 1
        pairs.findSome? fun (l, r) => sideTest? scope op l r
      | _, _ => sideTest? scope op left right
  | _ => none

/-- Whether two constants are written as the same value. -/
def sameConstant : Formula → Formula → Bool
  | .literal a, .literal b => a == b
  | .parameter m, .parameter n => m == n
  | _, _ => false

end Formula

/-! Efforts -/

/-- Ten times the binary logarithm of a number, in the steps of a scale of eighths. -/
def scaled (n : Nat) : Nat :=
  if n < 2 then 0
  else
    -- The three digits after the highest one say where a number is between two powers of two.
    let octave := Nat.log2 n
    let eighths := (n * 8 / Nat.pow 2 octave) % 8
    10 * octave + [0, 2, 3, 5, 6, 7, 8, 9].getD eighths 0

/-- The scaled sum of two scaled numbers. -/
def scaledSum (a b : Nat) : Nat :=
  let (high, low) := if a ≥ b then (a, b) else (b, a)
  let gap := high - low
  -- A much smaller part adds one step, or nothing.
  if gap > 49 then high
  else if gap > 31 then high + 1
  else
    let steps := [10, 10, 9, 9, 8, 8, 7, 7, 7, 6, 6, 6, 5, 5, 5, 4, 4, 4, 4, 3, 3, 3, 3, 3, 3,
      2, 2, 2, 2, 2, 2, 2]
    high + steps.getD gap 2

/-- How a condition bounds the row number. -/
inductive Reach where
  /-- To so many single numbers. -/
  | points (count : Nat)
  | above
  | below
  deriving DecidableEq, Repr

/-- What reading takes: effort, and how many rows it gives, both scaled. -/
structure Cost where
  effort : Nat
  rows : Nat
  deriving DecidableEq, Repr

namespace Cost

/-- Reading all rows, a million by assumption. -/
def whole : Cost := ⟨216, 200⟩

/-- Reading a row by its number, for each of so many numbers. -/
def points (count : Nat) : Cost := ⟨45 + scaled count, scaled count⟩

/-- Reading between two bounds, a sixty-fourth of the rows, or beyond one, a quarter. -/
def range (both : Bool) : Cost := if both then ⟨156, 140⟩ else ⟨196, 180⟩

/-- A reading that some more conditions make a little smaller. -/
def thinned (cost : Cost) (conditions : Nat) : Cost := { cost with rows := cost.rows - conditions }

/-- Whether one cost is preferred to another. -/
def isLess (a b : Cost) : Bool := a.effort < b.effort || (a.effort == b.effort && a.rows < b.rows)

/-- The preferred one of two costs, the first of equals. -/
def least (a b : Cost) : Cost := if b.isLess a then b else a

/-- The preferred one of costs. -/
def least? : List Cost → Option Cost
  | [] => none
  | first :: rest => some (rest.foldl least first)

/-- The cost of two readings one after the other. -/
def add (a b : Cost) : Cost := ⟨scaledSum a.effort b.effort, scaledSum a.rows b.rows⟩

end Cost

/-- A condition as a bound: how it bounds, and whether it is among those that are planned. -/
structure Bound where
  reach : Reach
  /-- Which of the planned conditions it is; none if it comes from outside. -/
  place : Option Nat
  deriving DecidableEq, Repr

/-- How many planned conditions a reading leaves untested that goes by the given ones. -/
def untested (conditions : Nat) (used : List Bound) : Nat :=
  conditions - ((used.filterMap Bound.place).eraseDups).length

/-- The costs of all ways to read by bounds. -/
def Cost.ofBounds (conditions : Nat) (bounds : List Bound) : List Cost :=
  let uppers := bounds.filter fun bound => bound.reach == .below
  bounds.flatMap fun bound =>
    let alone := untested conditions [bound]
    match bound.reach with
    | .points count => [(Cost.points count).thinned alone]
    | .below => [(Cost.range false).thinned alone]
    -- A lower bound can be joined with any upper one; an upper one alone was met before.
    | .above =>
      (Cost.range false).thinned alone :: uppers.map fun upper =>
        (Cost.range true).thinned (untested conditions [bound, upper])

/-! Conditions as bounds -/

namespace Formula

/-- The bound of a comparison. -/
def reachOf : BinaryOp → Reach
  | .lt | .le => .below
  | .gt | .ge => .above
  | _ => .points 1

/-- What the conditions of a branch say of the row number in comparison with constants. -/
def numberTests (scope : Scope) (branch : Formula) : List (BinaryOp × Formula) :=
  branch.conjuncts.flatMap fun condition =>
    match condition with
    | .between operand low high false =>
      -- Either end of a range counts only if it is a constant.
      if operand.isNumber scope then
        (if low.isFree scope then [(.ge, low)] else []) ++
          (if high.isFree scope then [(.le, high)] else [])
      else []
    | other => (other.numberTest? scope).toList

/-- The bound that follows from either of two comparisons with one constant. -/
def jointReach? (a b : BinaryOp × Formula) : Option Reach :=
  if !sameConstant a.2 b.2 then none
  else if a.1 == .eq && b.1 == .eq then some (.points 1)
  -- An equality is at the end of what lies below its constant, and of what lies above it.
  else if [a.1, b.1].all fun op => op matches .eq | .lt | .le then some .below
  else if [a.1, b.1].all fun op => op matches .eq | .gt | .ge then some .above
  else none

/-- The bounds of branches: a set if all are equalities, and what two branches have in common. -/
def mergedReach (scope : Scope) (branches : List Formula) : List Reach :=
  -- Ranges are joined only for two branches; a set can be made of any number of equalities.
  let equal (branch : Formula) : Bool :=
    (branch.numberTest? scope).any fun entry => entry.1 == .eq
  let joint := match branches with
    | [a, b] => (numberTests scope a).flatMap fun left =>
        (numberTests scope b).filterMap (jointReach? left)
    | _ => []
  (if branches.all equal then [.points branches.length] else []) ++ joint

/-- The bounds that one condition sets on the row number. -/
def reaches (scope : Scope) (condition : Formula) : List Reach :=
  match condition with
  | .between operand low high false =>
    if operand.isNumber scope then
      (if low.isFree scope then [.above] else []) ++
        (if high.isFree scope then [.below] else [])
    else []
  | .among operand items false =>
    -- Every item counts as a number of its own, even one that is there twice.
    if operand.isNumber scope && items.all (·.isFree scope) then [.points items.length] else []
  | .binary .or left right => mergedReach scope (left.disjuncts ++ right.disjuncts)
  | other => ((other.numberTest? scope).map fun entry => reachOf entry.1).toList

/-- Whether a condition goes along with each branch of another one. -/
def goesAlong (scope : Scope) : Formula → Bool
  | .binary .or _ _ => true
  -- A range does not, even where it bounds the row number.
  | .between _ _ _ _ => false
  | other => !(other.reaches scope).isEmpty

/-- A disjunction among conditions: its branches, and the conditions that go along with each. -/
structure Fork where
  branches : List Formula
  others : List Formula

/-- The disjunctions among conditions. -/
def forks (scope : Scope) (before : List Formula) : List Formula → List Fork
  | [] => []
  | condition :: rest =>
    let later := forks scope (before ++ [condition]) rest
    match condition with
    | .binary .or left right =>
      -- The conditions around a disjunction hold in each of its branches as well.
      { branches := left.disjuncts ++ right.disjuncts
        others := (before ++ rest).filter (goesAlong scope) } :: later
    | _ => later

/-- Conditions as bounds, each with its place. -/
def boundsFrom (scope : Scope) (place : Nat) : List Formula → List Bound
  | [] => []
  | condition :: rest =>
    (condition.reaches scope).map (⟨·, some place⟩) ++ boundsFrom scope (place + 1) rest

/-- Bounds as they are seen from inside a branch. -/
def fromOutside (bounds : List Bound) : List Bound := bounds.map fun bound => ⟨bound.reach, none⟩

mutual

/-- The least cost of reading under conditions, with bounds from outside, if anything is bound. -/
def cost? (scope : Scope) (outer : List Bound) (conditions : List Formula) : Nat → Option Cost
  | 0 => none
  | fuel + 1 =>
    -- What has one value for all rows bounds nothing here.
    let varying := conditions.filter fun condition => !condition.isFree scope
    let bounds := boundsFrom scope 0 varying ++ outer
    let forked := (forks scope [] varying).filterMap fun fork =>
      forkCost? scope (fromOutside bounds) fork fuel
    Cost.least? (Cost.ofBounds varying.length bounds ++ forked)

/-- The cost of reading branch by branch, if every branch is bound. -/
def forkCost? (scope : Scope) (outer : List Bound) (fork : Fork) : Nat → Option Cost
  | 0 => none
  | fuel + 1 =>
    -- A branch is planned like a whole condition, and may be forked again.
    let costs := fork.branches.map fun branch => cost? scope outer branch.conjuncts fuel
    -- The total is none once a branch is unbound, and is itself empty before the first branch.
    match costs.foldl (fun total cost => match total, cost with
      | some (some sum), some found => some (some (Cost.add sum found))
      | some none, some found => some (some found)
      | _, _ => none) (some none) with
    -- Keeping the branches apart takes a little more than their readings do.
    | some (some sum) => some { sum with effort := sum.effort + 1 }
    | _ => none

end

/-- How many conjunctions and disjunctions a condition is made of. -/
def junctions : Formula → Nat
  | .binary .and left right | .binary .or left right => left.junctions + right.junctions + 1
  | _ => 0

/-- How deep forks can be nested in conditions, at most. -/
def forkDepth (conditions : List Formula) : Nat :=
  conditions.foldl (fun total condition => total + condition.junctions) 0

/-- The fork by which rows are read, if that takes less than any other way. -/
def fork? (scope : Scope) (conditions : List Formula) : Option Fork :=
  -- A fork inside a fork takes one step of each of the two functions.
  let fuel := 2 * forkDepth conditions + 2
  let bounds := boundsFrom scope 0 conditions
  let outer := fromOutside bounds
  -- All rows can be read whatever the conditions are.
  let plain := (Cost.ofBounds conditions.length bounds).foldl Cost.least
    (Cost.whole.thinned conditions.length)
  let choose (best : Cost × Option Fork) (fork : Fork) : Cost × Option Fork :=
    match forkCost? scope outer fork fuel with
    | some cost => if cost.isLess best.1 then (cost, some fork) else best
    | none => best
  ((forks scope [] conditions).foldl choose (plain, none)).2

end Formula

/-! Reading -/

/-- Whether a condition is true of a row, or has a fault, which then comes to light later. -/
def View.mayAllow (view : View) (condition : Formula) : Bool :=
  match view.satisfies condition with
  | .ok holds => holds
  | .error _ => true

/-- Rows in the order in which they are read under conditions, forks nested up to a depth. -/
def arranged (relation : Relation) (supply : Supply) :
    Nat → List Formula → List Row → List Row
  | 0, _, rows => rows
  | depth + 1, conditions, rows =>
    if rows.isEmpty then []
    else
      match Formula.fork? (some relation) conditions with
      -- Where no fork helps, the rows stay in the order of their numbers.
      | none => rows
      | some fork =>
        (fork.branches.foldl (fun (done, left) branch =>
          -- A row is given by the first branch that may allow it, and by that one alone.
          let (here, later) := left.partition fun row =>
            (supply.on relation row).mayAllow branch
          (done ++ arranged relation supply depth (branch.conjuncts ++ fork.others) here,
            later)) (([] : List Row), rows)).1

/-- The rows of a table in the order in which they are read under conditions. -/
def readingOrder (relation : Relation) (supply : Supply) (conditions : List Formula) :
    List Row :=
  arranged relation supply (Formula.forkDepth conditions + 1) conditions relation.scan

end PageServer.Store
