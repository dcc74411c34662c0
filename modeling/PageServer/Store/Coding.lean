import PageServer.Store.Plan

/-!
Putting formulas into steps.

A statement is put into steps before it runs, and some parts cannot be. A fault takes the place of
an earlier one, except that nothing is compared after a fault. Constants without functions are put
aside and come last.
-/

namespace PageServer.Store

/-- How far a statement has been put into steps. -/
structure Coding where
  /-- The fault met last. -/
  fault : Option Fault := none
  /-- Constants that were put aside. -/
  aside : List Formula := []
  /-- Whether constants stay where they are. -/
  inPlace : Bool := false

/-- What a part of a statement adds. -/
abbrev Coder := Coding → Coding

namespace Coding

/-- Meets a fault. -/
def refuse (fault : Fault) : Coder := fun coding => { coding with fault := some fault }

/-- Meets a collation by its name, which must exist. -/
def collation (name : Option String) : Coder :=
  match name with
  -- A collation that exists leaves no trace.
  | some found => if (Collation.ofName? found).isSome then id else refuse (.noCollation found)
  | none => id

/-- Meets a comparison of two formulas. -/
def comparison (left right : Formula) : Coder := fun coding =>
  -- Nothing is compared after a fault, so an unknown collation does not replace it.
  if coding.fault.isSome then coding
  else collation (left.collationName?.or right.collationName?) coding

/-- Applies coders one after the other. -/
def inOrder (coders : List Coder) : Coder := fun coding =>
  coders.foldl (fun coding coder => coder coding) coding

/-- Applies a coder with constants in their place. -/
def unmoved (coder : Coder) : Coder := fun coding =>
  -- The mode is put back as it was: the whole may itself stand inside such a part.
  { coder { coding with inPlace := true } with inPlace := coding.inPlace }

end Coding

/-- A formula as a value, as a condition, and as the values it has. -/
structure Coders where
  value : Coder
  /-- The value in a place from which a constant is put aside. -/
  operand : Coder
  condition : Coder
  /-- The formulas whose values it has, each with its coder. -/
  elements : List (Formula × Coder)

namespace Formula

/-- Whether a formula is a constant that is computed once. -/
def isOnce (scope : Scope) (formula : Formula) : Bool :=
  formula.isConstant scope && formula.subformulas.all fun part => !(part matches .pinned _ _)

mutual

/--
Whether a formula is known to call a function.

What stands inside a collation is not known of a formula, nor are the bounds of a range, nor of
several values any but the first.
-/
def calls : Formula → Bool
  | .call _ _ | .clock _ => true
  | .unary _ operand | .missing operand _ | .cast operand _ | .between operand _ _ _ =>
    operand.calls
  | .binary _ left right => left.calls || right.calls
  | .among operand items _ => operand.calls || callsAny items
  | .case base branches otherwise => calls? base || callsArms branches || calls? otherwise
  | .vector items => callsFirst items
  | .literal _ | .longHexadecimal _ | .name _ | .pinned _ _ | .parameter _ | .collate _ _ | .raise
  | .nested => false

/-- Whether any of formulas is known to call a function. -/
def callsAny : List Formula → Bool
  | [] => false
  | first :: rest => first.calls || callsAny rest

/-- Whether the first of formulas is known to call a function. -/
def callsFirst : List Formula → Bool
  | [] => false
  | first :: _ => first.calls

/-- Whether a formula that may be left out is known to call a function. -/
def calls? : Option Formula → Bool
  | none => false
  | some found => found.calls

/-- Whether the arms of a choice are known to call a function. -/
def callsArms : List (Formula × Formula) → Bool
  | [] => false
  | (condition, result) :: rest => condition.calls || result.calls || callsArms rest

end

/-- A formula in a place from which a constant is put aside. -/
def movable (scope : Scope) (formula : Formula) (value : Coder) : Coder := fun coding =>
  -- What calls a function stays where it is, so that it fails only where its value is asked for.
  if coding.inPlace || !formula.isOnce scope then value coding
  else if formula.calls then Coding.unmoved value coding
  else { coding with aside := coding.aside ++ [formula] }

/-- Functions that compare their arguments. -/
def comparing : List String := ["max", "min", "nullif"]

/-- The collations that a function meets among its arguments, up to one that exists. -/
def argumentCollations (scope : Scope) (arguments : List Formula) : List Coder :=
  -- A column ends the search, since it has a collation of its own.
  let named := (arguments.takeWhile fun argument => !argument.isColumn scope).filterMap
    collationName?
  let unknown := named.takeWhile fun name => (Collation.ofName? name).isNone
  unknown.map fun name => Coding.collation (some name)

end Formula

namespace Coders

/-- The coders of a formula with one value, which is also a condition of its own kind. -/
def ofCondition (scope : Scope) (formula : Formula) (value condition : Coder) : Coders :=
  -- Only in these places is a constant put aside; as a value it is computed where it stands.
  let operand := formula.movable scope value
  { value, operand, condition, elements := [(formula, operand)] }

/-- The coders of a formula with one value. -/
def ofValue (scope : Scope) (formula : Formula) (value : Coder) : Coders :=
  ofCondition scope formula value (formula.movable scope value)

/-- Both of two conditions; a plain one makes the other or itself superfluous. -/
def conjunction (a b : Option Bool) (left right : Coders) : Coder :=
  if a = some true || b = some false then right.condition
  else if b = some true || a = some false then left.condition
  else Coding.inOrder [left.condition, right.condition]

/-- At least one of two conditions; a plain one makes the other or itself superfluous. -/
def disjunction (a b : Option Bool) (left right : Coders) : Coder :=
  if a = some true || b = some false then left.condition
  else if b = some true || a = some false then right.condition
  else Coding.inOrder [left.condition, right.condition]

/-- What has been coded already. -/
def again (coders : Coders) : List (Formula × Coder) :=
  coders.elements.map fun entry => (entry.1, id)

/-- Pairs of formulas, each compared after both are coded; there must be as many on each side. -/
def pairwise (lefts rights : List (Formula × Coder)) : Coder :=
  if lefts.length = rights.length then
    Coding.inOrder ((lefts.zip rights).flatMap fun ((left, first), (right, second)) =>
      [first, second, Coding.comparison left right])
  else Coding.refuse .severalValues

/-- The search of a value in a list. -/
def search (scope : Scope) (formula : Formula) (items : List Formula) (tested : Coders)
    (given : List Coders) : Coder :=
  match formula with
  | .vector parts => fun coding =>
    let coding := Coding.inOrder (given.flatMap (·.elements.map Prod.snd)) coding
    if coding.fault.isSome then coding
    else
      -- The items are rows of a compound, which has the collations of its last row.
      let last := items.getLast?.getD (.vector [])
      let collations := List.zipWith
        (fun (left right : Formula) =>
          Coding.collation (left.collationName?.or right.collationName?)) parts last.parts
      Coding.inOrder (collations ++ tested.elements.map Prod.snd) coding
  | _ =>
    let first := Coding.unmoved tested.value
    -- In a list only the side that is looked for says how values are compared.
    let collated := Coding.collation formula.collationName?
    -- A long list of constants is made into a table before the value that is looked for.
    if items.length > smallList && items.all (·.isConstant scope) then
      Coding.inOrder ([collated] ++ given.map Coders.value ++ [first])
    else Coding.inOrder ([first, collated] ++ given.map Coders.operand)

/-- The call of a function. -/
def call (scope : Scope) (function : String) (arguments : List Formula) (given : List Coders) :
    Coder :=
  match fold function, given with
  -- These look at an argument only if they need it, so no constant is taken out of them.
  | "coalesce", _ | "ifnull", _ => Coding.inOrder (given.map Coders.value)
  | "iif", test :: results => Coding.inOrder (test.condition :: results.map Coders.value)
  | "likely", first :: _ | "unlikely", first :: _ | "likelihood", first :: _ => first.value
  | called, _ =>
    let collations :=
      if Formula.comparing.contains called then Formula.argumentCollations scope arguments else []
    Coding.inOrder (collations ++ given.map Coders.operand)

end Coders

namespace Formula

mutual

/-- How a formula is put into steps. -/
def coders (scope : Scope) : Formula → Coders
  | .literal cell => .ofCondition scope (.literal cell) id id
  | .clock word => .ofCondition scope (.clock word) id id
  | .name mention => .ofCondition scope (.name mention) id id
  | .pinned mention value =>
    .ofValue scope (.pinned mention value) (value.coders scope).value
  | .parameter number => .ofCondition scope (.parameter number) id id
  | .longHexadecimal text =>
    .ofValue scope (.longHexadecimal text) (Coding.refuse (.longHexadecimal text))
  | .raise => .ofValue scope .raise (Coding.refuse .triggerOnly)
  | .nested =>
    .ofValue scope .nested (Coding.refuse (.unsupported "a selection inside a formula"))
  | .vector items =>
    { Coders.ofValue scope (.vector items) (Coding.refuse .severalValues) with
      elements := elements scope items }
  | .unary op operand =>
    let inner := operand.coders scope
    match op with
    -- A plus computes nothing, and takes its operand as it stands.
    | .plus => .ofValue scope (.unary op operand) inner.value
    | .negate =>
      -- The sign belongs to the numeral, and so to the text of the fault.
      match operand with
      | .longHexadecimal text =>
        .ofValue scope (.unary op operand) (Coding.refuse (.longHexadecimal ("-" ++ text)))
      | _ => .ofValue scope (.unary op operand) inner.operand
    | .not => .ofCondition scope (.unary op operand) inner.operand inner.condition
    | _ => .ofValue scope (.unary op operand) inner.operand
  | .missing operand negated =>
    let inner := operand.coders scope
    .ofCondition scope (.missing operand negated) inner.operand inner.operand
  | .cast operand type => .ofValue scope (.cast operand type) (operand.coders scope).value
  | .collate operand collation =>
    .ofValue scope (.collate operand collation) (operand.coders scope).value
  | .binary op left right =>
    let a := left.coders scope
    let b := right.coders scope
    -- Sides are plain if their truth can be read off without a row.
    let first := left.plainTruth? scope
    let second := right.plainTruth? scope
    let both := Coding.inOrder [a.operand, b.operand]
    let compared := Coders.pairwise a.elements b.elements
    match op, truthTest? scope op right with
    | .and, _ =>
      .ofCondition scope (.binary op left right) both (Coders.conjunction first second a b)
    | .or, _ =>
      .ofCondition scope (.binary op left right) both (Coders.disjunction first second a b)
    | _, some _ => .ofCondition scope (.binary op left right) a.operand a.condition
    | .extract, none => .ofValue scope (.binary op left right)
        (Coding.refuse (.unsupported "a member of a structured text"))
    | _, none =>
      -- Several values can be compared, and nothing else can be done with them.
      if !compares op then .ofValue scope (.binary op left right) both
      else if left matches .vector _ then .ofValue scope (.binary op left right) compared
      else .ofCondition scope (.binary op left right) compared compared
  | .between operand low high negated =>
    let tested := operand.coders scope
    let compared := Coding.inOrder (tested.elements.map Prod.snd ++
      [Coders.pairwise tested.again (low.coders scope).elements,
       Coders.pairwise tested.again (high.coders scope).elements])
    .ofCondition scope (.between operand low high negated) compared compared
  | .among operand items negated =>
    let found := Coders.search scope operand items (operand.coders scope) (codersAll scope items)
    .ofCondition scope (.among operand items negated) found found
  | .case base branches otherwise =>
    let tested := coders? scope base
    -- What is tested is coded once, and then compared with each arm.
    let before := tested.toList.flatMap fun coders => coders.elements.map Prod.snd
    .ofValue scope (.case base branches otherwise) (Coding.inOrder (before ++
      codersArms scope (tested.map Coders.again) branches ++
      (coders? scope otherwise).toList.map Coders.value))
  | .call function arguments =>
    let body := Coders.call scope function arguments (codersAll scope arguments)
    .ofValue scope (.call function arguments)
      -- A constant call is put aside even where it stands as a value.
      ((Formula.call function arguments).movable scope body)

/-- How formulas are put into steps. -/
def codersAll (scope : Scope) : List Formula → List Coders
  | [] => []
  | first :: rest => first.coders scope :: codersAll scope rest

/-- How a formula that may be left out is put into steps. -/
def coders? (scope : Scope) : Option Formula → Option Coders
  | none => none
  | some found => some (found.coders scope)

/-- Formulas, each with its coder in a place from which a constant is put aside. -/
def elements (scope : Scope) : List Formula → List (Formula × Coder)
  | [] => []
  | first :: rest => (first, (first.coders scope).operand) :: elements scope rest

/-- The coders of the arms of a choice: condition, or comparison with what is tested, and result. -/
def codersArms (scope : Scope) (tested : Option (List (Formula × Coder))) :
    List (Formula × Formula) → List Coder
  | [] => []
  | (condition, result) :: rest =>
    let found := condition.coders scope
    let test := match tested with
      | none => found.condition
      | some before => Coders.pairwise before found.elements
    test :: (result.coders scope).value :: codersArms scope tested rest

end

/-- Comparisons whose sides are exchanged if that puts a column on the left. -/
def exchanges : BinaryOp → Bool
  | .eq | .is | .lt | .le | .gt | .ge => true
  | _ => false

/-- What a comparison meets whose sides may be exchanged: the collations of both sides. -/
def sides (scope : Scope) (left right : Formula) : Coder :=
  match right.bare with
  | .name mention =>
    if (scope.source? mention).isSome then
      -- With a column on the right, the comparison is met once more, from the other side.
      Coding.inOrder [Coding.collation (left.collationName?.or right.collationName?),
        Coding.collation (right.collationName?.or left.collationName?)]
    else id
  | _ => id

/-- What a condition, alone in a disjunction or not, meets when it is looked through for bounds. -/
def exchanged (scope : Scope) (alone : Bool) : Formula → Coder
  | .binary .and left right =>
    -- Both sides are looked through, the right one first.
    Coding.inOrder [right.exchanged scope false, left.exchanged scope false]
  | .binary .or left right =>
    Coding.inOrder [right.exchanged scope true, left.exchanged scope true]
  | .binary op left right => if exchanges op then sides scope left right else id
  | .between operand low high false =>
    -- A range in a disjunction bounds nothing, and is not looked through.
    if alone then id else Coding.inOrder [sides scope operand low, sides scope operand high]
  | _ => id

/-- Whether a condition is one test of one value. -/
def isSingle : Formula → Bool
  | .binary .or _ _ | .binary _ (.vector _) _ => false
  | _ => true

/-- The constants that a condition compares the row number with. -/
def bounds (scope : Scope) : Formula → List Formula
  | .between _ low high _ => [low, high]
  | .among _ items _ => items
  | condition => ((condition.numberTest? scope).map Prod.snd).toList

/-- Formulas as values that nothing is put aside from. -/
def fixedValues (scope : Scope) (formulas : List Formula) : Coder :=
  Coding.inOrder ((codersAll scope formulas).map fun coders => Coding.unmoved coders.value)

end Formula

end PageServer.Store
