import PageServer.Store.Cell

/-! Formulas over the columns of a row, and the selections they stand in. -/

namespace PageServer.Store

/-- Operators before one operand. -/
inductive UnaryOp where
  | not
  | negate
  | plus
  | complement
  deriving DecidableEq, Repr

/-- Operators between two operands. -/
inductive BinaryOp where
  | or
  | and
  | eq
  | ne
  | is
  | isNot
  | lt
  | le
  | gt
  | ge
  | bitAnd
  | bitOr
  | shiftLeft
  | shiftRight
  | add
  | subtract
  | multiply
  | divide
  | remainder
  | concat
  /-- A member of a structured text. -/
  | extract
  deriving DecidableEq, Repr

/-- A name as it stands in a formula. -/
structure Mention where
  /-- The table it is said to belong to, with the names before it. -/
  owner : List String := []
  name : String
  /-- Whether it stands between quotes of any kind. -/
  quoted : Bool := false
  /-- Whether it stands between double quotes, and so may be a text. -/
  double : Bool := false
  deriving DecidableEq, Repr

/-- A formula. -/
inductive Formula where
  | literal (cell : Cell)
  /-- A whole number in hexadecimal that does not fit; its sign counts. -/
  | longHexadecimal (text : String)
  /-- The current date or time. -/
  | clock (word : String)
  | name (mention : Mention)
  /-- A column that another condition ties to a constant. -/
  | pinned (mention : Mention) (value : Formula)
  /-- The value supplied for a placeholder, counted from one over the whole statement. -/
  | parameter (number : Nat)
  | unary (op : UnaryOp) (operand : Formula)
  | binary (op : BinaryOp) (left right : Formula)
  /-- Whether the operand is missing, or is not. -/
  | missing (operand : Formula) (negated : Bool)
  | between (operand low high : Formula) (negated : Bool)
  | among (operand : Formula) (items : List Formula) (negated : Bool)
  | case (base : Option Formula) (arms : List (Formula × Formula)) (otherwise : Option Formula)
  | cast (operand : Formula) (type : String)
  | collate (operand : Formula) (collation : String)
  /-- A function of arguments; a star in their place is none. -/
  | call (function : String) (arguments : List Formula)
  /-- Several values as one. -/
  | vector (items : List Formula)
  /-- What only a trigger may do. -/
  | raise
  /-- A selection inside a formula. -/
  | nested

namespace Formula

/-- How many values a formula has. -/
def width : Formula → Nat
  | .vector items => items.length
  | _ => 1

mutual

/-- The parts of a formula at any depth. -/
def within : Formula → List Formula
  | .literal _ | .longHexadecimal _ | .clock _ | .name _ | .parameter _ | .raise | .nested => []
  | .pinned _ value => value :: value.within
  | .unary _ operand | .missing operand _ | .cast operand _ | .collate operand _ =>
    operand :: operand.within
  | .binary _ left right => left :: right :: (left.within ++ right.within)
  | .between operand low high _ =>
    operand :: low :: high :: (operand.within ++ low.within ++ high.within)
  | .among operand items _ => operand :: (operand.within ++ withinAll items)
  | .case base branches otherwise =>
    within? base ++ withinArms branches ++ within? otherwise
  | .call _ arguments => withinAll arguments
  | .vector items => withinAll items

/-- Formulas with their parts at any depth. -/
def withinAll : List Formula → List Formula
  | [] => []
  | first :: rest => first :: (first.within ++ withinAll rest)

/-- A formula that may be left out with its parts at any depth. -/
def within? : Option Formula → List Formula
  | none => []
  | some found => found :: found.within

/-- The formulas of the arms of a choice with their parts at any depth. -/
def withinArms : List (Formula × Formula) → List Formula
  | [] => []
  | (condition, result) :: rest =>
    condition :: result :: (condition.within ++ result.within ++ withinArms rest)

end

mutual

/--
How many levels a formula has, as they are counted against the limit.

What stands inside a collation or in a group of values does not count, nor do the bounds of a range.
-/
def levels : Formula → Nat
  | .literal _ | .longHexadecimal _ | .clock _ | .parameter _ | .raise | .nested => 1
  -- These are set apart before their levels are counted.
  | .collate _ _ | .vector _ => 1
  -- Each name before a point takes a level of its own.
  | .name mention | .pinned mention _ => mention.owner.length + 1
  | .unary _ operand | .missing operand _ | .cast operand _ => operand.levels + 1
  | .binary _ left right => max left.levels right.levels + 1
  -- A denied test has one level more, for the denial around it.
  | .between operand _ _ negated => operand.levels + (if negated then 2 else 1)
  | .among operand items negated =>
    max operand.levels (levelsAll items) + (if negated then 2 else 1)
  | .case base branches otherwise =>
    max (max (levels? base) (levelsArms branches)) (levels? otherwise) + 1
  | .call _ arguments => levelsAll arguments + 1

/-- The most levels among formulas. -/
def levelsAll : List Formula → Nat
  | [] => 0
  | first :: rest => max first.levels (levelsAll rest)

/-- The levels of a formula that may be left out. -/
def levels? : Option Formula → Nat
  | none => 0
  | some found => found.levels

/-- The most levels in the arms of a choice. -/
def levelsArms : List (Formula × Formula) → Nat
  | [] => 0
  | (condition, result) :: rest =>
    max (max condition.levels result.levels) (levelsArms rest)

end

/-- A formula and its parts at any depth. -/
def subformulas (formula : Formula) : List Formula := formula :: formula.within

mutual

/-- A formula with the parts exchanged that have a change, the outermost first. -/
def changed (change : Formula → Option Formula) (formula : Formula) : Formula :=
  -- A part that is exchanged is not looked into any more.
  match change formula with
  | some found => found
  | none =>
    match formula with
    | .unary op operand => .unary op (operand.changed change)
    | .binary op left right => .binary op (left.changed change) (right.changed change)
    | .missing operand negated => .missing (operand.changed change) negated
    | .between operand low high negated =>
      .between (operand.changed change) (low.changed change) (high.changed change) negated
    | .among operand items negated =>
      .among (operand.changed change) (changedAll change items) negated
    | .case base branches otherwise =>
      .case (changed? change base) (changedArms change branches) (changed? change otherwise)
    | .cast operand type => .cast (operand.changed change) type
    | .collate operand collation => .collate (operand.changed change) collation
    | .call function arguments => .call function (changedAll change arguments)
    | .vector items => .vector (changedAll change items)
    -- A formula without parts stays as it is, and so does a pinned column.
    | other => other

/-- Formulas with parts exchanged. -/
def changedAll (change : Formula → Option Formula) : List Formula → List Formula
  | [] => []
  | first :: rest => first.changed change :: changedAll change rest

/-- A formula that may be left out with parts exchanged. -/
def changed? (change : Formula → Option Formula) : Option Formula → Option Formula
  | none => none
  | some found => some (found.changed change)

/-- The arms of a choice with parts exchanged. -/
def changedArms (change : Formula → Option Formula) :
    List (Formula × Formula) → List (Formula × Formula)
  | [] => []
  | (condition, result) :: rest =>
    (condition.changed change, result.changed change) :: changedArms change rest

end

end Formula

/-- A term of a sort. -/
structure SortTerm where
  formula : Formula
  descending : Bool := false
  /-- Whether missing values come after all others in ascending order. -/
  missingLast : Bool := false

/-- A selection: what to give, from which table, of which rows, in which order, and how many. -/
structure Selection where
  /-- Formulas with the text they are written as. -/
  columns : List (Formula × String)
  table : String
  condition : Option Formula := none
  order : List SortTerm := []
  limit : Option Formula := none
  offset : Option Formula := none
  /-- How many placeholders there are: the highest number among them. -/
  placeholders : Nat := 0

end PageServer.Store
