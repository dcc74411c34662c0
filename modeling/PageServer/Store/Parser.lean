import PageServer.Store.Literal

/-! Reading formulas and selections from tokens. -/

namespace PageServer.Store

namespace Parse

/-- How tightly operators bind; a formula is read up to the first one that binds less. -/
def binaryLevel : List (String × Nat × BinaryOp) :=
  [("=", 4, .eq), ("==", 4, .eq), ("<>", 4, .ne), ("!=", 4, .ne), ("<", 5, .lt), ("<=", 5, .le),
   (">", 5, .gt), (">=", 5, .ge), ("&", 7, .bitAnd), ("|", 7, .bitOr), ("<<", 7, .shiftLeft),
   (">>", 7, .shiftRight), ("+", 8, .add), ("-", 8, .subtract), ("*", 9, .multiply),
   ("/", 9, .divide), ("%", 9, .remainder), ("||", 10, .concat), ("->", 10, .extract),
   ("->>", 10, .extract)]

/-- The words between an operand and a pattern. -/
def patternWords : List String := ["like", "glob", "regexp", "match"]

/-- The word between an operand and a pattern that is next. -/
def patternWord? : Parse (Option String) := do
  match ← peek with
  | some token => return if patternWords.any token.isWord then some token.text else none
  | none => return none

/-- Whether a selection starts here, inside parentheses. -/
def atSelection : Parse Bool := do
  return (← atWord "select") || (← atWord "values") || (← atWord "with")

/-- Refuses a selection inside a formula, at the token where it goes wrong if it does. -/
def nestedSelection : Parse Formula := do
  -- Only the start is read: enough to tell a fault of writing from a question for an engine.
  if ← takeWord "values" then
    expectSymbol "("
  else if ← takeWord "with" then
    let _ ← takeWord "recursive"
    let _ ← name
  else
    skip
    match ← peek with
    | some token =>
      -- A column of the inner selection would have to start here.
      let starts := (nameOf? token).isSome || (literal? token).isSome ||
        ["(", "*", "-", "+", "~"].any token.isSymbol || token.kind = .placeholder ||
        ["not", "case", "exists", "distinct", "all"].any token.isWord
      if !starts then refuse
    | none => refuse
  throw (.unsupported "a selection inside a formula")

/-- Whether what follows a call says which rows the function is about. -/
def atFrame : Parse Bool := do
  match (← get).tokens with
  | first :: second :: _ =>
    -- Each of the two words is a name, out of place here, unless it goes on like this.
    return (first.isWord "filter" && second.isSymbol "(") ||
      (first.isWord "over" && (second.isSymbol "(" || (nameOf? second).isSome))
  | _ => return false

/-- Whether named windows follow; the word alone is a name. -/
def atWindows : Parse Bool := do
  match (← get).tokens with
  | first :: second :: third :: _ =>
    return first.isWord "window" && (nameOf? second).isSome && third.isWord "as"
  | _ => return false

/-- The words of a type after the first. -/
def typeWords : Nat → Parse (List String)
  | 0 => return []
  | fuel + 1 => do
    match (← peek).bind idOf? with
    | some word => do
      joined skip
      return word :: (← typeWords fuel)
    | none => return []

/-- A number with its sign, as the size of a type. -/
def typeSize : Parse Unit := do
  if !(← takeSymbol "-") then
    -- A number has one sign at most.
    let _ ← takeSymbol "+"
  match ← peek with
  | some token => if token.kind = .integer || token.kind = .float then skip else refuse
  | none => refuse

/-- The type of a conversion: words, and sizes in parentheses that count for nothing. -/
def typeName : Parse String := do
  match (← peek).bind idOf? with
  -- Without a word the type is empty, but the place for it is kept in mind.
  | none => do
    keep
    return ""
  | some first => do
    skip
    let words ← typeWords (← get).tokens.length
    if ← takeSymbol "(" then
      asOne typeSize
      if ← takeSymbol "," then asOne typeSize
      expectSymbol ")"
    return " ".intercalate (first :: words)

/-- Whether a formula mentions no name, calls no function and so has one value for all rows. -/
def isFixed : Formula → Bool
  | .literal _ | .parameter _ => true
  | .unary _ operand | .cast operand _ | .collate operand _ => isFixed operand
  | .binary _ left right => isFixed left && isFixed right
  | _ => false

/--
A test of membership in a list.

In no list is anything, whatever it is; in a list of one fixed value it is a comparison.
-/
def amongItems (left : Formula) (items : List Formula) (negated : Bool) : Formula :=
  match items with
  | [] => .literal (.int (if negated then 1 else 0))
  | [single] =>
    if isFixed single && !(left matches .vector _) then
      -- The plus takes away what the value would otherwise bring into the comparison.
      let test := Formula.binary .eq left (.unary .plus single)
      if negated then .unary .not test else test
    else .among left items negated
  | _ => .among left items negated

/-- Notes a group of another size among those that several values are looked for in. -/
def noteWidths (left : Formula) (items : List Formula) : Parse Unit := do
  match left with
  | .vector parts =>
    match items.find? fun item => item.width != parts.length with
    | some item => note (.elementWidth item.width parts.length)
    | none => return
  | _ => return

/-- The most arguments of a function. -/
def argumentLimit : Nat := 127

/-- The most levels of a formula. -/
def levelLimit : Nat := 1000

/-- A formula that has been read; one of too many levels is noted. -/
def checked (formula : Formula) : Parse Formula := do
  if formula.levels > levelLimit then note .deepFormula
  return formula

/-- Two conditions that must both hold; a literal zero makes the whole a zero. -/
def conjunction (left right : Formula) : Formula :=
  match left, right with
  -- The zero replaces even a part that has a fault, which nobody then sees.
  | .literal (.int 0), _ | _, .literal (.int 0) => .literal (.int 0)
  | _, _ => .binary .and left right

/-- What a trigger may raise, from after the opening parenthesis. -/
def raising : Parse Formula := do
  if !(← takeWord "ignore") then
    if !((← takeWord "rollback") || (← takeWord "abort") || (← takeWord "fail")) then refuse
    expectSymbol ","
    let _ ← name
  expectSymbol ")"
  return .raise

mutual

/-- Reads a formula whose operators bind at least as tightly as a level. -/
def formula (level : Nat) : Nat → Parse Formula
  | 0 => throw .incomplete
  | fuel + 1 => do
    -- An operand is kept in mind as one part, however long it was.
    let first ← asOne (operand fuel)
    operators level false (← checked first) fuel

/-- Reads the operators that follow a formula; inside `BETWEEN` a bare `AND` is not one of them. -/
def operators (level : Nat) (inBetween : Bool) (left : Formula) : Nat → Parse Formula
  | 0 => throw .incomplete
  | fuel + 1 => do
    match ← peek with
    | none => return left
    | some token =>
      match ← joined (operation? level inBetween left token fuel) with
      | some next => operators level inBetween (← checked next) fuel
      | none => return left

/-- The formula that an operator makes of its left side, if it binds as tightly as a level. -/
def operation? (level : Nat) (inBetween : Bool) (left : Formula) (token : Token) :
    Nat → Parse (Option Formula)
  | 0 => throw .incomplete
  | fuel + 1 => do
    match binaryLevel.find? fun entry => token.isSymbol entry.1 with
    | some (_, at_, op) =>
      -- Operators of one level go from left to right, so the right side binds more tightly.
      if at_ < level then return none
      else do
        skip
        return some (.binary op left (← formula (at_ + 1) fuel))
    | none =>
      -- Words follow in the order of their levels; `AND` may be the end of a range.
      if token.isWord "or" && level ≤ 1 then do
        skip
        return some (.binary .or left (← formula 2 fuel))
      else if token.isWord "and" && level ≤ 2 && !inBetween then do
        skip
        return some (conjunction left (← formula 3 fuel))
      else if token.isWord "not" && level ≤ 3 then do
        skip
        return some (← negatedTest left fuel)
      -- A collation binds more tightly than any symbol between two operands.
      else if token.isWord "collate" && level ≤ 11 then do
        skip
        return some (.collate left (← id))
      -- The tests that are spelled as words bind as equality does.
      else if level ≤ 4 then test? left token fuel
      else return none

/-- The test that starts with a word after its operand, if that word starts one. -/
def test? (left : Formula) (token : Token) : Nat → Parse (Option Formula)
  | 0 => throw .incomplete
  | fuel + 1 => do
    if token.isWord "isnull" then
      skip
      return some (.missing left false)
    else if token.isWord "notnull" then
      skip
      return some (.missing left true)
    else if token.isWord "is" then
      skip
      return some (← identity left fuel)
    else if token.isWord "between" then
      skip
      return some (← range left false fuel)
    else if token.isWord "in" then
      skip
      return some (← membership left false fuel)
    else if patternWords.any token.isWord then
      skip
      return some (← pattern left token.text fuel)
    else return none

/-- The test after `NOT` between an operand and the rest. -/
def negatedTest (left : Formula) : Nat → Parse Formula
  | 0 => throw .incomplete
  | fuel + 1 => do
    -- Only some tests can be denied in the middle; any other word is out of place.
    if ← takeWord "null" then return .missing left true
    else if ← joined (takeWord "between") then range left true fuel
    else if ← joined (takeWord "in") then membership left true fuel
    else
      match ← patternWord? with
      -- A pattern has no denied form, so the whole test is denied.
      | some word => do
        joined skip
        return .unary .not (← pattern left word fuel)
      | none => refuse

/-- The rest of a test after `IS`: against nothing it asks whether the operand is missing. -/
def identity (left : Formula) : Nat → Parse Formula
  | 0 => throw .incomplete
  | fuel + 1 => do
    let negated ← takeWord "not"
    let distinct ← takeWord "distinct"
    if distinct then expectWord "from"
    let right ← formula 5 fuel
    -- Two denials in one test cancel each other.
    let differs := negated != distinct
    match right with
    | .literal .null => return .missing left differs
    | _ => return .binary (if differs then .isNot else .is) left right

/-- The rest of a test after `BETWEEN`. -/
def range (left : Formula) (negated : Bool) : Nat → Parse Formula
  | 0 => throw .incomplete
  | fuel + 1 => do
    let first ← asOne (operand fuel)
    -- The lower bound may have any operator but the word that ends it.
    let low ← operators 0 true (← checked first) fuel
    expectWord "and"
    -- The upper bound ends before anything that binds like a comparison.
    let high ← formula 5 fuel
    return .between left low high negated

/-- The rest of a test after `IN`. -/
def membership (left : Formula) (negated : Bool) : Nat → Parse Formula
  | 0 => throw .incomplete
  | fuel + 1 => do
    if ← takeSymbol "(" then
      if ← atSelection then nestedSelection
      else
        let items ← items fuel
        expectSymbol ")"
        noteWidths left items
        return amongItems left items negated
    else
      -- A table in the place of a list is not looked into.
      let _ ← name
      throw (.unsupported "membership in a table")

/-- The rest of a test against a pattern. -/
def pattern (left : Formula) (word : String) : Nat → Parse Formula
  | 0 => throw .incomplete
  | fuel + 1 => do
    let right ← formula 5 fuel
    if ← takeWord "escape" then
      -- The word becomes the function of its name, with the mark as a third argument.
      let mark ← formula 5 fuel
      return .call word [right, left, mark]
    else return .call word [right, left]

/-- Formulas between commas, from the first comma on. -/
def further : Nat → Parse (List Formula)
  | 0 => throw .incomplete
  | fuel + 1 => do
    if ← atSymbol "," then
      let next ← joined do
        skip
        formula 0 fuel
      return next :: (← further fuel)
    else return []

/-- Formulas between commas up to a closing parenthesis, perhaps none. -/
def items : Nat → Parse (List Formula)
  | 0 => throw .incomplete
  | fuel + 1 => do
    if ← atSymbol ")" then
      keep
      return []
    else
      let first ← formula 0 fuel
      return first :: (← further fuel)

/-- An arm of a choice: a condition and a result. -/
def arm : Nat → Parse (Formula × Formula)
  | 0 => throw .incomplete
  | fuel + 1 => do
    expectWord "when"
    let condition ← formula 0 fuel
    expectWord "then"
    return (condition, ← formula 0 fuel)

/-- The arms of a choice after the first. -/
def arms : Nat → Parse (List (Formula × Formula))
  | 0 => throw .incomplete
  | fuel + 1 => do
    if ← atWord "when" then
      let next ← joined (arm fuel)
      return next :: (← arms fuel)
    else return []

/-- The rest of a choice after `CASE`. -/
def choice : Nat → Parse Formula
  | 0 => throw .incomplete
  | fuel + 1 => do
    -- With a base the arms give values to compare it with, without one they give conditions.
    let base ← asOne do
      if ← atWord "when" then
        keep
        return none
      else return some (← formula 0 fuel)
    let first ← asOne (arm fuel)
    let others ← arms fuel
    let otherwise ← asOne do
      if ← takeWord "else" then return some (← formula 0 fuel)
      else
        keep
        return none
    expectWord "end"
    return .case base (first :: others) otherwise

/-- The arguments of a function after its opening parenthesis. -/
def arguments : Nat → Parse (List Formula)
  | 0 => throw .incomplete
  | fuel + 1 => do
    -- A star counts for no argument at all.
    if ← takeSymbol "*" then
      expectSymbol ")"
      return []
    else
      if !((← takeWord "distinct") || (← takeWord "all")) then keep
      let found ← items fuel
      expectSymbol ")"
      return found

/-- The formula between parentheses, from after the opening one. -/
def enclosed : Nat → Parse Formula
  | 0 => throw .incomplete
  | fuel + 1 => do
    if ← atSelection then nestedSelection
    else
      let first ← formula 0 fuel
      match ← further fuel with
      | [] => do
        expectSymbol ")"
        return first
      | others => do
        -- The last value is kept apart from the others, with the comma between them.
        keep
        keep
        expectSymbol ")"
        return .vector (first :: others)

/-- The formula that starts with a name: a column, or a function. -/
def named (token : Token) : Nat → Parse Formula
  | 0 => throw .incomplete
  | fuel + 1 => do
    let first := (nameOf? token).getD token.text
    -- What is not a column may still be a text, if its quotes allow it.
    let (quoted, double) := match token.kind with
      | .quotedName _ double => (true, double)
      | .string _ => (true, false)
      | _ => (false, false)
    if ← takeSymbol "." then
      -- After a point a name is nothing but a column.
      let second ← name
      if ← takeSymbol "." then
        let third ← name
        return .name { owner := [first, second], name := third, quoted := true }
      else return .name { owner := [first], name := second, quoted := true }
    -- A text before a point was a name; without one it is what it is.
    else if token.kind matches .string _ then return .literal (.text first)
    else if ← takeSymbol "(" then
      let given ← arguments fuel
      if ← atFrame then throw (.unsupported "a function over a window")
      if given.length > argumentLimit then note (.manyArguments token.text)
      return .call first given
    else return .name { name := first, quoted, double }

/-- Reads a formula up to its first operator. -/
def operand : Nat → Parse Formula
  | 0 => throw .incomplete
  | fuel + 1 => do
    match ← peek with
    | none => throw .incomplete
    | some token =>
      if token.isSymbol "(" then
        skip
        enclosed fuel
      else if token.isSymbol "-" then
        skip
        negation fuel
      else if token.isSymbol "+" then
        skip
        -- Nothing between two operands binds as tightly as a sign before one.
        return .unary .plus (← formula 12 fuel)
      else if token.isSymbol "~" then
        skip
        return .unary .complement (← formula 12 fuel)
      else if token.isWord "not" then
        skip
        -- A denial reaches over comparisons, up to the next `AND`.
        return .unary .not (← formula 3 fuel)
      else if token.isWord "case" then
        skip
        choice fuel
      else if token.isWord "cast" then
        skip
        expectSymbol "("
        let found ← formula 0 fuel
        expectWord "as"
        let type ← asOne typeName
        expectSymbol ")"
        return .cast found type
      else if token.isWord "exists" then
        skip
        expectSymbol "("
        if ← atSelection then nestedSelection else refuse
      else if token.isWord "raise" then
        skip
        expectSymbol "("
        raising
      else
        match token.kind, literal? token with
        | .string _, _ => do
          skip
          named token fuel
        | .placeholder, _ => do
          skip
          return .parameter (← placeholder token.text)
        | _, some found => do
          skip
          return found
        | _, none =>
          if (nameOf? token).isSome then do
            skip
            named token fuel
          else refuse

/-- The rest of a formula after a minus sign. -/
def negation : Nat → Parse Formula
  | 0 => throw .incomplete
  | fuel + 1 => do
    match ← peek with
    | some token =>
      -- The sign belongs to the numeral: the lowest number has no positive counterpart.
      if token.kind = .integer then do
        skip
        match integer true token.text with
        -- A zero has no sign as a whole number, so its sign stays an operation.
        | .literal (.int 0) => return .unary .negate (.literal (.int 0))
        | negative => return negative
      else return .unary .negate (← formula 12 fuel)
    | none => throw .incomplete

end

/-- Enough steps to read what is left; no token takes more than four. -/
def steps : Parse Nat := do return 4 * (← get).tokens.length + 4

/-- The columns that a selection gives, each with the text it is written as. -/
def columns : Nat → Parse (List (Formula × String))
  | 0 => throw .incomplete
  | fuel + 1 => do
    let before := (← get).tokens
    let found ← joined do formula 0 (← steps)
    -- A column without a name of its own goes by what is written.
    -- What has been read is what the tokens before have more than those after.
    let taken := before.take (before.length - (← get).tokens.length)
    let text := String.join (taken.map Token.text)
    if ← joined (takeSymbol ",") then return (found, text) :: (← columns fuel)
    else return [(found, text)]

/-- Where missing values are to come, if it is said: last, or not. -/
def missingPlace : Parse (Option Bool) := do
  if ← takeWord "nulls" then
    if ← takeWord "first" then return some false
    else
      expectWord "last"
      return some true
  else return none

/-- A term of a sort. -/
def sortTerm : Parse SortTerm := do
  let found ← formula 0 (← steps)
  let descending ← if ← takeWord "desc" then pure true else do
    let _ ← takeWord "asc"
    pure false
  let place ← missingPlace
  -- The place is said of the result, and is kept for the order before it is turned around.
  return { formula := found, descending, missingLast := place.any (· != descending) }

/-- The terms of a sort after the first. -/
def sortTerms : Nat → Parse (List SortTerm)
  | 0 => throw .incomplete
  | fuel + 1 => do
    if ← atSymbol "," then
      let next ← joined do
        skip
        sortTerm
      return next :: (← sortTerms fuel)
    else return []

/-- The end of a statement: a semicolon, or nothing more. -/
def finish : Parse Unit := do
  if !(← takeSymbol ";") then
    if (← peek).isSome then refuse else settle

/-- Reads a selection, from its first word to its end. -/
def selection : Parse Selection := do
  let fuel ← steps
  expectWord "select"
  if !(← takeWord "distinct") then
    let _ ← takeWord "all"
  let columns ← columns fuel
  expectWord "from"
  let table ← name
  -- How much is kept in mind after each clause does not depend on what stands in it.
  keeping 4
  let condition ← if ← takeWord "where" then do pure (some (← formula 0 fuel)) else pure none
  if (← atWord "group") || (← atWord "having") || (← atWord "union") || (← atWord "except") ||
      (← atWord "intersect") then
    throw (.unsupported "groups and joined selections")
  if ← atWindows then throw (.unsupported "windows")
  keeping 7
  let order ← if ← takeWord "order" then do
      expectWord "by"
      let first ← asOne sortTerm
      pure (first :: (← sortTerms fuel))
    else pure []
  keeping 8
  let (limit, offset) ← if ← takeWord "limit" then do
      let first ← formula 0 fuel
      -- A limit alone leaves out no rows at the start.
      if ← takeWord "offset" then pure (some first, some (← formula 0 fuel))
      -- With a comma the order is the other way round: the offset comes first.
      else if ← takeSymbol "," then pure (some (← formula 0 fuel), some first)
      else pure (some first, none)
    else pure (none, none)
  finish
  return { columns, table, condition, order, limit, offset, placeholders := (← get).highest }

end Parse

/-- The selection that tokens spell. -/
def Selection.ofTokens (tokens : List Token) : Except Fault Selection := do
  let (found, _) ← Parse.selection.run { tokens }
  return found

end PageServer.Store
