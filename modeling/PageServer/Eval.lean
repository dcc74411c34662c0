import PageServer.Equality
import PageServer.Library
import PageServer.Markup
import PageServer.Storage

/-!
Evaluating expressions.

How many nodes within nodes evaluation may go to is given to it. A limit of the machinery on calls within
calls, in evaluating, rendering or comparing, is left out.
-/

namespace PageServer

namespace Eval

/-- A literal as a value. -/
def literal : Literal → Except Fault Value
  | .text text => .ok (.text text)
  | .int n => .ok (.int n)
  | .bool value => .ok (.bool value)
  | .unsupported kind => .error (.wrongKind "literal" "string, int or bool literal" kind)

/-- The quotient of two whole numbers, cut toward zero. -/
def divide (a b : Int) : Except Fault Int :=
  if b = 0 then .error .divisionByZero else .ok (a.tdiv b)

/-- Combines two whole numbers, the left one read first. -/
def arithmetic (site : String) (left right : Value) (combine : Int → Int → Except Fault Int) :
    Except Fault Value := do
  let a ← left.asInt site
  let b ← right.asInt site
  return .int (← combine a b)

/-- Combines two truth values, the left one read first. -/
def logic (site : String) (left right : Value) (combine : Bool → Bool → Bool) :
    Except Fault Value := do
  let a ← left.asBool site
  let b ← right.asBool site
  return .bool (combine a b)

/-- Tests the order of two values. -/
def ordered (left right : Value) (accept : Ordering → Bool) : Except Fault Value := do
  return .bool (accept (← left.order right))

/-- The value of an operator at two values. -/
def operate (operator : Operator) (left right : Value) : Except Fault Value :=
  let site := "operator '" ++ operator.symbol ++ "'"
  match operator with
  | .eq => do return .bool (← left.equal right)
  | .ne => do return .bool (!(← left.equal right))
  | .plus => arithmetic site left right fun a b => .ok (a + b)
  | .minus => arithmetic site left right fun a b => .ok (a - b)
  | .times => arithmetic site left right fun a b => .ok (a * b)
  | .divide => arithmetic site left right divide
  | .lt => ordered left right (· == .lt)
  | .gt => ordered left right (· == .gt)
  | .le => ordered left right (· != .gt)
  | .ge => ordered left right (· != .lt)
  | .and => logic site left right (· && ·)
  | .or => logic site left right (· || ·)

/-- The field of a record value. -/
def field (name : String) (value : Value) : Except Fault Value := do
  let fields ← value.asRecord "field access"
  match fields.get? name with
  | some held => return held
  | none => throw (.missingField name)

/-- A response that sends the client to the text of a value. -/
def redirect (target : Value) : Except Fault Value := do
  let location ← target.asText "redirect"
  return .response { status := 303, headers := [("Location", location)], body := "" }

/-- Evaluation of an expression in a scope. -/
abbrev Evaluator := Environment → Expr → Run Value

/-- Applies a function or an element to an argument, function bodies being left to `recur`. -/
def applyWith (recur : Evaluator) (function argument : Value) : Run Value :=
  match function with
  | .tag name =>
    -- A record gives attributes, and the element goes on waiting; anything else is its body.
    match argument with
    | .record fields => pure (.tagWith name fields)
    | other => Run.lift do
      let body ← Markup.render other
      return .raw (← Markup.element name body [])
  | .tagWith name fields => Run.lift do
    let body ← Markup.render argument
    return .raw (← Markup.element name body fields)
  -- The body sees the scope that the function was made in, not that of the call.
  | .closure _ scope param body => recur (Environment.bind scope param argument) body
  | .builtin .redirect => Run.lift (redirect argument)
  | other => Run.fail (.notApplicable other.kind)

/-- The value of a name; a deferred computation runs. -/
def variableValue (env : Environment) (name : String) : Run Value :=
  match env.lookup? name with
  | none => Run.fail (.unbound name)
  -- The clock is read at each mention, so two mentions may differ.
  | some (.deferred .now) => do return .int (← Run.tick)
  | some value => pure value

/-- Evaluates one node, its parts left to `recur`: function before argument, left before right. -/
def step (recur : Evaluator) (env : Environment) : Expr → Run Value
  | .literal given => Run.lift (literal given)
  | .var name => variableValue env name
  | .app function argument => do
    let function ← recur env function
    let argument ← recur env argument
    applyWith recur function argument
  | .abs param body => do return .closure (← Run.freshIdentity) env param body
  | .list elements => do return .list (← Run.each (recur env) elements)
  | .record fields => do
    -- The expressions of a repeated name are all evaluated, and the last value is kept.
    let pairs ← Run.each (fun entry => do return (entry.1, ← recur env entry.2)) fields
    return .recordOf pairs
  | .dot record name => do Run.lift (field name (← recur env record))
  | .op operator left right => do
    let left ← recur env left
    -- The right operand is evaluated even where the left one settles the answer.
    let right ← recur env right
    Run.lift (operate operator left right)
  | .forEach query arguments body => do
    let arguments ← Run.each (recur env) arguments
    -- The rows are all there before the body runs, which does not see what it inserts itself.
    let rows ← Storage.select query arguments
    let results ← Run.each (fun row => do
      let bindings ← Run.lift (Storage.decodeRow query row)
      recur (env.extend bindings) body) rows
    return .list results
  | .insert table value next => do
    let fields ← Run.lift ((← recur env value).asRecord "insert")
    Storage.insert table fields
    -- An insertion binds nothing: what comes next is evaluated in the same scope.
    recur env next
  | .hole kind => Run.fail (.wrongKind "evaluation" "expression" kind)

end Eval

/-- Evaluates an expression to at most the given depth of nodes within nodes. -/
def eval : Nat → Eval.Evaluator
  | 0, _, _ => Run.exhausted
  | depth + 1, env, expr => Eval.step (eval depth) env expr

/-- Applies one value to another, evaluating bodies to at most the given depth. -/
def apply (depth : Nat) (function argument : Value) : Run Value :=
  Eval.applyWith (eval depth) function argument

end PageServer
