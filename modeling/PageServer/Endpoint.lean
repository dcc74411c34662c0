import PageServer.Eval
import PageServer.Path
import PageServer.Text.Case

/-! Endpoints: from a request to a response. -/

namespace PageServer

/-- An endpoint: a method, a path pattern, and the expression that answers. -/
structure Endpoint where
  method : String
  path : Path.Pattern
  body : Expr
  /-- The declared type of the body. -/
  type : Ty

/-- An endpoint as declared; its method is put in upper case. -/
def Endpoint.declare (method : String) (path : Path.Pattern) (body : Expr) (type : Ty) :
    Endpoint :=
  { method := Text.upper method, path, body, type }

namespace Form

/-- The fields a form must have, if the endpoint takes one: it is posted to, and takes a record. -/
def fields? (endpoint : Endpoint) : Option (Fields Ty) :=
  if endpoint.method = "POST" then endpoint.type.argumentFields? else none

/-- The declared fields in declared order, each with its submitted text; or the first absent one. -/
def pick (submitted : Fields String) : List String → Except String (Fields Value)
  | [] => .ok []
  | name :: rest =>
    match submitted.get? name with
    | none => .error name
    | some text => do
      let others ← pick submitted rest
      return (name, .text text) :: others

/-- The record an endpoint receives: declared fields only, of repeated submissions the last. -/
def record (fields : Fields Ty) (submitted : Fields String) : Except String (Fields Value) := do
  -- Submissions are merged first, so that the last text of each name is picked.
  return Fields.ofPairs (← pick (Fields.ofPairs submitted) fields.keys)

end Form

namespace Response

/-- A value as a response: a response stands, anything else is rendered as a page. -/
def ofValue : Value → Except Fault Response
  | .response response => .ok response
  | value => do return { status := 200, body := ← Markup.render value }

/-- The response to a form that lacks a field. -/
def ofMissing (field : String) : Response :=
  { status := 400, body := "Invalid form input: " ++ Fault.missingMessage field }

/-- The first header of a name, in any case. -/
def header? (response : Response) (name : String) : Option String :=
  (response.headers.find? fun entry => Text.lower entry.1 == Text.lower name).map Prod.snd

end Response

namespace Run

/-- Starts counting functions anew: none outlives the request it was made in. -/
def renumber : Run Unit := fun machine => (.done (), { machine with made := 0 })

/-- Runs a computation and notes its fault, if it has one worth a note. -/
def reporting {α : Type} (report : Fault → Option Log.Entry) (body : Run α) : Run α :=
  fun machine =>
    match body machine with
    | (.fault fault, after) =>
      match report fault with
      | some entry => (.fault fault, { after with log := after.log ++ [entry] })
      | none => (.fault fault, after)
    -- A run that ends well, or never, passes through without a note.
    | ended => ended

end Run

namespace Endpoint

/-- The note about a request that stops: grave for what the checker should have ruled out. -/
def report (endpoint : Endpoint) (fault : Fault) : Option Log.Entry :=
  match fault.diagnostic? with
  | some diagnostic =>
    match diagnostic.severity with
    | .fatal =>
      some (.violation endpoint.method endpoint.path.text diagnostic.message diagnostic.code)
    | .error =>
      some (.failure endpoint.method endpoint.path.text diagnostic.message diagnostic.code)
    -- What a user sent is noted where it is answered.
    | .user => none
  | none => none

/-- Evaluates the body, hands it the form if it takes one, and renders the result. -/
def answer (depth : Nat) (tables : List Table) (endpoint : Endpoint)
    (pathVars form : Fields String) : Run Response := do
  -- The body comes before the form, so its effects stay even if a field is missing.
  let value ← eval depth (Library.environment tables pathVars) endpoint.body
  match Form.fields? endpoint with
  | none => Run.lift (Response.ofValue value)
  | some fields =>
    match Form.record fields form with
    | .error missing => do
      Run.note (.badForm endpoint.method endpoint.path.text (Fault.missingMessage missing))
      return Response.ofMissing missing
    | .ok record => do
      let value ← apply depth value (.record record)
      Run.lift (Response.ofValue value)

/-- Serves one request. -/
def run (depth : Nat) (tables : List Table) (endpoint : Endpoint)
    (pathVars form : Fields String) : Run Response := do
  Run.renumber
  Run.note (.dispatch endpoint.method endpoint.path.text (Fields.ofPairs pathVars))
  Run.reporting endpoint.report (endpoint.answer depth tables pathVars form)

end Endpoint

end PageServer
