import PageServer.Proofs.Requests
import PageServer.Web.Site

/-!
How what endpoints compute reaches the clients.

A request that the framework hands to an endpoint is answered with what the endpoint's run ends with,
and leaves the machine as the run left it. Only a redirection to an address with wide characters is lost
on the way, since headers are sent with one byte for each character.
-/

namespace PageServer.Web

/-- A framework sends responses as they are, if their headers take one byte for each character. -/
structure Framework.Transports (framework : Framework) : Prop where
  sent : ∀ response : Response, response.headers.all sendable = true →
    framework.deliver response =
      { status := response.status, location := response.header? "location", body := response.body }
  lost : ∀ response : Response, response.headers.all sendable = false →
    framework.deliver response = failed .header

/-- The standard framework does so. -/
theorem Framework.transports_standard : standard.Transports where
  sent _ narrow := if_pos narrow
  lost _ wide := if_neg (by simp [wide])

/-- One run of an endpoint: the path variables and the form that it is run with. -/
structure Call where
  endpoint : Endpoint
  pathVars : Fields String
  form : Fields String

/-- Runs the endpoint. -/
def Call.run (call : Call) (depth : Nat) (tables : List Table) : Run Response :=
  call.endpoint.run depth tables call.pathVars call.form

/--
Runs endpoints in order, each on the machine that the one before left.

After one that waits for the store without end, nothing is run.
-/
def runAll (depth : Nat) (tables : List Table) (machine : Machine) :
    List Call → List (Outcome Response) × Machine
  | [] => ([], machine)
  | call :: rest =>
    match call.run depth tables machine with
    | (.unanswered, after) => ([.unanswered], after)
    | (outcome, after) =>
      let (outcomes, final) := runAll depth tables after rest
      (outcome :: outcomes, final)

/-- The form of a request; only a posted one is read. -/
def Request.submitted (request : Request) : Fields Part :=
  if request.method = "POST" then request.form else []

/-- The framework hands the request to an endpoint with path variables and the texts of its form. -/
structure Site.Hands (site : Site) (request : Request) (call : Call) : Prop where
  found : site.dispatch request.method request.path = .ok (.endpoint call.endpoint call.pathVars)
  /-- The form does not have too many parts. -/
  readable : formFault? request.submitted = none
  form : call.form = texts request.submitted

/-- Each character of the text takes one byte in a header. -/
def IsNarrow (text : String) : Prop := ∀ c ∈ text.toList, c.toNat < 256

/-- The address that a response redirects to. -/
def target? (response : Response) : Option String := response.headers.get? "Location"

/-- How the end of a run is answered. -/
inductive Delivered : Outcome Response → Option Answer → Prop where
  /-- A response goes out as it is, with the address that it redirects to. -/
  | sent {response : Response} {answer : Answer} :
    (∀ target, target? response = some target → IsNarrow target) →
    answer.status = response.status → answer.body = response.body →
    answer.location = target? response → Delivered (.done response) (some answer)
  /-- A response that redirects to an address with a wide character is lost. -/
  | lost {response : Response} {target : String} {answer : Answer} :
    target? response = some target → ¬ IsNarrow target →
    answer.status = 500 → answer.body = "Internal Server Error" →
    answer.location = none → Delivered (.done response) (some answer)
  /-- A run that failed is answered in the same way whatever its fault. -/
  | fault (fault : Fault) {answer : Answer} :
    answer.status = 500 → answer.body = "Internal Server Error" →
    answer.location = none → Delivered (.fault fault) (some answer)
  | exhausted {answer : Answer} :
    answer.status = 500 → answer.body = "Internal Server Error" →
    answer.location = none → Delivered .exhausted (some answer)
  /-- A run that waits without end has no answer. -/
  | unanswered : Delivered .unanswered none

/-- A redirection can be sent exactly when its address is narrow. -/
theorem sendable_location (location : String) :
    sendable ("Location", location) = true ↔ IsNarrow location := by
  -- The name of the header is narrow, so it depends on the address alone.
  have named : "Location".toList.all (·.toNat < 256) = true := by decide
  simp only [sendable, named, Bool.true_and, List.all_eq_true, decide_eq_true_eq, IsNarrow]

/-- A response that an endpoint can make is sent, or lost for its address. -/
theorem delivered_deliver {framework : Framework} (transports : framework.Transports)
    {endpoint : Endpoint} {response : Response} (made : Response.Made endpoint response) :
    Delivered (.done response) (some (framework.deliver response)) := by
  -- Only a redirection has a header.
  cases made with
  -- A page and a missing field are sent without an address.
  | page _ =>
    rw [transports.sent _ rfl]
    exact .sent (fun _ found => by cases found) rfl rfl rfl
  | missing field =>
    rw [transports.sent _ rfl]
    exact .sent (fun _ found => by cases found) rfl rfl rfl
  | elsewhere location =>
    have address : target? { status := 303, headers := [("Location", location)], body := "" } =
      some location := rfl
    by_cases narrow : IsNarrow location
    · have sent := (sendable_location location).mpr narrow
      rw [transports.sent _ (by simp [sent])]
      refine .sent (fun target found => ?_) rfl rfl ?_
      · cases address.symm.trans found
        exact narrow
      · -- The name of the header is looked for in any case.
        have named : (Text.lower "Location" == Text.lower "location") = true := by decide +kernel
        simp [address, Response.header?, named]
    · have refused : sendable ("Location", location) = false := by
        rw [Bool.eq_false_iff]
        exact fun sent => narrow ((sendable_location location).mp sent)
      rw [transports.lost _ (by simp [refused])]
      exact .lost address narrow rfl rfl rfl

variable {site : Site}

/-- A request that is handed to an endpoint is answered with what the run of the endpoint ends with. -/
theorem Site.Hands.serve {request : Request} {call : Call} (handed : site.Hands request call)
    (transports : site.framework.Transports) (depth : Nat) (machine : Machine) :
    (site.serve depth request machine).2 = (call.run depth site.tables machine).2 ∧
      Delivered (call.run depth site.tables machine).1 (site.serve depth request machine).1 := by
  -- A run that is done has a response that can be sent.
  have made := (call.endpoint.run_reaches depth site.tables call.pathVars call.form machine).2
  -- The request passes what is checked before its endpoint is run.
  have readable : formFault? (if request.method = "POST" then request.form else []) = none :=
    handed.readable
  have form : texts (if request.method = "POST" then request.form else []) = call.form :=
    handed.form.symm
  simp only [Site.serve, handed.found, readable, form, Call.run]
  -- What is delivered depends only on how the run has ended.
  generalize call.endpoint.run depth site.tables call.pathVars call.form machine = ended at made
  obtain ⟨outcome, after⟩ := ended
  cases outcome with
  | done response => exact ⟨rfl, delivered_deliver transports (made response rfl)⟩
  | fault fault => exact ⟨rfl, .fault fault rfl rfl rfl⟩
  | exhausted => exact ⟨rfl, .exhausted rfl rfl rfl⟩
  | unanswered => exact ⟨rfl, .unanswered⟩

/--
The clients get what the endpoints compute.

Serving requests one after the other leaves the machine that running their endpoints one after the other
leaves. Each response goes out with its status, its body and the address that it redirects to, unless
that address has a wide character; a run that fails, or whose response is lost, is answered by the fixed
notice of an error. A run that waits for the store without end has no answer, and is the last on both
sides.
-/
theorem serveAll_delivers (transports : site.framework.Transports) {requests : List Request}
    {calls : List Call} (handed : List.Forall₂ site.Hands requests calls) (depth : Nat)
    (machine : Machine) :
    (site.serveAll depth machine requests).2 = (runAll depth site.tables machine calls).2 ∧
      List.Forall₂ Delivered (runAll depth site.tables machine calls).1
        (site.serveAll depth machine requests).1 := by
  -- Each request starts on the machine that both sides have reached.
  induction handed generalizing machine with
  | nil => exact ⟨rfl, .nil⟩
  | @cons request call _ _ here _ ih =>
    obtain ⟨machines, delivered⟩ := here.serve transports depth machine
    -- What was sent for this request and the machine after it are the same on both sides.
    unfold Site.serveAll runAll
    generalize site.serve depth request machine = served at machines delivered
    generalize call.run depth site.tables machine = ran at machines delivered
    obtain ⟨answer, after⟩ := served
    obtain ⟨outcome, left⟩ := ran
    obtain rfl : after = left := machines
    obtain ⟨finals, others⟩ := ih after
    -- Either both sides go on, or both stop here.
    cases delivered with
    | unanswered => exact ⟨rfl, .cons .unanswered .nil⟩
    | sent narrow status body location =>
      exact ⟨finals, .cons (.sent narrow status body location) others⟩
    | lost redirected wide status body location =>
      exact ⟨finals, .cons (.lost redirected wide status body location) others⟩
    | fault fault status body location =>
      exact ⟨finals, .cons (.fault fault status body location) others⟩
    | exhausted status body location =>
      exact ⟨finals, .cons (.exhausted status body location) others⟩

/-- A visit is written down, and the visitor sent on to a place named in the path. -/
def onward : Endpoint where
  method := "GET"
  path := ⟨[.literal "to", .capture "place"]⟩
  body := .insert "visit" (.record [("place", .var "place")]) (.app (.var "redirect") (.var "place"))
  type := .primitive "response"

/-- A site with one endpoint. -/
def crossroads : Site := { tables := [], endpoints := [onward] }

/-- A machine with one table, which has no rows. -/
def unvisited : Machine where
  connection := { store := { relations := [{ name := "visit", columns := [⟨"place", .text⟩] }] } }
  clock := fun _ => 0

/-- A visitor on the way to a place. -/
def bound (place : String) : Request :=
  { method := "GET", host := "testserver", path := "/to/" ++ place }

/-- The run of the endpoint for such a visitor. -/
def visit (place : String) : Call :=
  { endpoint := onward, pathVars := [("place", place)], form := [] }

/-- A visitor is handed to the endpoint if its route accepts the path, and no own page has it. -/
theorem crossroads_hands {place : String} (apart : isOwn (bound place).path = false)
    (accepted : (accepts? onward.path.route (bound place).path).toOption =
      some (some [("place", place)])) : crossroads.Hands (bound place) (visit place) := by
  -- All but the dispatch is so by definition, and the dispatch comes down to the route.
  refine ⟨?_, rfl, rfl⟩
  have found : accepts? onward.path.route (bound place).path = .ok (some [("place", place)]) := by
    generalize accepts? onward.path.route (bound place).path = answer at accepted
    cases answer <;> simp_all [Except.toOption]
  simp only [Site.dispatch, crossroads, Framework.standard, Framework.standardDispatch, apart,
    firstMatch?, found]
  rfl

/-- Two visitors get the address that the endpoint computed, and both visits are written down. -/
theorem serveAll_delivers_home :
    List.Forall₂ Delivered (runAll 4 [] unvisited [visit "home", visit "home"]).1
        (crossroads.serveAll 4 unvisited [bound "home", bound "home"]).1 ∧
      (crossroads.serveAll 4 unvisited [bound "home", bound "home"]).2 =
        (runAll 4 [] unvisited [visit "home", visit "home"]).2 := by
  have handed : crossroads.Hands (bound "home") (visit "home") :=
    crossroads_hands (by decide +kernel) (by decide +kernel)
  -- Both calls are of the endpoint that the request is dispatched to.
  obtain ⟨machines, delivered⟩ := serveAll_delivers Framework.transports_standard
    (.cons handed (.cons handed .nil)) 4 unvisited
  exact ⟨delivered, machines⟩

/-- The response to a visitor can be lost though the visit is written down. -/
theorem serveAll_delivers_wide :
    crossroads.Hands (bound "żółw") (visit "żółw") ∧
      ((visit "żółw").run 4 [] unvisited).1.value? =
        some { status := 303, headers := [("Location", "żółw")], body := "" } ∧
      (crossroads.serve 4 (bound "żółw") unvisited).1.map Answer.status = some 500 ∧
      (crossroads.serve 4 (bound "żółw") unvisited).1.map Answer.location = some none ∧
      (crossroads.serve 4 (bound "żółw") unvisited).2.store.relations =
        [{ name := "visit", columns := [⟨"place", .text⟩], rows := [⟨1, [.text "żółw"]⟩] }] := by
  refine ⟨crossroads_hands ?_ ?_, ?_, ?_, ?_, ?_⟩ <;> decide +kernel

end PageServer.Web
