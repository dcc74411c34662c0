import PageServer.Config
import PageServer.Endpoint
import PageServer.Web.Redirect
import PageServer.Web.Route

/-!
A program on the web: finding the endpoint of a request and sending its response.

Both are done by a framework, which is a parameter of a site. The standard one is what is known of it:
how it searches the routes, which pages it has itself, and which headers it can send. What its own pages
say is left out, and so is how a request is cut out of what comes over the wire.
-/

namespace PageServer.Web

/-- Where a request goes. -/
inductive Destination where
  | endpoint (endpoint : Endpoint) (pathVars : Fields String)
  /-- A page of the framework's own. -/
  | page (path : String)
  /-- Some route accepts the path, but none with this method. -/
  | wrongMethod
  /-- Some route accepts the path with its final slash added or removed. -/
  | otherSlash (path : String)
  | nowhere

/-- What went wrong inside a request. -/
inductive Trouble where
  | fault (fault : Fault)
  | exhausted
  /-- A header with a character beyond the first 256. -/
  | header
  /-- A number in the path that cannot be read. -/
  | numeral (fault : Text.NumeralFault)

/-- What the client gets. -/
structure Answer where
  status : Int
  location : Option String := none
  contentType : Option String := none
  body : String := ""
  trouble : Option Trouble := none

/-- The answer to a request that failed. -/
def failed (trouble : Trouble) : Answer :=
  { status := 500, contentType := some "text/plain; charset=utf-8",
    body := "Internal Server Error", trouble := some trouble }

/-- The answer that only names a status. -/
def notice (status : Int) (detail : String) : Answer :=
  { status, contentType := some "application/json",
    body := "\x7b\"detail\":\"" ++ detail ++ "\"\x7d" }

/-- What a framework does around a site. -/
structure Framework where
  /-- Finds where a request of a method and a path goes; a number in the path may not be readable. -/
  dispatch : List Endpoint → (method path : String) → Except Text.NumeralFault Destination
  /-- A page of its own. -/
  page : String → Answer
  /-- A response as the client gets it. -/
  deliver : Response → Answer

/-! The standard framework -/

/-- Whether an endpoint takes a method; one for `GET` also takes `HEAD`. -/
def takesMethod (endpoint : Endpoint) (method : String) : Bool :=
  endpoint.method == method || (endpoint.method == "GET" && method == "HEAD")

/-- The path with its final slashes removed, or with one added. -/
def toggleSlash (path : String) : String :=
  match path.toList.reverse with
  -- All final slashes go at once, and only one is ever added.
  | '/' :: rest => String.ofList (rest.dropWhile (· == '/')).reverse
  | _ => path ++ "/"

/-- Whether some endpoint's route accepts a path, under whatever method. -/
def known (path : String) : List Endpoint → Except Text.NumeralFault Bool
  | [] => .ok false
  | endpoint :: rest => do
    if (← accepts? endpoint.path.route path).isSome then return true else known path rest

/-- The first endpoint whose route accepts the path and that takes the method. -/
def firstMatch? (method path : String) :
    List Endpoint → Except Text.NumeralFault (Option (Endpoint × Fields String))
  | [] => .ok none
  | endpoint :: rest => do
    match ← accepts? endpoint.path.route path with
    | some pathVars =>
      -- A route that accepts the path under other methods does not end the search.
      if takesMethod endpoint method then return some (endpoint, pathVars)
      else firstMatch? method path rest
    | none => firstMatch? method path rest

/-- The pages that the framework has itself. -/
def ownPages : List String := ["/openapi.json", "/docs", "/docs/oauth2-redirect", "/redoc"]

/-- Whether a path is that of one of the framework's pages; a line feed may follow. -/
def isOwn (path : String) : Bool := ownPages.any fun page => path == page || path == page ++ "\n"

/-- Whether a header can be sent: each character takes one byte. -/
def sendable (header : String × String) : Bool :=
  header.1.toList.all (·.toNat < 256) && header.2.toList.all (·.toNat < 256)

namespace Framework

/-- Finds where a request goes: to a page, or else to an endpoint. -/
def standardDispatch (endpoints : List Endpoint) (method path : String) :
    Except Text.NumeralFault Destination := do
  if isOwn path && (method = "GET" || method = "HEAD") then return .page path
  match ← firstMatch? method path endpoints with
  | some (endpoint, pathVars) => return .endpoint endpoint pathVars
  | none =>
    if isOwn path || (← known path endpoints) then return .wrongMethod
    -- Without its slash the root would be no path.
    else if path = "/" then return .nowhere
    else if isOwn (toggleSlash path) || (← known (toggleSlash path) endpoints) then
      return .otherSlash (toggleSlash path)
    else return .nowhere

/-- The framework as it is known; the texts of its own pages are left out. -/
def standard : Framework where
  dispatch := standardDispatch
  page path :=
    { status := 200, contentType := some (if path.startsWith "/openapi.json" then "application/json"
        else "text/html; charset=utf-8") }
  deliver response :=
    if response.headers.all sendable then
      { status := response.status, location := response.header? "location", body := response.body }
    else failed .header

end Framework

/-! Sites -/

/-- A program: its tables and its endpoints, in declared order, and the framework around it. -/
structure Site where
  tables : List Table
  endpoints : List Endpoint
  framework : Framework := .standard

/-- Why a site cannot be opened. -/
inductive OpenFault where
  | fault (fault : Fault)
  | exhausted
  /-- The store works on a declaration without end. -/
  | unanswered
  | route (fault : RouteFault)

/-- Refuses the first route that cannot be followed. -/
def checkRoutes : List Endpoint → Except OpenFault Unit
  | [] => .ok ()
  | endpoint :: rest =>
    match steps endpoint.path.route with
    | .ok _ => checkRoutes rest
    | .error fault => .error (.route fault)

/-- Opens a site: creates its tables unless the settings say no, then checks its routes. -/
def Site.start (site : Site) (config : Config) (machine : Machine) : Except OpenFault Machine := do
  let machine ←
    if config.createTables.truthy then
      match Storage.createTables site.tables machine with
      | (.done _, after) => pure after
      | (.fault fault, _) => throw (.fault fault)
      | (.exhausted, _) => throw .exhausted
      | (.unanswered, _) => throw .unanswered
    else pure machine
  -- Tables come first, so a fault of theirs is met before one of a route.
  checkRoutes site.endpoints
  return machine

/-- A part of a submitted form. -/
inductive Part where
  | text (text : String)
  | file (content : String)
  deriving DecidableEq, Repr

/-- A request. -/
structure Request where
  method : String
  /-- The host it was sent to. -/
  host : String
  path : String
  form : Fields Part := []

/-- The texts of a form; files are left out. -/
def texts (form : Fields Part) : Fields String :=
  form.filterMap fun entry =>
    match entry.2 with
    | .text text => some (entry.1, text)
    | .file _ => none

/-- How many texts, and how many files, a form with files may have. -/
def partLimit : Nat := 1000

/-- What is wrong with the parts of a form, those before it being counted: there are too many. -/
def partsFault? (texts files : Nat) : Fields Part → Option String
  | [] => none
  | (_, .text _) :: rest =>
    if texts < partLimit then partsFault? (texts + 1) files rest
    else some ("Too many fields. Maximum number of fields is " ++ toString partLimit ++ ".")
  | (_, .file _) :: rest =>
    if files < partLimit then partsFault? texts (files + 1) rest
    else some ("Too many files. Maximum number of files is " ++ toString partLimit ++ ".")

/-- What is wrong with a form; only one with files is sent in parts, and these are counted. -/
def formFault? (form : Fields Part) : Option String :=
  if form.any fun entry => entry.2 matches .file _ then partsFault? 0 0 form else none

/-- Where a request of a method and a path goes. -/
def Site.dispatch (site : Site) (method path : String) : Except Text.NumeralFault Destination :=
  site.framework.dispatch site.endpoints method path

/-- Serves one request; there is no answer if the store never has one for it. -/
def Site.serve (site : Site) (depth : Nat) (request : Request) (machine : Machine) :
    Option Answer × Machine :=
  match site.dispatch request.method request.path with
  | .error fault => (some (failed (.numeral fault)), machine)
  | .ok (.endpoint endpoint pathVars) =>
    -- Other methods may carry a form too, but it is not read.
    let form := if request.method = "POST" then request.form else []
    -- The form is read before the endpoint is run, so a form that is refused has no effects.
    match formFault? form with
    | some detail => (some (notice 400 detail), machine)
    | none =>
      match endpoint.run depth site.tables pathVars (texts form) machine with
      | (.done response, after) => (some (site.framework.deliver response), after)
      | (.fault fault, after) => (some (failed (.fault fault)), after)
      | (.exhausted, after) => (some (failed .exhausted), after)
      | (.unanswered, after) => (none, after)
  | .ok (.page path) => (some (site.framework.page path), machine)
  | .ok .wrongMethod => (some (notice 405 "Method Not Allowed"), machine)
  | .ok (.otherSlash path) =>
    (some { status := 307, location := some (address ("http://" ++ request.host ++ path)) },
      machine)
  | .ok .nowhere => (some (notice 404 "Not Found"), machine)

/--
Serves requests in order, each on the store that the one before left.

A request that is never answered is the last one: the store stays busy with it.
-/
def Site.serveAll (site : Site) (depth : Nat) (machine : Machine) :
    List Request → List (Option Answer) × Machine
  | [] => ([], machine)
  | request :: rest =>
    match site.serve depth request machine with
    | (none, after) => ([none], after)
    | (some answer, after) =>
      let (answers, final) := site.serveAll depth after rest
      (some answer :: answers, final)

end PageServer.Web
