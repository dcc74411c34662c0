import PageServer.Proofs.Locality

/-!
Requests that do not use what the other one writes can be served in either order.

Main statement: in both orders, each request has the same outcome and the tables have the same rows.
A number that does not fit is the exception: where a request binds one, what is said of it is the
fault that is pending on the connection. Row numbers have to stay within 64 bits, since beyond them a
store draws numbers at random.
-/

namespace PageServer

open Store (Apart)

/--
The faults with which a request ends on two machines, where at most these faults of the store are
pending: the same, unless it has bound a number that does not fit on both.
-/
def Fault.Agree (one other : Option Store.Fault) (first second : Fault) : Prop :=
  first = second ∨ ∃ here there, first = .store (.tooWide here) ∧ second = .store (.tooWide there) ∧
    (∀ fault ∈ here, fault ∈ one) ∧ ∀ fault ∈ there, fault ∈ other

/--
Two machines that serve one request: their stores differ in tables of the names, they have some of the
engines, and at most these faults are pending.
-/
structure Machine.Beside (names : List String) (engines : Nat → Store.Engine)
    (one other : Option Store.Fault) (a b : Machine) : Prop where
  /-- So the next function has the same identity on both. -/
  made : a.made = b.made
  grown : a.store.GrowsAmong names b.store
  drawn : a.DrawsFrom engines
  alsoDrawn : b.DrawsFrom engines
  pending : ∀ fault ∈ a.connection.failed, fault ∈ one
  alsoPending : ∀ fault ∈ b.connection.failed, fault ∈ other

/-- One request on two machines beside each other, neither of which waits without end. -/
def Lockstep.beside (names : List String) (engines : Nat → Store.Engine)
    (one other : Option Store.Fault) : Lockstep where
  running := Machine.Beside names engines one other
  faulted first a second b := a.store.GrowsAmong names b.store ∧ Fault.Agree one other first second
  exhausted a b := a.store.GrowsAmong names b.store
  unanswered _ _ := False
  faulted_of_running together _ := ⟨together.grown, Or.inl rfl⟩
  exhausted_of_running together := together.grown

namespace Lockstep

variable {names : List String} {engines : Nat → Store.Engine} {one other : Option Store.Fault}

/-- A statement that is prepared alike keeps the machines beside each other. -/
theorem beside_statement {α : Type} (text : String)
    {prepare : Store.Engine → Store → Except Store.Fault (Store.Prepared α)}
    (alike : ∀ (a b : Store) (here there : Nat), a.GrowsAmong names b →
      Store.PreparedAlike (Store.GrowsAmong names) (prepare (engines here) a)
        (prepare (engines there) b)) :
    (beside names engines one other).Keeps (fun _ => True) (Run.statement text prepare) := by
  intro a b together
  obtain ⟨here, left⟩ := together.drawn 0
  obtain ⟨there, right⟩ := together.alsoDrawn 0
  -- What is pending on each side is at most what was pending when the request came.
  have agree := Store.Connection.run_agree text together.grown
    (alike a.store b.store here there together.grown)
  have wide := agree.mono together.pending together.alsoPending
  unfold Run.statement
  rw [left, right]
  generalize a.connection.run text (prepare (engines here)) = first at wide
  generalize b.connection.run text (prepare (engines there)) = second at wide
  cases wide with
  | answer answer still none none' =>
    -- Each machine has one engine less.
    exact .done trivial
      { made := together.made
        grown := still
        drawn := (Machine.DrawsFrom.of_later rfl).trans together.drawn
        alsoDrawn := (Machine.DrawsFrom.of_later rfl).trans together.alsoDrawn
        pending := by simp [none]
        alsoPending := by simp [none'] }
  -- A refusal says whether a number was too wide, and then what was pending on each side.
  | refused still refusals =>
    refine .fault ⟨still, refusals.imp (congrArg Fault.store) ?_⟩
    rintro ⟨told, alsoTold, rfl, rfl, known, alsoKnown⟩
    exact ⟨told, alsoTold, rfl, rfl, known, alsoKnown⟩

/-- A note keeps the machines beside each other. -/
theorem beside_note (entry : Log.Entry) :
    (beside names engines one other).Keeps (fun _ => True) (Run.note entry) :=
  -- A log is no part of what is compared.
  fun _ _ together => .done trivial { together with }

end Lockstep

/--
What an endpoint does is not disturbed by rows that are added under the names, with any of the engines
to answer what is left to them.
-/
structure Endpoint.Undisturbed (endpoint : Endpoint) (engines : Nat → Store.Engine)
    (names : List String) : Prop where
  /-- The body does not mention the clock. -/
  timeless : .var "now" ∉ endpoint.body.nodes
  /-- Each query is answered. -/
  answered : ∀ query ∈ endpoint.body.queries, query.IsAnswered engines
  /-- It is answered from the table it names alone. -/
  near : ∀ query ∈ endpoint.body.queries, query.IsLocal engines
  reads : ∀ query ∈ endpoint.body.queries, Apart (Store.bareName query.table) names
  writes : ∀ target ∈ endpoint.body.targets, Apart (Store.bareName target) names

/-- Queries that are settled, on tables of none of the names, leave an endpoint undisturbed. -/
theorem Endpoint.Undisturbed.of_settled {endpoint : Endpoint} {names : List String}
    (engines : Nat → Store.Engine) (timeless : .var "now" ∉ endpoint.body.nodes)
    (queries : ∀ query ∈ endpoint.body.queries,
      query.IsSettled ∧ Apart (Store.bareName query.table) names)
    (targets : ∀ target ∈ endpoint.body.targets, Apart (Store.bareName target) names) :
    endpoint.Undisturbed engines names where
  timeless := timeless
  answered query asked := (queries query asked).1.isLaidDown.isAnswered engines
  near query asked := (queries query asked).1.isLocal engines
  reads query asked := (queries query asked).2
  writes := targets

/-- The operations of a request that is not disturbed keep the machines beside each other. -/
theorem Lockstep.beside_serves {endpoint : Endpoint} {names : List String}
    {engines : Nat → Store.Engine} {one other : Option Store.Fault}
    (undisturbed : endpoint.Undisturbed engines names) :
    (beside names engines one other).Serves endpoint where
  -- The clocks may differ, but the body does not ask for the time.
  tick mentioned := absurd mentioned undisturbed.timeless
  freshIdentity := by
    intro a b together
    -- Both machines have made as many functions, so the next one gets the same number.
    have next : Machine.Beside names engines one other (Run.freshIdentity a).2
        (Run.freshIdentity b).2 := { together with made := congrArg (· + 1) together.made }
    unfold Run.freshIdentity at next ⊢
    rw [together.made] at next ⊢
    exact .done trivial next
  note entry _ := beside_note entry
  select query asked arguments := by
    -- A query that is not written out fails before anything is run.
    rcases Storage.select_cases query arguments with ⟨fault, same⟩ |
      ⟨sql, tail, parameters, _, followed, same⟩
    · rw [same]
      exact keeps_fail fault
    · rw [same]
      -- A noted statement is one more entry on both logs, which nobody reads.
      apply (beside_note _).andThen
      intro _ _
      apply beside_statement
      intro a b here there grown
      exact Store.prepareSelect_alike (undisturbed.near query asked)
        (undisturbed.answered query asked) followed (undisturbed.reads query asked) parameters
        grown here there
  insert table named fields _ := by
    -- The same goes for an insertion; the table it writes to is the same in both stores.
    rcases Storage.insert_cases table fields with ⟨fault, same⟩ | ⟨sql, supplied, _, same⟩
    · rw [same]
      exact keeps_fail fault
    · rw [same]
      apply (beside_note _).andThen
      intro _ _
      apply beside_statement
      intro a b here there grown
      exact Store.prepareInsert_alike (undisturbed.writes table named) _ supplied grown

/--
The outcomes of one request on two machines: the same, except for what is said of a number that does
not fit. Neither waits without end.
-/
inductive Outcome.Agree {α : Type} (one other : Option Store.Fault) :
    Outcome α → Outcome α → Prop where
  | done (value : α) : Agree one other (.done value) (.done value)
  | fault {first second : Fault} : Fault.Agree one other first second →
    Agree one other (.fault first) (.fault second)
  | exhausted : Agree one other .exhausted .exhausted

/-- Reporting leaves the outcome and the store as they are. -/
theorem Run.reporting_eq {α : Type} (report : Fault → Option Log.Entry) (body : Run α)
    (machine : Machine) :
    (Run.reporting report body machine).1 = (body machine).1 ∧
      (Run.reporting report body machine).2.store = (body machine).2.store := by
  -- A note is in the log, which is no part of the store.
  obtain ⟨outcome, same | ⟨fault, entry, _, same⟩⟩ := Run.reporting_cases report body machine
  · exact ⟨outcome, by rw [same]⟩
  · exact ⟨outcome, by rw [same]; rfl⟩

namespace Endpoint

/-- A request that is not disturbed ends alike on both machines, and they stay beside each other. -/
theorem run_beside {endpoint : Endpoint} {names : List String}
    {engines : Nat → Store.Engine} (undisturbed : endpoint.Undisturbed engines names) (depth : Nat)
    (tables : List Table) (pathVars form : Fields String) {a b : Machine}
    (grown : a.store.GrowsAmong names b.store) (drawn : a.DrawsFrom engines)
    (alsoDrawn : b.DrawsFrom engines) :
    Outcome.Agree a.connection.failed b.connection.failed
        (endpoint.run depth tables pathVars form a).1
        (endpoint.run depth tables pathVars form b).1 ∧
      (endpoint.run depth tables pathVars form a).2.store.GrowsAmong names
        (endpoint.run depth tables pathVars form b).2.store := by
  -- Both requests start with functions counted anew and the log apart.
  have keeps := Lockstep.answer_keeps (Lockstep.beside_serves undisturbed :
    (Lockstep.beside names engines a.connection.failed b.connection.failed).Serves endpoint) depth
    tables pathVars form
  have ended := keeps (endpoint.dispatched pathVars a) (endpoint.dispatched pathVars b)
    { made := rfl
      grown
      drawn := (Machine.DrawsFrom.of_same rfl).trans drawn
      alsoDrawn := (Machine.DrawsFrom.of_same rfl).trans alsoDrawn
      pending := fun _ pending => pending
      alsoPending := fun _ pending => pending }
  -- A report at the end touches neither the outcome nor the store.
  obtain ⟨left, leftStore⟩ := Run.reporting_eq endpoint.report
    (endpoint.answer depth tables pathVars form) (endpoint.dispatched pathVars a)
  obtain ⟨right, rightStore⟩ := Run.reporting_eq endpoint.report
    (endpoint.answer depth tables pathVars form) (endpoint.dispatched pathVars b)
  rw [run_eq, run_eq, left, right, leftStore, rightStore]
  generalize endpoint.answer depth tables pathVars form _ = first at ended
  generalize endpoint.answer depth tables pathVars form _ = second at ended
  cases ended with
  | done _ together => exact ⟨.done _, together.grown⟩
  | fault stopped => exact ⟨.fault stopped.2, stopped.1⟩
  | exhausted stopped => exact ⟨.exhausted, stopped⟩
  | unanswered impossible => exact impossible.elim

end Endpoint

namespace Store

variable {names others : List String}

/-- A table that is reached from two tables, each of which may grow under other names, is one. -/
theorem Relation.eq_of_grows (apart : ∀ name ∈ names, Apart name others)
    {one other both again : Relation} (first : one.GrowsAmong others both)
    (second : other.GrowsAmong names both) (third : one.GrowsAmong others again)
    (fourth : other.GrowsAmong names again) : both = again := by
  -- The table goes by one name throughout, so it can have grown on one way only.
  by_cases free : one.IsAmong others
  · have fixed : ¬ other.IsAmong names := by
      rintro ⟨name, member, same⟩
      have called : one.name = other.name := first.grows.name.symm.trans second.grows.name
      exact (apart name member).not_isAmong (called ▸ same) free
    rw [second.same fixed, fourth.same fixed]
  · rw [first.same free, third.same free]

/-- Stores reached from two stores, each of which grows under other names, have the same tables. -/
theorem relations_eq_of_grows (apart : ∀ name ∈ names, Apart name others)
    {one other both again : Store} (first : one.GrowsAmong others both)
    (second : other.GrowsAmong names both) (third : one.GrowsAmong others again)
    (fourth : other.GrowsAmong names again) : both.relations = again.relations := by
  -- All four stores have their tables in the same places.
  unfold GrowsAmong at *
  generalize one.relations = here at *
  generalize other.relations = there at *
  generalize both.relations = left at *
  generalize again.relations = right at *
  induction first generalizing there right with
  | nil =>
    cases third
    rfl
  | cons one' _ ih =>
    cases second with
    | cons other' others' =>
      cases third with
      | cons again' rest =>
        cases fourth with
        | cons last lasts =>
          -- The induction gives the other tables, and the tables in this place agree by themselves.
          rw [Relation.eq_of_grows apart one' other' again' last, ih _ others' _ rest lasts]

/--
The rows of tables of the names have numbers of 64 bits.

A store that has no number left above the highest draws one at random, which is left out here.
-/
def NumbersFit (names : List String) (store : Store) : Prop :=
  ∀ relation ∈ store.relations, relation.IsAmong names → ∀ row ∈ relation.rows, fits row.number

instance (names : List String) (store : Store) : Decidable (store.NumbersFit names) :=
  inferInstanceAs (Decidable (∀ relation ∈ store.relations, (∃ name ∈ names,
    sameName relation.name name) → ∀ row ∈ relation.rows, fits row.number))

/-- Numbers keep to 64 bits while only tables of other names grow. -/
theorem NumbersFit.mono {before after : Store} (fit : before.NumbersFit names)
    (apart : ∀ name ∈ names, Apart name others) (grown : before.GrowsAmong others after) :
    after.NumbersFit names := by
  intro relation member among
  -- The table was there before under the same name, so it is none of those that may grow.
  obtain ⟨old, was, here⟩ := grown.exists_before member
  obtain ⟨name, named, same⟩ := among
  rw [here.grows.name] at same
  obtain rfl := here.same ((apart name named).not_isAmong same)
  exact fit _ was ⟨name, named, same⟩

end Store

namespace Endpoint

/--
Two requests can be served in either order if neither writes what the other one uses.

In both orders each has the same outcome, and the tables have the same rows. Only of a number that does
not fit, where a request binds one, two things may be said: its own fault, or the one that was pending
when the request came. The numbers of the rows that either request adds have to keep to 64 bits, and
then they do so in both orders.
-/
theorem run_commutes (depth : Nat) (tables : List Table) (one other : Endpoint)
    (onePath oneForm otherPath otherForm : Fields String) (machine : Machine)
    (undisturbed : one.Undisturbed machine.engines other.written)
    (alsoUndisturbed : other.Undisturbed machine.engines one.written)
    (numbered : (one.run depth tables onePath oneForm machine).2.store.NumbersFit one.written)
    (alsoNumbered :
      (other.run depth tables otherPath otherForm machine).2.store.NumbersFit other.written) :
    let afterOne := (one.run depth tables onePath oneForm machine).2
    let afterOther := (other.run depth tables otherPath otherForm machine).2
    let afterBoth := (other.run depth tables otherPath otherForm afterOne).2
    Outcome.Agree machine.connection.failed afterOther.connection.failed
        (one.run depth tables onePath oneForm machine).1
        (one.run depth tables onePath oneForm afterOther).1 ∧
      Outcome.Agree machine.connection.failed afterOne.connection.failed
        (other.run depth tables otherPath otherForm machine).1
        (other.run depth tables otherPath otherForm afterOne).1 ∧
      afterBoth.store.relations =
        (one.run depth tables onePath oneForm afterOther).2.store.relations ∧
      afterBoth.store.NumbersFit one.written ∧ afterBoth.store.NumbersFit other.written := by
  -- What one request adds leaves the other one undisturbed, so each can be run beside itself.
  intro afterOne afterOther afterBoth
  have reachedOne := (one.run_reaches depth tables onePath oneForm machine).1
  have reachedOther := (other.run_reaches depth tables otherPath otherForm machine).1
  -- Each request is served once on the machine as it came, and once after the other request.
  obtain ⟨outcome, beside⟩ := run_beside undisturbed depth tables onePath oneForm
    reachedOther.grows (.self machine) reachedOther.draws
  obtain ⟨alsoOutcome, alsoBeside⟩ := run_beside alsoUndisturbed depth tables otherPath otherForm
    reachedOne.grows (.self machine) reachedOne.draws
  -- The names that a request writes to are among its targets, which are apart from the other's.
  have apart : ∀ name ∈ one.written, Apart name other.written := by
    intro name member
    obtain ⟨target, named, rfl⟩ := List.mem_map.mp member
    exact undisturbed.writes target named
  have alsoApart : ∀ name ∈ other.written, Apart name one.written := by
    intro name member
    obtain ⟨target, named, rfl⟩ := List.mem_map.mp member
    exact alsoUndisturbed.writes target named
  -- Every run only adds rows to the tables it names.
  have grown : afterOne.store.GrowsAmong other.written afterBoth.store :=
    (other.run_reaches depth tables otherPath otherForm afterOne).1.grows
  -- What each request wrote stays as it was when the other one is served after it.
  exact ⟨outcome, alsoOutcome,
    Store.relations_eq_of_grows apart grown alsoBeside beside
      (one.run_reaches depth tables onePath oneForm afterOther).1.grows,
    numbered.mono apart grown, alsoNumbered.mono alsoApart alsoBeside⟩

/-- The names in a table. -/
def namesOf (table : String) : Query := { table, columns := [("name", .primitive "text")] }

/-- A greeting is kept for each user. -/
def greeting : Endpoint where
  method := "POST"
  path := ⟨[.literal "greet"]⟩
  body := .forEach (namesOf "user") []
    (.insert "greeting" (.record [("name", .var "name")]) (.var "name"))
  type := .primitive "html"

/-- A visit is kept, and all visits are shown. -/
def visit : Endpoint where
  method := "POST"
  path := ⟨[.capture "name"]⟩
  body := .insert "visit" (.record [("name", .var "name")])
    (.forEach (namesOf "visit") [] (.var "name"))
  type := .primitive "html"

/-- A machine with a user, and with tables for greetings and visits. -/
def party : Machine where
  connection := { store := { relations := [
    { name := "user", columns := [⟨"name", .text⟩], rows := [⟨1, [.text "ann"]⟩] },
    { name := "greeting", columns := [⟨"name", .text⟩] },
    { name := "visit", columns := [⟨"name", .text⟩] }] } }
  clock := fun _ => 0

/-- Greeting the users and keeping a visit can be done in either order. -/
theorem run_commutes_party :
    greeting.Undisturbed party.engines visit.written ∧
      visit.Undisturbed party.engines greeting.written ∧
      (visit.run 5 [] [("name", "bob")] [] (greeting.run 5 [] [] [] party).2).2.store.relations =
        (greeting.run 5 [] [] []
          (visit.run 5 [] [("name", "bob")] [] party).2).2.store.relations := by
  -- Each request has one query and one insertion, on tables of its own.
  have one : greeting.Undisturbed party.engines visit.written := by
    apply Undisturbed.of_settled
    · simp [greeting, Expr.nodes, Expr.within, Expr.withinAll, Expr.withinFields]
    · decide +kernel
    · decide
  have other : visit.Undisturbed party.engines greeting.written := by
    apply Undisturbed.of_settled
    · simp [visit, Expr.nodes, Expr.within, Expr.withinAll, Expr.withinFields]
    · decide +kernel
    · decide
  exact ⟨one, other,
    (run_commutes 5 [] greeting visit [] [] [("name", "bob")] [] party one other
      (by decide +kernel) (by decide +kernel)).2.2.1⟩

/-- The names of users of an age. -/
def ofAge : Query := { namesOf "user" with conditions := ["age = ?"] }

/-- A list of users, of whom it asks more than is stored. -/
def listing : Endpoint where
  method := "GET"
  path := ⟨[.literal "a"]⟩
  body := .list [.forEach ofAge [.literal (.int 1)] (.var "name"),
    .forEach { table := "user", columns := [("zip", .primitive "text")] } [] (.var "zip")]
  type := .primitive "html"

/-- A search with a number that does not fit. -/
def search : Endpoint where
  method := "GET"
  path := ⟨[.literal "b"]⟩
  body := .forEach ofAge [.literal (.int 9223372036854775808)] (.var "name")
  type := .primitive "html"

/-- A machine with users that have a name and an age. -/
def register : Machine where
  connection := { store := { relations :=
    [{ name := "user", columns := [⟨"name", .text⟩, ⟨"age", .integer⟩] }] } }
  clock := fun _ => 0

/--
A request that writes nothing can change how the next one ends, if a number does not fit: instead of
the number, the next one is told of a column that it does not ask for.
-/
theorem run_commutes_pending :
    listing.Undisturbed register.engines search.written ∧
      search.Undisturbed register.engines listing.written ∧
      (search.run 4 [] [] [] register).1 = .fault (.store (.tooWide none)) ∧
      (search.run 4 [] [] [] (listing.run 4 [] [] [] register).2).1 =
        .fault (.store (.tooWide (some (.noColumn "zip")))) ∧
      Store.Refusal.message (.tooWide none) ≠
        Store.Refusal.message (.tooWide (some (.noColumn "zip"))) := by
  -- Neither request inserts anything, so there are no names to be apart from.
  have one : listing.Undisturbed register.engines search.written := by
    apply Undisturbed.of_settled
    · simp [listing, Expr.nodes, Expr.within, Expr.withinAll]
    · decide +kernel
    · decide
  have other : search.Undisturbed register.engines listing.written := by
    apply Undisturbed.of_settled
    · simp [search, Expr.nodes, Expr.within, Expr.withinAll]
    · decide +kernel
    · decide
  -- The connection keeps the fault of the missing column, and the number repeats it.
  have alone : (search.run 4 [] [] [] register).1.refusal? = some (.tooWide none) := by
    decide +kernel
  have after : (search.run 4 [] [] [] (listing.run 4 [] [] [] register).2).1.refusal? =
      some (.tooWide (some (.noColumn "zip"))) := by
    decide +kernel
  exact ⟨one, other, Outcome.eq_of_refusal? alone, Outcome.eq_of_refusal? after, by decide⟩

end Endpoint

end PageServer
