import Mathlib.Logic.Relation
import PageServer.Proofs.Evaluation

/-!
What a request does to the machine that serves it.

Between the start and the end of a request, however it ends, the machine goes through steps of a few
kinds: it counts functions, reads the clock, makes notes, and runs the queries and insertions of the
body. What every step preserves, every request preserves.
-/

namespace PageServer

namespace Outcome

variable {α : Type} {outcome : Outcome α}

/-- The value that a computation ends with, if it ends with one. -/
def value? : Outcome α → Option α
  | .done found => some found
  | _ => none

/-- Why the store has refused a statement, if a computation ends with that. -/
def refusal? : Outcome α → Option Store.Refusal
  | .fault (.store found) => some found
  | _ => none

/-- A value that is there is how the computation ends. -/
theorem eq_of_value? {value : α} (found : outcome.value? = some value) : outcome = .done value := by
  -- A value can only come from the outcome that has one.
  unfold value? at found
  split at found <;> cases found
  rfl

/-- A refusal of the store that is there is how the computation ends. -/
theorem eq_of_refusal? {refused : Store.Refusal} (found : outcome.refusal? = some refused) :
    outcome = .fault (.store refused) := by
  -- A refusal can only come from a fault of the store.
  unfold refusal? at found
  split at found <;> cases found
  rfl

end Outcome

/-- A response that a request to an endpoint can have. -/
inductive Response.Made (endpoint : Endpoint) : Response → Prop where
  /-- A page. -/
  | page {markup : String} : Markup.Fragment endpoint.AttributeName markup →
    Made endpoint { status := 200, body := markup }
  /-- A redirection. -/
  | elsewhere (location : String) :
    Made endpoint { status := 303, headers := [("Location", location)], body := "" }
  /-- A form that lacks a declared field. -/
  | missing (field : String) : Made endpoint (Response.ofMissing field)

/-- A made value becomes a response of a known kind. -/
theorem Response.ofValue_made {endpoint : Endpoint} {value : Value}
    (made : Value.Made endpoint value) {response : Response}
    (built : Response.ofValue value = .ok response) : Response.Made endpoint response := by
  -- A response is passed on, and any other value is rendered.
  unfold Response.ofValue at built
  split at built
  · cases built
    cases made with
    | response location => exact .elsewhere location
  · simp only [bind_eq_ok] at built
    obtain ⟨markup, rendered, built⟩ := built
    cases built
    exact .page (made.render rendered)

namespace Form

/-- The picked fields are the wanted ones in their order, and hold the submitted texts. -/
theorem pick_texts {submitted : Fields String} {names : List String} {picked : Fields Value}
    (found : pick submitted names = .ok picked) :
    picked.keys = names ∧
      ∀ entry ∈ picked, ∃ text, submitted.get? entry.1 = some text ∧ entry.2 = .text text := by
  -- The induction is on the wanted names, each of which is looked up in the form.
  induction names generalizing picked with
  | nil =>
    cases found
    simp [Fields.keys]
  | cons name rest ih =>
    simp only [pick] at found
    split at found
    · cases found
    · rename_i text held
      simp only [bind_eq_ok] at found
      obtain ⟨others, later, built⟩ := found
      cases built
      obtain ⟨keys, texts⟩ := ih later
      refine ⟨by simpa [Fields.keys] using keys, ?_⟩
      intro entry member
      rcases List.mem_cons.mp member with rfl | member
      · exact ⟨text, held, rfl⟩
      · exact texts entry member

/-- The record of a form is a made value of the endpoint that declares it. -/
theorem record_made {endpoint : Endpoint} {fields : Fields Ty} {form : Fields String}
    (declared : fields? endpoint = some fields) {held : Fields Value}
    (marshalled : Form.record fields form = .ok held) :
    Value.Made endpoint (.record held) := by
  -- The record is merged from what was picked, which has the declared names.
  simp only [Form.record, bind_eq_ok] at marshalled
  obtain ⟨picked, found, built⟩ := marshalled
  cases built
  obtain ⟨keys, texts⟩ := pick_texts found
  refine .record ?_ ?_
  · rw [Fields.keys_ofPairs, keys]
    exact Or.inr ⟨fields, declared, rfl⟩
  · intro entry member
    -- Each value is a text of the form.
    obtain ⟨text, _, same⟩ := texts entry (Fields.mem_of_mem_ofPairs member)
    rw [same]
    exact .text text

end Form

/-- Answering a request keeps machines together, and the response is of a known kind. -/
theorem Lockstep.answer_keeps {pair : Lockstep} {endpoint : Endpoint}
    (serves : pair.Serves endpoint) (depth : Nat) (tables : List Table)
    (pathVars form : Fields String) :
    pair.Keeps (Response.Made endpoint) (endpoint.answer depth tables pathVars form) := by
  -- The body is evaluated first, whether or not there is a form to hand it.
  apply (eval_keeps serves depth (Library.environment_made endpoint tables pathVars)
    (fun _ member => member)).andThen
  intro value made
  -- Without declared fields, the value of the body is the answer.
  split
  · exact keeps_lift fun _ built => Response.ofValue_made made built
  · rename_i fields declared
    split
    -- A field that was not submitted is asked for, and the body's value is not used.
    · rename_i missing _
      apply (serves.note _ rfl).andThen
      intro _ _
      exact keeps_pure (.missing missing)
    -- Otherwise the value is applied to the record of the form.
    · rename_i held marshalled
      apply (apply_keeps serves depth made (Form.record_made declared marshalled)).andThen
      intro result alsoMade
      exact keeps_lift fun _ built => Response.ofValue_made alsoMade built

/-- One step of a machine that serves a request to an endpoint. -/
inductive Endpoint.Step (endpoint : Endpoint) : Machine → Machine → Prop where
  | renumber (machine : Machine) : Step endpoint machine (Run.renumber machine).2
  | freshIdentity (machine : Machine) : Step endpoint machine (Run.freshIdentity machine).2
  /-- The clock is read, which the body then mentions. -/
  | tick (machine : Machine) : .var "now" ∈ endpoint.body.nodes →
    Step endpoint machine (Run.tick machine).2
  /-- A note is made that is not about a statement. -/
  | note (machine : Machine) {entry : Log.Entry} : entry.statement? = none →
    Step endpoint machine (Run.note entry machine).2
  /-- A query of the body is run. -/
  | select (machine : Machine) {query : Query} (arguments : List Value) :
    query ∈ endpoint.body.queries → Step endpoint machine (Storage.select query arguments machine).2
  /-- A record is inserted into a table that the body names. -/
  | insert (machine : Machine) {table : String} {fields : Fields Value} :
    table ∈ endpoint.body.targets → endpoint.RecordNames fields.keys →
    Step endpoint machine (Storage.insert table fields machine).2

/-- A machine is reached from another through steps of a request. -/
abbrev Endpoint.Reaches (endpoint : Endpoint) : Machine → Machine → Prop :=
  Relation.ReflTransGen endpoint.Step

/-- A machine beside itself, reached from where the request started. -/
def Endpoint.reaching (endpoint : Endpoint) (start : Machine) : Lockstep where
  running a b := a = b ∧ endpoint.Reaches start a
  faulted first a second b := first = second ∧ a = b ∧ endpoint.Reaches start a
  exhausted a b := a = b ∧ endpoint.Reaches start a
  unanswered a b := a = b ∧ endpoint.Reaches start a
  faulted_of_running together _ := ⟨rfl, together⟩
  exhausted_of_running together := together

namespace Endpoint

variable {endpoint : Endpoint} {start : Machine}

/-- A computation that takes one step goes from reached machines to reached machines. -/
theorem reaching_keeps {α : Type} {run : Run α}
    (step : ∀ machine, endpoint.Step machine (run machine).2) :
    (endpoint.reaching start).Keeps (fun _ => True) run := by
  -- Both machines are one, so both outcomes are the same.
  rintro machine _ ⟨rfl, reached⟩
  have further := reached.tail (step machine)
  generalize run machine = ended at further
  obtain ⟨outcome, after⟩ := ended
  cases outcome with
  | done value => exact .done trivial ⟨rfl, further⟩
  | fault fault => exact .fault ⟨rfl, rfl, further⟩
  | exhausted => exact .exhausted ⟨rfl, further⟩
  | unanswered => exact .unanswered ⟨rfl, further⟩

/-- The operations of a request are its steps. -/
theorem reaching_serves : (endpoint.reaching start).Serves endpoint where
  tick mentioned := reaching_keeps fun machine => .tick machine mentioned
  freshIdentity := reaching_keeps .freshIdentity
  note _ plain := reaching_keeps fun machine => .note machine plain
  select _ asked arguments := reaching_keeps fun machine => .select machine arguments asked
  insert _ named _ names := reaching_keeps fun machine => .insert machine named names

/-- Answering a request goes through its steps, and the response is of a known kind. -/
theorem answer_reaches (endpoint : Endpoint) (depth : Nat) (tables : List Table)
    (pathVars form : Fields String) (machine : Machine) :
    endpoint.Reaches machine (endpoint.answer depth tables pathVars form machine).2 ∧
      ∀ response, (endpoint.answer depth tables pathVars form machine).1 = .done response →
        Response.Made endpoint response := by
  -- Answering keeps a machine beside itself, which is to say that it takes steps.
  have keeps := Lockstep.answer_keeps (reaching_serves : (endpoint.reaching machine).Serves _)
    depth tables pathVars form
  have ended := keeps machine machine ⟨rfl, .refl⟩
  generalize endpoint.answer depth tables pathVars form machine = reached at ended
  cases ended with
  | done made together => exact ⟨together.2, fun _ same => by cases same; exact made⟩
  | fault stopped => exact ⟨stopped.2.2, fun _ same => by cases same⟩
  | exhausted stopped => exact ⟨stopped.2, fun _ same => by cases same⟩
  | unanswered stopped => exact ⟨stopped.2, fun _ same => by cases same⟩

/-- The machine on which a request is answered: functions are counted anew, and it is noted. -/
def dispatched (endpoint : Endpoint) (pathVars : Fields String) (machine : Machine) : Machine :=
  { machine with
    made := 0
    log := machine.log ++
      [.dispatch endpoint.method endpoint.path.text (Fields.ofPairs pathVars)] }

/-- Serving a request is answering it on the machine that has noted it, and reporting a fault. -/
theorem run_eq (endpoint : Endpoint) (depth : Nat) (tables : List Table)
    (pathVars form : Fields String) (machine : Machine) :
    endpoint.run depth tables pathVars form machine =
      Run.reporting endpoint.report (endpoint.answer depth tables pathVars form)
        (endpoint.dispatched pathVars machine) := rfl

/-- A report is no note of a statement. -/
theorem statement?_report {fault : Fault} {entry : Log.Entry}
    (reported : endpoint.report fault = some entry) : entry.statement? = none := by
  -- Each report is a note of a violation, of a form, or of a failure.
  unfold report at reported
  repeat' split at reported
  all_goals cases reported
  all_goals rfl

end Endpoint

/-- Reporting leaves the outcome as it is, and adds at most the note of a fault. -/
theorem Run.reporting_cases {α : Type} (report : Fault → Option Log.Entry) (body : Run α)
    (machine : Machine) :
    (Run.reporting report body machine).1 = (body machine).1 ∧
      ((Run.reporting report body machine).2 = (body machine).2 ∨
        ∃ fault entry, report fault = some entry ∧
          (Run.reporting report body machine).2 = (Run.note entry (body machine).2).2) := by
  -- Only a fault is reported, and not every fault is.
  unfold Run.reporting
  split
  · rename_i fault after same
    rw [same]
    split
    · rename_i entry reported
      exact ⟨rfl, Or.inr ⟨fault, entry, reported, rfl⟩⟩
    · exact ⟨rfl, Or.inl rfl⟩
  · exact ⟨rfl, Or.inl rfl⟩

namespace Endpoint

/-- Serving a request goes through its steps, and the response is of a known kind. -/
theorem run_reaches (endpoint : Endpoint) (depth : Nat) (tables : List Table)
    (pathVars form : Fields String) (machine : Machine) :
    endpoint.Reaches machine (endpoint.run depth tables pathVars form machine).2 ∧
      ∀ response, (endpoint.run depth tables pathVars form machine).1 = .done response →
        Response.Made endpoint response := by
  -- Numbering and dispatch are two steps; a report at the end may be one more.
  have entered : endpoint.Reaches machine (endpoint.dispatched pathVars machine) :=
    (Relation.ReflTransGen.single (Step.renumber machine)).tail (Step.note _ rfl)
  -- What answering and reporting do is known from the two lemmas on them.
  obtain ⟨answered, responses⟩ := endpoint.answer_reaches depth tables pathVars form
    (endpoint.dispatched pathVars machine)
  obtain ⟨outcome, machines⟩ := Run.reporting_cases endpoint.report
    (endpoint.answer depth tables pathVars form) (endpoint.dispatched pathVars machine)
  rw [run_eq]
  constructor
  · rcases machines with same | ⟨fault, entry, reported, same⟩
    · rw [same]
      exact entered.trans answered
    · rw [same]
      exact (entered.trans answered).tail (Step.note _ (statement?_report reported))
  · rw [outcome]
    exact responses

end Endpoint

end PageServer
