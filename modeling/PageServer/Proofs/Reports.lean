import PageServer.Proofs.Blame
import PageServer.Proofs.Soundness

/-!
How a request ends, and what its endpoint says of it.

Main statement: a request is turned away exactly when the endpoint takes a form, its body has a value
and the form lacks a declared field, and then nothing has been done but evaluating the body. The
endpoint notes each request before all else, and at its end it notes at most one thing more: a grave
note for a fault that the checker should have ruled out, an error for one of the program, and an
information for a request that is turned away.
-/

namespace PageServer

/-! Computations that leave the talking to the endpoint -/

/-- A computation that notes nothing but statements, and whose faults are not the visitor's. -/
structure Run.Plain {α : Type} (run : Run α) : Prop where
  notes : ∀ machine, ∃ notes : List Log.Entry, (run machine).2.log = machine.log ++ notes ∧
    ∀ entry ∈ notes, entry.statement? ≠ none
  spares : ∀ machine fault, (run machine).1 = .fault fault → fault.blame ≠ .visitor

namespace Run.Plain

variable {α β : Type}

/-- A computation that notes nothing and has no faults. -/
theorem ofDone {run : Run α} (log : ∀ machine, (run machine).2.log = machine.log)
    (done : ∀ machine fault, (run machine).1 ≠ .fault fault) : run.Plain where
  -- The log is as it was, so nothing has been added to it.
  notes machine := ⟨[], by simp [log machine], by simp⟩
  spares machine fault failed := absurd failed (done machine fault)

/-- A value that is given. -/
theorem pure (value : α) : (Pure.pure value : Run α).Plain :=
  ofDone (fun _ => rfl) fun _ _ failed => by cases failed

/-- Running out of depth. -/
theorem exhausted : (Run.exhausted : Run α).Plain :=
  ofDone (fun _ => rfl) fun _ _ failed => by cases failed

/-- A reading of the clock. -/
theorem tick : Run.tick.Plain :=
  ofDone (fun _ => rfl) fun _ _ failed => by cases failed

/-- A number for a new function. -/
theorem freshIdentity : Run.freshIdentity.Plain :=
  ofDone (fun _ => rfl) fun _ _ failed => by cases failed

/-- A fault that someone else than the visitor is to blame for. -/
theorem fail {fault : Fault} (other : fault.blame ≠ .visitor) :
    (Run.fail fault : Run α).Plain where
  notes machine := ⟨[], by simp [Run.fail], by simp⟩
  -- The computation has no other fault than the given one.
  spares machine found failed := by
    cases failed
    exact other

/-- A pure result that spares the visitor. -/
theorem lift {result : Except Fault α} (spares : Spares result) : (Run.lift result).Plain := by
  -- A result is a fault, or a value that is given.
  cases result with
  | error fault => exact fail (spares fault rfl)
  | ok value => exact pure value

/-- A sequence of two such computations. -/
theorem andThen {first : Run α} {next : α → Run β} (before : first.Plain)
    (after : ∀ value, (next value).Plain) : (first >>= next).Plain := by
  constructor
  -- What is noted is what the first part notes, and then the second if it is reached.
  · intro machine
    obtain ⟨notes, log, statements⟩ := before.notes machine
    rcases ended : first machine with ⟨outcome, between⟩
    rw [ended] at log
    cases outcome with
    | done value =>
      rw [Run.andThen_of_done ended]
      -- The notes of the second part follow those of the first.
      obtain ⟨more, further, others⟩ := (after value).notes between
      refine ⟨notes ++ more, by rw [further, log, List.append_assoc], ?_⟩
      intro entry member
      rcases List.mem_append.mp member with earlier | later
      · exact statements entry earlier
      · exact others entry later
    | fault fault =>
      rw [Run.andThen_of_fault ended]
      exact ⟨notes, log, statements⟩
    | exhausted =>
      rw [Run.andThen_of_exhausted ended]
      exact ⟨notes, log, statements⟩
    | unanswered =>
      rw [Run.andThen_of_unanswered ended]
      exact ⟨notes, log, statements⟩
  -- A fault is one of the first part, or of the second after it.
  · intro machine fault failed
    rcases Run.andThen_fault failed with early | ⟨value, between, _, late⟩
    · exact before.spares machine fault early
    · exact (after value).spares between fault late

/-- Such a computation for each item. -/
theorem each {compute : α → Run β} (plain : ∀ item, (compute item).Plain) (items : List α) :
    (Run.each compute items).Plain := by
  -- The notes of the items stand one after the other.
  induction items with
  | nil => exact pure []
  | cons item rest ih => exact (plain item).andThen fun _ => ih.andThen fun _ => pure _

/-- A note of a statement and then the statement itself. -/
theorem statement (entry : Log.Entry) (noted : entry.statement? ≠ none) (text : String)
    (prepare : Store.Engine → Store → Except Store.Fault (Store.Prepared α)) :
    (Run.note entry >>= fun _ => Run.statement text prepare).Plain := by
  constructor
  -- The one note is that of the statement, which the statement itself adds nothing to.
  · intro machine
    refine ⟨[entry], ?_, by simp [noted]⟩
    exact congrArg Machine.log (Run.statement_machine text prepare (Run.note entry machine).2)
  · intro machine fault failed
    rw [Run.note_andThen] at failed
    -- A statement that is refused is the store's affair.
    have ended : Run.ofAnswer _ = .fault fault := failed
    unfold Run.ofAnswer at ended
    split at ended <;> cases ended
    nofun

end Run.Plain

/-! Evaluation -/

namespace Storage

/-- A query is such a computation. -/
theorem select_plain (query : Query) (arguments : List Value) : (select query arguments).Plain :=
  -- All that is made before the statement is pure.
  (Run.Plain.lift (Sql.select_spares query)).andThen fun _ =>
    (Run.Plain.lift (tail_spares query)).andThen fun _ =>
      (Run.Plain.lift (encodeAll_spares arguments)).andThen fun _ =>
        .statement _ (by simp [Log.Entry.statement?]) _ _

/-- An insertion is such a computation. -/
theorem insert_plain (table : String) (fields : Fields Value) : (insert table fields).Plain :=
  (Run.Plain.lift (Sql.insert_spares table fields.keys)).andThen fun _ =>
    (Run.Plain.lift (encodeFields_spares fields)).andThen fun _ =>
      .statement _ (by simp [Log.Entry.statement?]) _ _

end Storage

namespace Eval

variable {recur : Evaluator}

/-- So is what a name stands for. -/
theorem variableValue_plain (env : Environment) (name : String) :
    (variableValue env name).Plain := by
  -- An unbound name is the checker's fault, and the clock notes nothing.
  unfold variableValue
  split
  · exact .fail nofun
  · exact Run.Plain.tick.andThen fun _ => .pure _
  · exact .pure _

/-- So is an application, if what functions go on with is such a computation. -/
theorem applyWith_plain (plain : ∀ env expr, (recur env expr).Plain) (function argument : Value) :
    (applyWith recur function argument).Plain := by
  -- Elements and the library compute results, and a function goes on with its body.
  unfold applyWith
  split
  · split
    · exact .pure _
    · exact .lift ((Markup.render_spares _).bind fun _ =>
        (Markup.element_spares _ _ _).bind fun _ => .ok _)
  · exact .lift ((Markup.render_spares _).bind fun _ =>
      (Markup.element_spares _ _ _).bind fun _ => .ok _)
  · exact plain _ _
  · exact .lift (redirect_spares _)
  · exact .fail nofun

/-- One node is plain if its parts are. -/
theorem step_plain (plain : ∀ env expr, (recur env expr).Plain) (env : Environment) (expr : Expr) :
    (step recur env expr).Plain := by
  -- One case for each kind of node; parts are evaluated in the order of the source.
  cases expr with
  | literal given => exact .lift (literal_spares given)
  | var name => exact variableValue_plain env name
  | app function argument =>
    exact (plain _ _).andThen fun _ => (plain _ _).andThen fun _ => applyWith_plain plain _ _
  | abs param body => exact Run.Plain.freshIdentity.andThen fun _ => .pure _
  | list elements => exact (Run.Plain.each (plain env) elements).andThen fun _ => .pure _
  | record fields =>
    have each := fun entry : String × Expr => (plain env entry.2).andThen fun value =>
      Run.Plain.pure (entry.1, value)
    exact (Run.Plain.each each fields).andThen fun _ => .pure _
  | dot whole name => exact (plain _ _).andThen fun _ => .lift (field_spares name _)
  | op operator left right =>
    exact (plain _ _).andThen fun _ => (plain _ _).andThen fun _ => .lift (operate_spares _ _ _)
  | forEach query arguments body =>
    apply (Run.Plain.each (plain env) arguments).andThen
    intro given
    apply (Storage.select_plain query given).andThen
    intro rows
    -- A row that cannot be decoded is the store's fault.
    have each := fun row : Fields Store.Cell =>
      (Run.Plain.lift (Storage.decodeRow_spares query row)).andThen fun bindings =>
        plain (env.extend bindings) body
    exact (Run.Plain.each each rows).andThen fun _ => .pure _
  | insert table value next =>
    apply (plain _ _).andThen
    intro whole
    apply (Run.Plain.lift (whole.asRecord_spares "insert")).andThen
    intro fields
    exact (Storage.insert_plain table fields).andThen fun _ => plain _ _
  | hole kind => exact .fail nofun

end Eval

/-- Evaluation notes nothing but statements, and its faults are not the visitor's. -/
theorem eval_plain (depth : Nat) (env : Environment) (expr : Expr) : (eval depth env expr).Plain := by
  -- Each level of depth is one node around evaluations of less depth.
  induction depth generalizing env expr with
  | zero => exact .exhausted
  | succ depth ih => exact Eval.step_plain ih env expr

/-- So it is with application. -/
theorem apply_plain (depth : Nat) (function argument : Value) :
    (apply depth function argument).Plain :=
  -- An application is one step around an evaluation.
  Eval.applyWith_plain (eval_plain depth) function argument

/-! Forms -/

namespace Form

/-- An endpoint takes a form if it is posted to, and its body is a function from a record. -/
theorem fields?_eq_some_iff {endpoint : Endpoint} {fields : Fields Ty} :
    fields? endpoint = some fields ↔
      endpoint.method = "POST" ∧ ∃ result, endpoint.type = .function (.record fields) result := by
  -- The method is asked for first, and only then is the type of the endpoint looked at.
  unfold fields?
  by_cases posted : endpoint.method = "POST"
  · simp only [posted, true_and, if_true, Ty.argumentFields?]
    cases endpoint.type with
    | function param result => cases param <;> simp
    | _ => simp
  · simp [posted]

/-- A form has no value for the names that were not submitted. -/
theorem submitted_isNone (form : Fields String) (name : String) :
    ((Fields.ofPairs form).get? name).isNone = !form.keys.contains name := by
  -- Merging the pairs of the form loses none of its names and adds none.
  rw [Bool.eq_iff_iff, Option.isNone_iff_eq_none, Fields.get?_eq_none_iff, Fields.mem_keys_ofPairs]
  simp

/-- Picking stops at the first name that has no value, and gets by if there is none. -/
theorem pick_eq_error {submitted : Fields String} {names : List String} {missing : String} :
    pick submitted names = .error missing ↔
      (names.find? fun name => (submitted.get? name).isNone) = some missing := by
  -- The induction is on the wanted names, each of which is looked up in the form.
  induction names with
  | nil => simp [pick]
  | cons name rest ih =>
    unfold pick
    -- This name has no value, so it is the one where picking stops.
    cases found : submitted.get? name with
    | none => simp [found]
    | some text =>
      -- This one is picked, and the search goes on after it.
      rw [List.find?_cons_of_neg (by simp [found]), ← ih]
      cases pick submitted rest with
      | error other => simp [Bind.bind, Except.bind]
      | ok others => simp [Bind.bind, Except.bind, Pure.pure, Except.pure]

/-- The record of a form lacks the first declared field that was not submitted. -/
theorem record_eq_error {fields : Fields Ty} {form : Fields String} {missing : String} :
    record fields form = .error missing ↔
      (fields.keys.find? fun name => !form.keys.contains name) = some missing := by
  -- What is picked is only merged, which cannot fail.
  simp only [← submitted_isNone, ← pick_eq_error, record]
  cases pick (Fields.ofPairs form) fields.keys with
  | error other => simp [Bind.bind, Except.bind]
  | ok others => simp [Bind.bind, Except.bind, Pure.pure, Except.pure]

/-- The record of a form is sound: its names are distinct, and its values are texts. -/
theorem record_sound {base : Environment} {fields : Fields Ty} {form : Fields String}
    {held : Fields Value} (marshalled : record fields form = .ok held) :
    Value.Sound base (.record held) := by
  -- Whatever the fields are declared as, a form gives texts.
  simp only [record, bind_eq_ok] at marshalled
  obtain ⟨picked, found, built⟩ := marshalled
  cases built
  apply Value.Sound.recordOf
  intro entry member
  obtain ⟨text, _, same⟩ := (pick_texts found).2 entry member
  rw [same]
  exact .text text

end Form

/-! Responses -/

namespace Response

/-- A value that has no response is no fault of the visitor's. -/
theorem ofValue_spares (value : Value) : Spares (ofValue value) := by
  -- A response stands for itself, and any other value is rendered.
  unfold ofValue
  split
  · exact .ok _
  · exact (Markup.render_spares _).bind fun _ => .ok _

/-- A sound value is no refusal. -/
theorem status_ofValue {base : Environment} {value : Value} (sound : Value.Sound base value)
    {response : Response} (built : ofValue value = .ok response) : response.status ≠ 400 := by
  -- A response that is a value sends elsewhere, and any other value is a page.
  unfold ofValue at built
  split at built
  · cases built
    cases sound
    simp
  · simp only [bind_eq_ok] at built
    obtain ⟨markup, _, built⟩ := built
    cases built
    simp

end Response

/-- The level of the note that a fault calls for. -/
def Fault.level? (fault : Fault) : Option Log.Level :=
  match fault.blame with
  | .checker => some .critical
  | .program => some .error
  | .visitor | .surroundings => none

/-- The level of the note that the end of a request calls for. -/
def Outcome.level? : Outcome Response → Option Log.Level
  | done response => if response.status = 400 then some .info else none
  | fault cause => cause.level?
  | exhausted => none
  | unanswered => none

namespace Endpoint

/-- The part of the program that endpoints speak for. -/
def channel : String := "kuljet.runtime.endpoint"

/-- The body evaluated alone, on the machine that has noted the request. -/
def evaluated (depth : Nat) (tables : List Table) (endpoint : Endpoint) (pathVars : Fields String)
    (machine : Machine) : Outcome Value × Machine :=
  eval depth (Library.environment tables pathVars) endpoint.body
    (endpoint.dispatched pathVars machine)

/-- The endpoint is posted a record, and a declared field is the first that the form lacks. -/
def Lacks (endpoint : Endpoint) (form : Fields String) (missing : String) : Prop :=
  endpoint.method = "POST" ∧
    ∃ (fields : Fields Ty) (result : Ty), endpoint.type = .function (.record fields) result ∧
      (fields.keys.find? fun name => !form.keys.contains name) = some missing

variable (depth : Nat) (tables : List Table) (endpoint : Endpoint) (pathVars form : Fields String)

/-- The note about a form that lacks a field. -/
def refusal (missing : String) : Log.Entry :=
  .badForm endpoint.method endpoint.path.text (Fault.missingMessage missing)

/-- A report is as grave as its fault, and the endpoint's own. -/
theorem report_level (fault : Fault) :
    (endpoint.report fault).map Log.Entry.level = fault.level? ∧
      ∀ entry ∈ endpoint.report fault, entry.channel = channel := by
  -- One case for each kind of fault.
  cases fault <;> simp [report, Fault.diagnostic?, Fault.violation, Fault.level?, Fault.blame,
    Log.Entry.level, Log.Entry.channel, channel]

variable {endpoint form}

/-- A field is lacking exactly when the endpoint takes a form that makes no record. -/
theorem lacks_iff {missing : String} : endpoint.Lacks form missing ↔
    ∃ fields, Form.fields? endpoint = some fields ∧ Form.record fields form = .error missing := by
  -- A field is lacking if picking the fields stops at it.
  simp only [Lacks, Form.record_eq_error, Form.fields?_eq_some_iff]
  constructor
  · rintro ⟨posted, fields, result, type, first⟩
    exact ⟨fields, ⟨posted, result, type⟩, first⟩
  · rintro ⟨fields, ⟨posted, result, type⟩, first⟩
    exact ⟨posted, fields, result, type, first⟩

/-- Where a field is lacking, the body is evaluated and the request is turned away. -/
theorem answer_of_lacks {missing : String} (lacks : endpoint.Lacks form missing) :
    endpoint.answer depth tables pathVars form =
      (eval depth (Library.environment tables pathVars) endpoint.body >>= fun _ =>
        Run.note (endpoint.refusal missing) >>= fun _ => pure (Response.ofMissing missing)) := by
  -- The record cannot be made, so the value of the body is not used.
  obtain ⟨fields, declared, absent⟩ := lacks_iff.mp lacks
  simp only [answer, declared, absent, refusal]

/-- So it is done once the body has a value. -/
theorem answer_of_evaluated {missing : String} (lacks : endpoint.Lacks form missing)
    {machine after : Machine} {value : Value}
    (ended : eval depth (Library.environment tables pathVars) endpoint.body machine =
      (.done value, after)) :
    endpoint.answer depth tables pathVars form machine =
      (.done (Response.ofMissing missing),
        { after with log := after.log ++ [endpoint.refusal missing] }) := by
  -- The value of the body is not looked at.
  rw [answer_of_lacks depth tables pathVars lacks]
  exact Run.andThen_of_done ended

/-- Where none is, answering is plain and does not turn the request away. -/
theorem answer_of_held (held : ∀ missing, ¬ endpoint.Lacks form missing) :
    (endpoint.answer depth tables pathVars form).Plain ∧
      ∀ machine response, (endpoint.answer depth tables pathVars form machine).1 = .done response →
        response.status ≠ 400 := by
  have furnished := Library.environment_isBase tables pathVars
  unfold answer
  cases declared : Form.fields? endpoint with
  | none =>
    -- The endpoint takes no form, and the value of its body is the answer.
    refine ⟨(eval_plain depth _ _).andThen fun _ => .lift (Response.ofValue_spares _), ?_⟩
    -- A sound value has a response that does not turn the visitor away.
    intro machine response answered
    obtain ⟨value, between, ended, built⟩ := Run.andThen_done answered
    have sound := eval_sound furnished (.refl _) (congrArg Prod.fst ended)
    exact Response.status_ofValue sound (Run.lift_done built)
  | some fields =>
    cases marshalled : Form.record fields form with
    | error missing => exact absurd (lacks_iff.mpr ⟨fields, declared, marshalled⟩) (held missing)
    | ok record =>
      simp only [marshalled]
      -- The value of the body is applied to the record of the form.
      refine ⟨(eval_plain depth _ _).andThen fun _ => (apply_plain depth _ _).andThen fun _ =>
        .lift (Response.ofValue_spares _), ?_⟩
      intro machine response answered
      -- The function is sound, and so is what it makes of the record.
      obtain ⟨function, between, ended, applied⟩ := Run.andThen_done answered
      obtain ⟨value, after, given, built⟩ := Run.andThen_done applied
      have sound := eval_sound furnished (.refl _) (congrArg Prod.fst ended)
      have result := apply_sound furnished sound (Form.record_sound marshalled)
        (congrArg Prod.fst given)
      exact Response.status_ofValue result (Run.lift_done built)

/-- Where no field is lacking, or the body has no value, answering ends plainly. -/
theorem answer_cases (endpoint : Endpoint) (form : Fields String) (machine : Machine) :
    (∃ missing value after, endpoint.Lacks form missing ∧
      eval depth (Library.environment tables pathVars) endpoint.body machine =
        (.done value, after)) ∨
    (¬ ∃ missing value, endpoint.Lacks form missing ∧
      (eval depth (Library.environment tables pathVars) endpoint.body machine).1 = .done value) ∧
    (∀ response, (endpoint.answer depth tables pathVars form machine).1 = .done response →
      response.status ≠ 400) ∧
    (∀ fault, (endpoint.answer depth tables pathVars form machine).1 = .fault fault →
      fault.blame ≠ .visitor) ∧
    ∃ notes : List Log.Entry,
      (endpoint.answer depth tables pathVars form machine).2.log = machine.log ++ notes ∧
        ∀ entry ∈ notes, entry.statement? ≠ none := by
  -- Whether a field is lacking is a matter of the form alone.
  have plain := eval_plain depth (Library.environment tables pathVars) endpoint.body
  by_cases lacking : ∃ missing, endpoint.Lacks form missing
  · obtain ⟨missing, lacks⟩ := lacking
    by_cases ended : ∃ value,
        (eval depth (Library.environment tables pathVars) endpoint.body machine).1 = .done value
    · obtain ⟨value, ended⟩ := ended
      exact Or.inl ⟨missing, value, _, lacks, Prod.ext ended rfl⟩
    · -- Without a value of the body, the request ends as its evaluation does.
      rw [answer_of_lacks depth tables pathVars lacks]
      obtain ⟨same, undone, faults⟩ := Run.andThen_stopped (not_exists.mp ended)
      refine Or.inr ⟨fun ⟨_, value, _, done⟩ => ended ⟨value, done⟩, ?_, ?_, ?_⟩
      · exact fun response done => absurd done (undone response)
      · exact fun fault failed => plain.spares machine fault (faults fault failed)
      · rw [same]
        exact plain.notes machine
  · have held : ∀ missing, ¬ endpoint.Lacks form missing := fun missing lacks =>
      lacking ⟨missing, lacks⟩
    -- The form can be made into a record, so answering never turns the visitor away.
    obtain ⟨plain, statuses⟩ := answer_of_held depth tables pathVars held
    refine Or.inr ⟨?_, statuses machine, plain.spares machine, plain.notes machine⟩
    rintro ⟨missing, _, lacks, _⟩
    exact held missing lacks

/-- A request whose body has a value and whose form lacks a field is turned away at that. -/
theorem run_of_lacks {missing : String} (lacks : endpoint.Lacks form missing) {machine after : Machine}
    {value : Value} (ended : endpoint.evaluated depth tables pathVars machine = (.done value, after)) :
    endpoint.run depth tables pathVars form machine =
      (.done (Response.ofMissing missing),
        { after with log := after.log ++ [endpoint.refusal missing] }) := by
  -- A refusal is no fault, so nothing is reported.
  have answered := answer_of_evaluated depth tables pathVars lacks ended
  simp only [run_eq, Run.reporting, answered]

/-- The end of a request that is not turned away is noted as gravely as it calls for. -/
theorem reporting_closing {body : Run Response} {machine : Machine}
    (served : ∀ response, (body machine).1 = .done response → response.status ≠ 400) :
    ∃ closing : Option Log.Entry,
      (Run.reporting endpoint.report body machine).2.log =
        (body machine).2.log ++ closing.toList ∧
      closing.map Log.Entry.level = (body machine).1.level? ∧
      ∀ entry ∈ closing, entry.channel = channel := by
  unfold Run.reporting
  generalize body machine = ended at served
  obtain ⟨outcome, after⟩ := ended
  -- A fault is reported or not; nothing else is.
  cases outcome with
  | done response => exact ⟨none, by simp, by simp [Outcome.level?, served response rfl], by simp⟩
  | exhausted => exact ⟨none, by simp, rfl, by simp⟩
  | unanswered => exact ⟨none, by simp, rfl, by simp⟩
  | fault fault =>
    obtain ⟨levels, channels⟩ := endpoint.report_level fault
    refine ⟨endpoint.report fault, ?_, levels, channels⟩
    cases reported : endpoint.report fault <;> simp [reported]

/--
What an endpoint has said of a request.

It follows from how the request ended: after the note of the request come those of statements, which are
not the endpoint's, and then perhaps a closing note.
-/
theorem notes_of_closing {machine : Machine} {ended : Outcome Response × Machine}
    {notes : List Log.Entry} (closing : Option Log.Entry)
    (log : ended.2.log = (endpoint.dispatched pathVars machine).log ++ notes ++ closing.toList)
    (statements : ∀ entry ∈ notes, entry.statement? ≠ none)
    (levels : closing.map Log.Entry.level = ended.1.level?)
    (channels : ∀ entry ∈ closing, entry.channel = channel) :
    ∃ notes, ended.2.log = machine.log ++ notes ∧
      notes.head? =
        some (.dispatch endpoint.method endpoint.path.text (Fields.ofPairs pathVars)) ∧
      (notes.filter fun entry => entry.channel == channel).map Log.Entry.level =
        .debug :: ended.1.level?.toList := by
  -- Of the notes between the first and the last, none is the endpoint's.
  have passed : (notes.filter fun entry => entry.channel == channel) = [] := by
    rw [List.filter_eq_nil_iff]
    intro entry member
    have noted := statements entry member
    cases entry <;> simp_all [Log.Entry.statement?, Log.Entry.channel, channel]
  -- The closing note is the endpoint's, if there is one.
  have kept : (closing.toList.filter fun entry => entry.channel == channel) = closing.toList := by
    rw [List.filter_eq_self]
    intro entry member
    simp [channels entry (Option.mem_toList.mp member)]
  -- The first note is that of the dispatch.
  refine ⟨.dispatch endpoint.method endpoint.path.text (Fields.ofPairs pathVars) ::
    (notes ++ closing.toList), by simp [log, dispatched], rfl, ?_⟩
  rw [List.filter_cons_of_pos (by rfl), List.filter_append, passed, kept, ← levels]
  cases closing <;> rfl

/--
How a request ends, and what its endpoint says of it.

A request is turned away exactly when its form lacks a field and its body has a value, and the machine
is then as evaluating the body alone has left it, but for a note. A form that lacks a field is never a
fault. The request itself is noted before all else, and its end with one note at most, of the level that
it calls for.
-/
theorem run_reports (endpoint : Endpoint) (form : Fields String) (machine : Machine) :
    ((∃ response, (endpoint.run depth tables pathVars form machine).1 = .done response ∧
        response.status = 400) ↔
      ∃ missing value, endpoint.Lacks form missing ∧
        (endpoint.evaluated depth tables pathVars machine).1 = .done value) ∧
    (∀ missing value after, endpoint.Lacks form missing →
      endpoint.evaluated depth tables pathVars machine = (.done value, after) →
        endpoint.run depth tables pathVars form machine =
          (.done { status := 400, body := "Invalid form input: missing '" ++ missing ++ "'" },
            { after with log := after.log ++ [endpoint.refusal missing] })) ∧
    (∀ field, (endpoint.run depth tables pathVars form machine).1 ≠ .fault (.missingInput field)) ∧
    ∃ notes, (endpoint.run depth tables pathVars form machine).2.log = machine.log ++ notes ∧
      notes.head? =
        some (.dispatch endpoint.method endpoint.path.text (Fields.ofPairs pathVars)) ∧
      (notes.filter fun entry => entry.channel == channel).map Log.Entry.level =
        .debug :: (endpoint.run depth tables pathVars form machine).1.level?.toList := by
  -- The form is looked at only once the body has a value.
  have refused : ∀ missing value after, endpoint.Lacks form missing →
      endpoint.evaluated depth tables pathVars machine = (.done value, after) →
        endpoint.run depth tables pathVars form machine =
          (.done { status := 400, body := "Invalid form input: missing '" ++ missing ++ "'" },
            { after with log := after.log ++ [endpoint.refusal missing] }) := by
    intro missing value after lacks ended
    rw [run_of_lacks depth tables pathVars lacks ended]
    simp [Response.ofMissing, Fault.missingMessage, ← String.append_assoc]
  rcases endpoint.answer_cases depth tables pathVars form (endpoint.dispatched pathVars machine) with
    ⟨missing, value, after, lacks, ended⟩ | ⟨other, served, spares, notes, log, statements⟩
  · -- The body has a value and a field is lacking, so the closing note is the refusal.
    obtain ⟨notes, log, statements⟩ := (eval_plain depth (Library.environment tables pathVars)
      endpoint.body).notes (endpoint.dispatched pathVars machine)
    rw [ended] at log
    have turned := refused missing value after lacks ended
    refine ⟨⟨?_, ?_⟩, refused, ?_, ?_⟩
    · exact fun _ => ⟨missing, value, lacks, congrArg Prod.fst ended⟩
    · exact fun _ => ⟨_, congrArg Prod.fst turned, rfl⟩
    · intro field
      simp [turned]
    · rw [turned]
      have own : ∀ entry ∈ some (endpoint.refusal missing), entry.channel = channel := by
        simp [refusal, Log.Entry.channel, channel]
      exact notes_of_closing pathVars (some (endpoint.refusal missing))
        (congrArg (· ++ [endpoint.refusal missing]) log) statements rfl own
  · -- The request ends in another way, and the closing note is the report of its fault, if any.
    obtain ⟨closing, further, levels, channels⟩ := endpoint.reporting_closing served
    obtain ⟨outcome, -⟩ := Run.reporting_cases endpoint.report
      (endpoint.answer depth tables pathVars form) (endpoint.dispatched pathVars machine)
    rw [log] at further
    -- Reporting leaves the outcome as it is.
    rw [← outcome] at served spares levels
    refine ⟨⟨?_, ?_⟩, refused, ?_, ?_⟩
    · rintro ⟨response, ended, status⟩
      exact absurd status (served response ended)
    · exact fun possible => absurd possible other
    · exact fun field failed => spares _ failed rfl
    · exact notes_of_closing pathVars closing further statements levels channels

end Endpoint

end PageServer
