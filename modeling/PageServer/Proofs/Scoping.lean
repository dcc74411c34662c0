import PageServer.Proofs.Indistinct
import PageServer.Proofs.Layers
import PageServer.Proofs.Requests
import PageServer.Proofs.Storage

/-!
Evaluation sees only the names that an expression mentions.

Main statement: in two scopes that have the same values for the free names of an expression, evaluation
leaves the same machine and ends with the same fault or with alike values. So tables, elements and path
variables that a program does not mention never change its answers.
-/

namespace PageServer

/-! One machine, two computations -/

/-- Both computations have ended with related values, with the same fault, or for want of depth. -/
inductive Outcome.Alike {α β : Type} (related : α → β → Prop) : Outcome α → Outcome β → Prop where
  | done {value : α} {other : β} : related value other → Alike related (.done value) (.done other)
  | fault (fault : Fault) : Alike related (.fault fault) (.fault fault)
  | exhausted : Alike related .exhausted .exhausted
  | unanswered : Alike related .unanswered .unanswered

/-- Two computations that do the same to every machine, and end alike. -/
def Run.Alike {α β : Type} (related : α → β → Prop) (one : Run α) (other : Run β) : Prop :=
  ∀ machine, (one machine).2 = (other machine).2 ∧
    Outcome.Alike related (one machine).1 (other machine).1

namespace Run.Alike

variable {α β γ δ : Type} {related : α → β → Prop} {fits : γ → δ → Prop}

/-- Related values that are given change nothing. -/
theorem pure {value : α} {other : β} (both : related value other) :
    Run.Alike related (Pure.pure value) (Pure.pure other) :=
  fun _ => ⟨rfl, .done both⟩

/-- The same fault changes nothing. -/
theorem fail (fault : Fault) : Run.Alike related (Run.fail fault) (Run.fail fault) :=
  fun _ => ⟨rfl, .fault fault⟩

/-- Running out of depth changes nothing. -/
theorem exhausted : Run.Alike related (Run.exhausted : Run α) (Run.exhausted : Run β) :=
  fun _ => ⟨rfl, .exhausted⟩

/-- A computation is like itself if every value is related to itself. -/
theorem self {related : α → α → Prop} (reflexive : ∀ value, related value value) (run : Run α) :
    Run.Alike related run run := by
  intro machine
  -- The machine is the same, and each end is like itself.
  refine ⟨rfl, ?_⟩
  cases (run machine).1 with
  | done value => exact .done (reflexive value)
  | fault fault => exact .fault fault
  | exhausted => exact .exhausted
  | unanswered => exact .unanswered

/-- Sequences are alike if their parts are, the second ones for all related values. -/
theorem andThen {one : Run α} {other : Run β} {next : α → Run γ} {after : β → Run δ}
    (first : Run.Alike related one other)
    (second : ∀ value found, related value found → Run.Alike fits (next value) (after found)) :
    Run.Alike fits (one >>= next) (other >>= after) := by
  intro machine
  obtain ⟨machines, ended⟩ := first machine
  rcases left : one machine with ⟨outcome, between⟩
  rcases right : other machine with ⟨result, there⟩
  rw [left, right] at machines ended
  -- Both second parts start on the machine that both first parts leave.
  obtain rfl : between = there := machines
  cases ended with
  | done both =>
    rw [Run.andThen_of_done left, Run.andThen_of_done right]
    exact second _ _ both between
  | fault fault =>
    rw [Run.andThen_of_fault left, Run.andThen_of_fault right]
    exact ⟨rfl, .fault fault⟩
  | exhausted =>
    rw [Run.andThen_of_exhausted left, Run.andThen_of_exhausted right]
    exact ⟨rfl, .exhausted⟩
  | unanswered =>
    rw [Run.andThen_of_unanswered left, Run.andThen_of_unanswered right]
    exact ⟨rfl, .unanswered⟩

/-- A computation for each item is like another one if each is. -/
theorem each {items : List γ} {compute : γ → Run α} {other : γ → Run β}
    (both : ∀ item ∈ items, Run.Alike related (compute item) (other item)) :
    Run.Alike (List.Forall₂ related) (Run.each compute items) (Run.each other items) := by
  -- The induction is on the items, which both computations go through in order.
  induction items with
  | nil => exact pure .nil
  | cons item rest ih =>
    apply (both item (by simp)).andThen
    intro value found here
    apply (ih fun later member => both later (by simp [member])).andThen
    intro values others there
    exact pure (.cons here there)

/-- Computations that are alike are so for every relation that holds more often. -/
theorem mono {fits : α → β → Prop} {one : Run α} {other : Run β}
    (alike : Run.Alike related one other) (more : ∀ value found, related value found →
      fits value found) : Run.Alike fits one other := by
  intro machine
  -- Only what is said of values changes.
  obtain ⟨machines, ended⟩ := alike machine
  refine ⟨machines, ?_⟩
  generalize (one machine).1 = outcome at ended
  generalize (other machine).1 = result at ended
  cases ended with
  | done both => exact .done (more _ _ both)
  | fault fault => exact .fault fault
  | exhausted => exact .exhausted
  | unanswered => exact .unanswered

/-- Alike computations that end with the same values are one computation. -/
theorem eq {one other : Run α} (alike : Run.Alike Eq one other) : one = other := by
  -- They leave the same machine, and their ends agree in kind and in value.
  funext machine
  obtain ⟨machines, ended⟩ := alike machine
  generalize one machine = left at machines ended
  generalize other machine = right at machines ended
  obtain ⟨outcome, here⟩ := left
  obtain ⟨result, there⟩ := right
  obtain rfl : here = there := machines
  cases ended with
  | done same => rw [same]
  | fault fault => rfl
  | exhausted => rfl
  | unanswered => rfl

end Run.Alike

/-! Evaluation in two scopes -/

namespace Eval

/-- An evaluator computes alike values in scopes that are alike for the free names. -/
def Lexical (recur : Evaluator) : Prop :=
  ∀ {one other : Environment} {expr : Expr}, Environment.Alike expr.free one other →
    Run.Alike Value.Alike (recur one expr) (recur other expr)

/-- Alike values can be read as alike records. -/
theorem asRecord_alike {value other : Value} (alike : Value.Alike value other) (site : String) :
    Run.Alike Fields.Alike (Run.lift (value.asRecord site)) (Run.lift (other.asRecord site)) := by
  -- Anything but a record is refused, and its kind is named.
  cases alike with
  | record keys held => exact .pure (Fields.Alike.ofKeys keys held)
  | text _ | int _ | bool _ | list _ _ | closure _ _ | builtin _ | deferred _ | query _ | raw _
  | tag _ | tagWith _ _ _ | response _ | bare _ | bareMarkup _ => exact .fail _

/-- Alike values have alike fields. -/
theorem field_alike {value other : Value} (alike : Value.Alike value other) (name : String) :
    Run.Alike Value.Alike (Run.lift (field name value)) (Run.lift (field name other)) := by
  cases alike with
  | record keys held =>
    -- Both records have the field, or neither has.
    have located := (Fields.Alike.ofKeys keys held).get? name
    simp only [field, Value.asRecord, bind, Except.bind]
    generalize Fields.get? _ name = here at located ⊢
    generalize Fields.get? _ name = there at located ⊢
    cases located with
    | none => exact .fail _
    | some both => exact .pure both
  | text _ | int _ | bool _ | list _ _ | closure _ _ | builtin _ | deferred _ | query _ | raw _
  | tag _ | tagWith _ _ _ | response _ | bare _ | bareMarkup _ => exact .fail _

/-- A name that has alike values in both scopes, or none, evaluates alike. -/
theorem variableValue_alike {one other : Environment} {name : String}
    (alike : Option.Rel Value.Alike (one.lookup? name) (other.lookup? name)) :
    Run.Alike Value.Alike (variableValue one name) (variableValue other name) := by
  -- A reading of the clock is alike only to itself.
  unfold variableValue
  generalize one.lookup? name = here at alike ⊢
  generalize other.lookup? name = there at alike ⊢
  cases alike with
  | none => exact .fail _
  | some both =>
    have kept := both
    cases both with
    | deferred action =>
      cases action
      exact .self .refl _
    | text _ | int _ | bool _ | list _ _ | record _ _ | closure _ _ | builtin _ | query _ | raw _
    | tag _ | tagWith _ _ _ | response _ | bare _ | bareMarkup _ => exact .pure kept

/-- Applying alike values to alike values computes alike values. -/
theorem applyWith_alike {recur : Evaluator} (lexical : Lexical recur) {function other : Value}
    (applied : Value.Alike function other) {argument given : Value}
    (handed : Value.Alike argument given) :
    Run.Alike Value.Alike (applyWith recur function argument) (applyWith recur other given) := by
  -- Elements render their argument, and functions bind it over their own scope.
  have rendered := handed.render_eq
  cases applied with
  | tag name =>
    cases handed with
    | record keys held => exact .pure (.tagWith name keys held)
    | text _ | int _ | bool _ | list _ _ | closure _ _ | builtin _ | deferred _ | query _ | raw _
    | tag _ | tagWith _ _ _ | response _ | bare _ | bareMarkup _ =>
      simp only [applyWith, rendered]
      exact .self .refl _
  | tagWith name keys held =>
    simp only [applyWith, rendered, (Fields.Alike.ofKeys keys held).element_eq]
    exact .self .refl _
  | closure present held => exact lexical ((Value.Alike.scopes present held).bind handed)
  | builtin function =>
    cases function
    simp only [applyWith, handed.redirect_eq]
    exact .self .refl _
  | text _ | int _ | bool _ | list _ _ | record _ _ | deferred _ | query _ | raw _ | response _
  | bare _ | bareMarkup _ => exact .fail _

/-- One node computes alike values in alike scopes if its parts do. -/
theorem step_alike {recur : Evaluator} (lexical : Lexical recur) {one other : Environment}
    {expr : Expr} (alike : Environment.Alike expr.free one other) :
    Run.Alike Value.Alike (step recur one expr) (step recur other expr) := by
  -- One case for each kind of node; the scopes are alike for the free names of every part.
  cases expr with
  | literal given => exact .self .refl _
  | var name => exact variableValue_alike (alike name (by simp [Expr.free]))
  -- The function comes first, then the argument.
  | app function argument =>
    apply (lexical (alike.mono (by simp [Expr.free]))).andThen
    intro applied other fine
    apply (lexical (alike.mono (by simp [Expr.free]))).andThen
    intro handed given alsoFine
    exact applyWith_alike lexical fine alsoFine
  | abs param body =>
    -- Both take the same number for the new function.
    apply (Run.Alike.self (fun _ => rfl) Run.freshIdentity).andThen
    rintro identity _ rfl
    exact .pure (.ofScopes identity alike)
  | list elements =>
    apply (Run.Alike.each fun element member =>
      lexical (alike.mono (Expr.free_subset_freeAll member))).andThen
    intro values others both
    exact .pure (.ofItems both)
  | record fields =>
    -- Each value keeps the name of its field.
    have each : ∀ entry ∈ fields, Run.Alike
        (fun named other : String × Value => named.1 = other.1 ∧ Value.Alike named.2 other.2)
        (do return (entry.1, ← recur one entry.2)) (do return (entry.1, ← recur other entry.2)) := by
      intro entry member
      apply (lexical (alike.mono (Expr.free_subset_freeFields member))).andThen
      intro value found both
      exact .pure ⟨rfl, both⟩
    apply (Run.Alike.each each).andThen
    intro pairs others both
    exact .pure (.ofFields (Fields.Alike.merge .nil both))
  -- The record comes first, and its field is looked up in it.
  | dot record name =>
    apply (lexical (alike.mono (by simp [Expr.free]))).andThen
    intro value found both
    exact field_alike both name
  | op operator left right =>
    -- The operands come in order, and the operator sees no difference between them.
    apply (lexical (alike.mono (by simp [Expr.free]))).andThen
    intro first second fine
    apply (lexical (alike.mono (by simp [Expr.free]))).andThen
    intro third fourth alsoFine
    rw [fine.operate_eq alsoFine]
    exact .self .refl _
  | forEach query arguments body =>
    have inArguments : Expr.freeAll arguments ⊆ Expr.free (.forEach query arguments body) := by
      simp [Expr.free]
    apply (Run.Alike.each fun argument member => lexical (alike.mono
      (List.Subset.trans (Expr.free_subset_freeAll member) inArguments))).andThen
    intro given others both
    -- The same cells are bound, and so the same rows are found.
    have selected : Storage.select query given = Storage.select query others := by
      simp only [Storage.select, Storage.encodeAll_alike both]
    rw [selected]
    apply (Run.Alike.self (fun _ => rfl) (Storage.select query others)).andThen
    rintro rows _ rfl
    -- A row binds the same names over both scopes.
    have each : ∀ row ∈ rows, Run.Alike Value.Alike
        (do let bindings ← Run.lift (Storage.decodeRow query row)
            recur (one.extend bindings) body)
        (do let bindings ← Run.lift (Storage.decodeRow query row)
            recur (other.extend bindings) body) := by
      intro row _
      apply (Run.Alike.self (fun _ => rfl) (Run.lift (Storage.decodeRow query row))).andThen
      rintro bindings _ rfl
      exact lexical ((alike.mono (by simp [Expr.free])).extend bindings)
    apply (Run.Alike.each each).andThen
    intro values results alsoBoth
    exact .pure (.ofItems alsoBoth)
  | insert table value next =>
    apply (lexical (alike.mono (by simp [Expr.free]))).andThen
    intro whole found both
    apply (asRecord_alike both "insert").andThen
    intro fields others held
    -- The same names and cells make the same insertion.
    have inserted : Storage.insert table fields = Storage.insert table others := by
      simp only [Storage.insert, held.keys_eq, held.encodeFields_eq]
    rw [inserted]
    apply (Run.Alike.self (fun _ => rfl) (Storage.insert table others)).andThen
    rintro _ _ rfl
    exact lexical (alike.mono (by simp [Expr.free]))
  | hole kind => exact .fail _

end Eval

/-- Evaluation to any depth computes alike values in alike scopes. -/
theorem eval_alike (depth : Nat) : Eval.Lexical (eval depth) := by
  -- Each level of depth is one node around evaluations of less depth.
  induction depth with
  | zero => exact fun _ => .exhausted
  | succ depth ih => exact fun alike => Eval.step_alike ih alike

/-! Answers in two scopes -/

namespace Endpoint

/-- Answers a request in a scope. -/
def answerIn (depth : Nat) (env : Environment) (endpoint : Endpoint) (form : Fields String) :
    Run Response := do
  let value ← eval depth env endpoint.body
  match Form.fields? endpoint with
  | none => Run.lift (Response.ofValue value)
  | some fields =>
    match Form.record fields form with
    | .error missing => do
      Run.note (.badForm endpoint.method endpoint.path.text (Fault.missingMessage missing))
      return Response.ofMissing missing
    | .ok record => do
      let value ← apply depth value (.record record)
      Run.lift (Response.ofValue value)

/-- A request is answered in the scope of the program, with its tables and the path variables. -/
theorem answer_eq_answerIn (depth : Nat) (tables : List Table) (endpoint : Endpoint)
    (pathVars form : Fields String) :
    endpoint.answer depth tables pathVars form =
      endpoint.answerIn depth (Library.environment tables pathVars) form := rfl

/-- Answers are the same in scopes that are alike for the free names of the body. -/
theorem answerIn_eq {endpoint : Endpoint} {one other : Environment} (depth : Nat)
    (alike : Environment.Alike endpoint.body.free one other) (form : Fields String) :
    endpoint.answerIn depth one form = endpoint.answerIn depth other form := by
  -- Alike values become the same response.
  have answered : ∀ value found, Value.Alike value found →
      Run.Alike Eq (Run.lift (Response.ofValue value)) (Run.lift (Response.ofValue found)) := by
    intro value found both
    rw [both.ofValue_eq]
    exact .self (fun _ => rfl) _
  apply Run.Alike.eq
  apply (eval_alike depth alike).andThen
  intro value found both
  split
  · exact answered value found both
  · split
    · exact .self (fun _ => rfl) _
    · rename_i record _
      apply (Eval.applyWith_alike (eval_alike depth) both (.refl (.record record))).andThen
      exact answered

end Endpoint

/-- What a request has in scope under a name comes from the tables and path variables of that name. -/
theorem Library.lookup?_environment_congr {tables others : List Table}
    {pathVars further : Fields String} {name : String}
    (declared : (tables.filter fun table => table.name == name) =
      others.filter fun table => table.name == name)
    (captured : (pathVars.filter fun entry => entry.1 == name) =
      further.filter fun entry => entry.1 == name) :
    (Library.environment tables pathVars).lookup? name =
      (Library.environment others further).lookup? name := by
  -- Of each the last one counts, and all of the name are the same.
  rw [lookup?_environment, lookup?_environment, declared, Fields.last?, Fields.last?, captured]

/-- Lists that agree in the members of some names agree in those of each of the names. -/
theorem filter_name_congr {α : Type} {nameOf : α → String} {items others : List α}
    {names : List String}
    (same : (items.filter fun item => names.contains (nameOf item)) =
      others.filter fun item => names.contains (nameOf item))
    {name : String} (member : name ∈ names) :
    (items.filter fun item => nameOf item == name) =
      others.filter fun item => nameOf item == name := by
  -- The members of the one name are among those of the names.
  have within : ∀ list : List α, (list.filter fun item => nameOf item == name) =
      (list.filter fun item => names.contains (nameOf item)).filter fun item =>
        nameOf item == name := by
    intro list
    rw [List.filter_filter]
    apply List.filter_congr
    intro item _
    by_cases hit : nameOf item = name <;> simp [hit, member]
  rw [within items, within others, same]

/-! Answers and the log -/

/-- Two machines that differ at most in what a request counts and notes. -/
structure Machine.SameOutside (a b : Machine) : Prop where
  connection : a.connection = b.connection
  clock : a.clock = b.clock
  engines : a.engines = b.engines

/-- One computation on two machines that may have made different notes. -/
def Lockstep.unlogged : Lockstep where
  running a b := a.SameOutside b ∧ a.made = b.made
  faulted first a second b := first = second ∧ a.SameOutside b
  exhausted := Machine.SameOutside
  unanswered := Machine.SameOutside
  faulted_of_running together _ := ⟨rfl, together.1⟩
  exhausted_of_running together := together.1

namespace Machine.SameOutside

variable {a b c : Machine}

/-- Sameness outside goes both ways. -/
theorem symm (same : a.SameOutside b) : b.SameOutside a :=
  ⟨same.connection.symm, same.clock.symm, same.engines.symm⟩

/-- Sameness outside is passed on. -/
theorem trans (same : a.SameOutside b) (next : b.SameOutside c) : a.SameOutside c :=
  ⟨same.connection.trans next.connection, same.clock.trans next.clock,
    same.engines.trans next.engines⟩

end Machine.SameOutside

namespace Lockstep

/-- A note is in the log, in which the machines may differ. -/
theorem unlogged_note (entry : Log.Entry) : unlogged.Keeps (fun _ => True) (Run.note entry) :=
  fun _ _ together => .done trivial ⟨{ together.1 with }, together.2⟩

/-- A statement looks at the connection and at the next engine alone. -/
theorem unlogged_statement {α : Type} (text : String)
    (prepare : Store.Engine → Store → Except Store.Fault (Store.Prepared α)) :
    unlogged.Keeps (fun _ => True) (Run.statement text prepare) := by
  rintro a b ⟨⟨connection, clock, engines⟩, made⟩
  unfold Run.statement
  rw [connection, engines]
  -- The answer and the connection that is left are the same on both machines.
  generalize b.connection.run text (prepare (b.engines 0)) = ended
  obtain ⟨answer, left⟩ := ended
  rcases answer with _ | refusal | found
  · exact .unanswered ⟨rfl, clock, rfl⟩
  · exact .fault ⟨rfl, rfl, clock, rfl⟩
  · exact .done trivial ⟨⟨rfl, clock, rfl⟩, made⟩

/-- None of the operations of a request looks at the log. -/
theorem unlogged_serves (endpoint : Endpoint) : unlogged.Serves endpoint where
  tick _ := by
    rintro a b ⟨⟨connection, clock, engines⟩, made⟩
    unfold Run.tick
    rw [clock]
    exact .done trivial ⟨⟨connection, rfl, engines⟩, made⟩
  freshIdentity := by
    rintro a b ⟨⟨connection, clock, engines⟩, made⟩
    unfold Run.freshIdentity
    rw [made]
    exact .done trivial ⟨⟨connection, clock, engines⟩, rfl⟩
  note entry _ := unlogged_note entry
  -- A query is refused before it is noted, or is noted and then asked for on one connection.
  select query _ arguments := by
    rcases Storage.select_cases query arguments with ⟨fault, same⟩ | ⟨sql, tail, given, _, _, same⟩
    · rw [same]
      exact keeps_fail fault
    · rw [same]
      exact (unlogged_note _).andThen fun _ _ => unlogged_statement sql _
  -- So is an insertion.
  insert table _ fields _ := by
    rcases Storage.insert_cases table fields with ⟨fault, same⟩ | ⟨sql, supplied, _, same⟩
    · rw [same]
      exact keeps_fail fault
    · rw [same]
      exact (unlogged_note _).andThen fun _ _ => unlogged_statement sql _

end Lockstep

/-- Reporting changes neither the outcome nor anything of the machine but its log. -/
theorem Run.reporting_unlogged {α : Type} (report : Fault → Option Log.Entry) (body : Run α)
    (machine : Machine) :
    (Run.reporting report body machine).1 = (body machine).1 ∧
      (Run.reporting report body machine).2.SameOutside (body machine).2 := by
  -- A report adds a note to the log, or there is none.
  obtain ⟨outcome, same | ⟨fault, entry, _, same⟩⟩ := Run.reporting_cases report body machine
  · exact ⟨outcome, by rw [same]; exact ⟨rfl, rfl, rfl⟩⟩
  · exact ⟨outcome, by rw [same]; exact ⟨rfl, rfl, rfl⟩⟩

namespace Endpoint

/-- Answering does not depend on the log. -/
theorem answer_unlogged (endpoint : Endpoint) (depth : Nat) (tables : List Table)
    (pathVars form : Fields String) {a b : Machine} (together : Lockstep.unlogged.running a b) :
    (endpoint.answer depth tables pathVars form a).1 =
        (endpoint.answer depth tables pathVars form b).1 ∧
      (endpoint.answer depth tables pathVars form a).2.SameOutside
        (endpoint.answer depth tables pathVars form b).2 := by
  -- The two runs keep in step, and end in the same way on machines that differ in their logs.
  have ended := Lockstep.answer_keeps (Lockstep.unlogged_serves endpoint) depth tables pathVars
    form a b together
  generalize endpoint.answer depth tables pathVars form a = first at ended
  generalize endpoint.answer depth tables pathVars form b = second at ended
  cases ended with
  | done _ still => exact ⟨rfl, still.1⟩
  | fault stopped => exact ⟨by rw [stopped.1], stopped.2⟩
  | exhausted stopped => exact ⟨rfl, stopped⟩
  | unanswered stopped => exact ⟨rfl, stopped⟩

/-- A request is served alike with tables and path variables that its body cannot tell apart. -/
theorem run_alike (endpoint : Endpoint) (depth : Nat) (form : Fields String)
    {tables others : List Table} {pathVars further : Fields String}
    (alike : Environment.Alike endpoint.body.free (Library.environment tables pathVars)
      (Library.environment others further)) (machine : Machine) :
    (endpoint.run depth tables pathVars form machine).1 =
        (endpoint.run depth others further form machine).1 ∧
      (endpoint.run depth tables pathVars form machine).2.SameOutside
        (endpoint.run depth others further form machine).2 := by
  -- The note of the request names its path variables, so the logs may differ.
  obtain ⟨outcome, reported⟩ := Run.reporting_unlogged endpoint.report
    (endpoint.answer depth tables pathVars form) (endpoint.dispatched pathVars machine)
  obtain ⟨outcome', reported'⟩ := Run.reporting_unlogged endpoint.report
    (endpoint.answer depth others further form) (endpoint.dispatched further machine)
  have answers : endpoint.answer depth tables pathVars form =
      endpoint.answer depth others further form := by
    rw [answer_eq_answerIn, answer_eq_answerIn, answerIn_eq depth alike]
  obtain ⟨same, outside⟩ := endpoint.answer_unlogged depth others further form
    (a := endpoint.dispatched pathVars machine) (b := endpoint.dispatched further machine)
    ⟨⟨rfl, rfl, rfl⟩, rfl⟩
  rw [run_eq, run_eq, outcome, outcome', answers]
  rw [answers] at reported
  exact ⟨same, reported.trans (outside.trans reported'.symm)⟩

end Endpoint

/--
Evaluation sees only the names that an expression mentions.

In two scopes that have the same values for its free names, an expression leaves the same machine and
ends with the same fault, or with values that are alike, render alike and answer alike. So a request is
answered in the same way in both scopes, and the tables and path variables that the body does not
mention change neither its outcome nor what it leaves of the store, the clock and the engines.
-/
theorem eval_sees_free (depth : Nat) (machine : Machine) :
    (∀ (expr : Expr) (one other : Environment),
      (∀ name ∈ expr.free, one.lookup? name = other.lookup? name) →
      (eval depth one expr machine).2 = (eval depth other expr machine).2 ∧
        Outcome.Alike
          (fun value found => Value.Alike value found ∧
            Markup.render value = Markup.render found ∧
            Response.ofValue value = Response.ofValue found)
          (eval depth one expr machine).1 (eval depth other expr machine).1) ∧
      (∀ (endpoint : Endpoint) (form : Fields String) (one other : Environment),
        (∀ name ∈ endpoint.body.free, one.lookup? name = other.lookup? name) →
        endpoint.answerIn depth one form machine = endpoint.answerIn depth other form machine) ∧
      ∀ (endpoint : Endpoint) (form : Fields String) (tables others : List Table)
        (pathVars further : Fields String),
        (tables.filter fun table => endpoint.body.free.contains table.name) =
          (others.filter fun table => endpoint.body.free.contains table.name) →
        (pathVars.filter fun entry => endpoint.body.free.contains entry.1) =
          (further.filter fun entry => endpoint.body.free.contains entry.1) →
        (endpoint.run depth tables pathVars form machine).1 =
            (endpoint.run depth others further form machine).1 ∧
          (endpoint.run depth tables pathVars form machine).2.store =
            (endpoint.run depth others further form machine).2.store ∧
          (endpoint.run depth tables pathVars form machine).2.clock =
            (endpoint.run depth others further form machine).2.clock ∧
          (endpoint.run depth tables pathVars form machine).2.engines =
            (endpoint.run depth others further form machine).2.engines := by
  refine ⟨?_, ?_, ?_⟩
  -- The first part is about an expression alone.
  · intro expr one other same
    obtain ⟨machines, ended⟩ := eval_alike depth (Environment.Alike.ofSame same) machine
    refine ⟨machines, ?_⟩
    generalize (eval depth one expr machine).1 = first at ended
    generalize (eval depth other expr machine).1 = second at ended
    cases ended with
    | done both => exact .done ⟨both, both.render_eq, both.ofValue_eq⟩
    | fault fault => exact .fault fault
    | exhausted => exact .exhausted
    | unanswered => exact .unanswered
  -- The second part is about an endpoint in any scope.
  · intro endpoint form one other same
    rw [Endpoint.answerIn_eq depth (Environment.Alike.ofSame same)]
  · intro endpoint form tables others pathVars further declared captured
    -- Each free name has the same tables and path variables behind it.
    have same : ∀ name ∈ endpoint.body.free, (Library.environment tables pathVars).lookup? name =
        (Library.environment others further).lookup? name := fun name member =>
      Library.lookup?_environment_congr (filter_name_congr declared member)
        (filter_name_congr captured member)
    obtain ⟨outcome, outside⟩ :=
      endpoint.run_alike depth form (Environment.Alike.ofSame same) machine
    exact ⟨outcome, congrArg Store.Connection.store outside.connection, outside.clock,
      outside.engines⟩

namespace Endpoint

/-- A paragraph that greets by name, through a function that mentions a name of its scope. -/
def salute : Endpoint where
  method := "GET"
  path := ⟨[.literal "hello", .capture "name"]⟩
  body := .app (.var "p")
    (.app (.abs "word" (.list [.var "word", .var "name"])) (.literal (.text "hi ")))
  type := .primitive "html"

/-- A table that the greeting does not mention. -/
def accounts : Table := { name := "account", columns := [("owner", .primitive "text")] }

/-- A machine without tables. -/
def idle : Machine := { clock := fun _ => 0 }

/-- The greeting mentions an element and a path variable; nothing else in scope changes it. -/
theorem salute_sees_free :
    salute.body.free = ["p", "name"] ∧
      (eval 4 (Library.environment [] [("name", "ann")]) salute.body idle).2 =
        (eval 4 [[("name", .text "ann")], [("p", .tag "p")]] salute.body idle).2 ∧
      salute.answerIn 4 (Library.environment [] [("name", "ann")]) [] idle =
        salute.answerIn 4 [[("name", .text "ann")], [("p", .tag "p")]] [] idle ∧
      (salute.run 4 [] [("name", "ann")] [] idle).1 =
        (salute.run 4 [accounts] [("id", "7"), ("name", "ann")] [] idle).1 := by
  have names : salute.body.free = ["p", "name"] := rfl
  -- Both names stand for the same value in the two scopes.
  have same : ∀ name ∈ salute.body.free,
      (Library.environment [] [("name", "ann")]).lookup? name =
        Environment.lookup? [[("name", .text "ann")], [("p", .tag "p")]] name := by
    rw [names]
    intro name member
    rcases List.mem_pair.mp member with rfl | rfl <;> rfl
  obtain ⟨evaluated, answered, served⟩ := eval_sees_free 4 idle
  exact ⟨names, (evaluated _ _ _ same).1, answered salute [] _ _ same,
    (served salute [] [] [accounts] _ _ rfl rfl).1⟩

end Endpoint

end PageServer
