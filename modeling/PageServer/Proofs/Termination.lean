import PageServer.Proofs.Atom
import PageServer.Proofs.Depth
import PageServer.Proofs.Engine
import PageServer.Proofs.Layers
import PageServer.Proofs.Program
import PageServer.Proofs.Readback
import PageServer.Proofs.Reports

/-!
Programs without functions finish, if their queries are answered.

Only the application of a function goes on with an expression that is no part of the one at hand. Where
a program makes no functions it meets none, so evaluation goes no deeper than the expression is high,
whatever the store holds. A query is answered before its body is evaluated, so what the body inserts
adds nothing to the rows that are gone through. What is left is a query that the store itself works on
without end.
-/

namespace PageServer

/-! How high an expression is -/

namespace Expr

mutual

/-- How many nodes stand within one another, at most. -/
def height : Expr → Nat
  | .literal _ | .var _ | .hole _ => 1
  | .app function argument => max function.height argument.height + 1
  | .abs _ body => body.height + 1
  | .list elements => heightAll elements + 1
  | .record fields => heightFields fields + 1
  | .dot whole _ => whole.height + 1
  | .op _ left right => max left.height right.height + 1
  | .forEach _ arguments body => max (heightAll arguments) body.height + 1
  | .insert _ value next => max value.height next.height + 1

/-- The height of the highest of several expressions. -/
def heightAll : List Expr → Nat
  | [] => 0
  | first :: rest => max first.height (heightAll rest)

/-- The height of the highest expression among named entries. -/
def heightFields : List (String × Expr) → Nat
  | [] => 0
  | (_, first) :: rest => max first.height (heightFields rest)

end

/-- Several expressions are as high as the highest of them, at least. -/
theorem height_le_heightAll {elements : List Expr} {element : Expr} (member : element ∈ elements) :
    element.height ≤ heightAll elements := by
  -- The walk over the elements meets this one.
  induction elements with
  | nil => cases member
  | cons first rest ih =>
    simp only [heightAll]
    rcases List.mem_cons.mp member with rfl | later
    · exact Nat.le_max_left ..
    · exact Nat.le_trans (ih later) (Nat.le_max_right ..)

/-- Entries are as high as their expressions. -/
theorem heightFields_eq (fields : List (String × Expr)) :
    heightFields fields = heightAll (fields.map Prod.snd) := by
  -- Only the names are left out.
  induction fields with
  | nil => rfl
  | cons first rest ih => simp only [heightFields, ih, List.map_cons, heightAll]

/-- So are the expressions of entries. -/
theorem height_le_heightFields {fields : List (String × Expr)} {entry : String × Expr}
    (member : entry ∈ fields) : entry.2.height ≤ heightFields fields := by
  -- The height does not depend on the names.
  rw [heightFields_eq]
  exact height_le_heightAll (List.mem_map_of_mem member)

/-- The expressions that stand directly in an expression. -/
def parts : Expr → List Expr
  | .literal _ | .var _ | .hole _ => []
  | .app function argument => [function, argument]
  | .abs _ body => [body]
  | .list elements => elements
  | .record fields => fields.map Prod.snd
  | .dot whole _ => [whole]
  | .op _ left right => [left, right]
  | .forEach _ arguments body => body :: arguments
  | .insert _ value next => [value, next]

/-- A part is less high than the whole. -/
theorem height_lt_of_mem_parts {whole part : Expr} (member : part ∈ whole.parts) :
    part.height < whole.height := by
  -- Every expression counts one level above the highest of its parts.
  cases whole with
  | literal _ | var _ | hole _ => cases member
  | app _ _ | op _ _ _ | insert _ _ _ =>
    simp only [parts, List.mem_cons, List.not_mem_nil, or_false] at member
    rcases member with rfl | rfl <;> simp only [height] <;> omega
  | abs _ _ | dot _ _ =>
    -- There is one part only, one level below.
    obtain rfl := List.mem_singleton.mp member
    exact Nat.lt_succ_self _
  | list elements => exact Nat.lt_succ_of_le (height_le_heightAll member)
  | record fields =>
    obtain ⟨entry, among, rfl⟩ := List.mem_map.mp member
    exact Nat.lt_succ_of_le (height_le_heightFields among)
  | forEach _ arguments body =>
    rcases List.mem_cons.mp member with rfl | among
    · exact Nat.lt_succ_of_le (Nat.le_max_right ..)
    · exact Nat.lt_succ_of_le (Nat.le_trans (height_le_heightAll among) (Nat.le_max_left ..))

/-- The nodes of a part stand within the whole. -/
theorem nodes_subset_of_mem_parts {whole part : Expr} (member : part ∈ whole.parts) :
    part.nodes ⊆ whole.within := by
  cases whole with
  | literal _ | var _ | hole _ => cases member
  | app _ _ | op _ _ _ | insert _ _ _ =>
    -- The two parts stand first, then what stands within them.
    simp only [parts, List.mem_cons, List.not_mem_nil, or_false] at member
    rcases member with rfl | rfl <;> intro node inside <;>
      rcases List.mem_cons.mp inside with rfl | deeper <;> simp [*]
  | abs _ _ | dot _ _ =>
    obtain rfl := List.mem_singleton.mp member
    simp [nodes]
  | list elements =>
    have among : part ∈ elements := member
    simpa using nodes_subset_withinAll among
  | record fields =>
    obtain ⟨entry, among, rfl⟩ := List.mem_map.mp member
    simpa using nodes_subset_withinFields among
  | forEach _ arguments body =>
    -- The body stands first, then the arguments with what stands within them.
    rcases List.mem_cons.mp member with rfl | among <;> intro node inside
    · rcases List.mem_cons.mp inside with rfl | deeper <;> simp [*]
    · simp [nodes_subset_withinAll among inside]

/-- No node of the expression makes a function. -/
def IsFirstOrder (expr : Expr) : Prop := ∀ param body, .abs param body ∉ expr.nodes

/-- An expression without functions that is not higher than a number of nodes. -/
structure Fits (depth : Nat) (expr : Expr) : Prop where
  firstOrder : expr.IsFirstOrder
  height : expr.height ≤ depth

/-- A part of what fits has no functions either, and is less high. -/
theorem Fits.part {depth : Nat} {whole part : Expr} (fits : Fits (depth + 1) whole)
    (member : part ∈ whole.parts) : Fits depth part where
  -- Its nodes are among those of the whole.
  firstOrder param body inside :=
    fits.firstOrder param body (List.mem_cons_of_mem whole (nodes_subset_of_mem_parts member inside))
  height := Nat.le_of_lt_succ (Nat.lt_of_lt_of_le (height_lt_of_mem_parts member) fits.height)

end Expr

/-! Values without functions -/

/-- A value that holds no function of the program, its lists and records nested this deep at most. -/
inductive Value.Nests : Nat → Value → Prop where
  | text {level : Nat} (content : String) : Nests level (.text content)
  | int {level : Nat} (n : Int) : Nests level (.int n)
  | bool {level : Nat} (truth : Bool) : Nests level (.bool truth)
  | list {level : Nat} {items : List Value} : (∀ item ∈ items, Nests level item) →
    Nests (level + 1) (.list items)
  | record {level : Nat} {fields : Fields Value} : (∀ entry ∈ fields, Nests level entry.2) →
    Nests (level + 1) (.record fields)
  | builtin {level : Nat} (function : Builtin) : Nests level (.builtin function)
  | deferred {level : Nat} (action : Deferred) : Nests level (.deferred action)
  | query {level : Nat} (query : Query) : Nests level (.query query)
  | raw {level : Nat} (markup : String) : Nests level (.raw markup)
  | tag {level : Nat} (name : String) : Nests level (.tag name)
  | tagWith {level : Nat} (name : String) {fields : Fields Value} :
    (∀ entry ∈ fields, Nests level entry.2) → Nests (level + 1) (.tagWith name fields)
  | response {level : Nat} (response : Response) : Nests level (.response response)

namespace Value.Nests

variable {level : Nat} {value : Value}

/-- Atoms do not nest. -/
theorem ofAtom {type : Ty.Storable} (atom : Value.IsAtom type value) : Value.Nests level value := by
  -- Texts, numbers and truth values have no parts.
  cases atom with
  | text content => exact .text content
  | int n => exact .int n
  | bool truth => exact .bool truth

/-- There may be levels to spare. -/
theorem mono {more : Nat} (within : level ≤ more) (nests : Value.Nests level value) :
    Value.Nests more value := by
  -- One level more is enough, and goes through all parts of the value.
  have further : ∀ {level value}, Value.Nests level value → Value.Nests (level + 1) value := by
    intro level value nests
    induction nests with
    | text content => exact .text content
    | int n => exact .int n
    | bool truth => exact .bool truth
    | list _ ih => exact .list ih
    | record _ ih => exact .record ih
    | builtin function => exact .builtin function
    | deferred action => exact .deferred action
    | query query => exact .query query
    | raw markup => exact .raw markup
    | tag name => exact .tag name
    | tagWith name _ ih => exact .tagWith name ih
    | response response => exact .response response
  -- Any number of levels more is one more, again and again.
  induction within with
  | refl => exact nests
  | step _ ih => exact further ih

/-- A field of a record nests no deeper than the record. -/
theorem field (nests : Value.Nests level value) {name : String} {held : Value}
    (found : Eval.field name value = .ok held) : Value.Nests level held := by
  -- The value that has the field is a record, and the field is one of its entries.
  obtain ⟨fields, rfl, located⟩ := Eval.field_eq_ok.mp found
  cases nests with
  | @record level _ values =>
    exact (values _ (Fields.mem_of_get? located)).mono (Nat.le_succ level)

end Value.Nests

/-- A scope in which all names stand for values that do not nest, and none for a function. -/
def Environment.IsFlat (env : Environment) : Prop :=
  ∀ name value, env.lookup? name = some value → Value.Nests 0 value

/-- Flat values can be laid over a flat scope. -/
theorem Environment.IsFlat.extend {env : Environment} (flat : env.IsFlat) {bindings : Frame}
    (values : ∀ entry ∈ bindings, Value.Nests 0 entry.2) : (env.extend bindings).IsFlat := by
  intro name value found
  rw [Environment.lookup?_extend, Option.or_eq_some_iff] at found
  -- The name is one of those laid over the scope, or is found below them.
  rcases found with here | ⟨_, below⟩
  · exact values _ (Fields.mem_of_mem_ofPairs (Fields.mem_of_get? here))
  · exact flat name value below

/-- What a program has in scope at the start of a request is flat. -/
theorem Library.environment_isFlat (tables : List Table) (pathVars : Fields String) :
    (Library.environment tables pathVars).IsFlat := by
  intro name value found
  rw [Library.lookup?_environment] at found
  simp only [Option.or_eq_some_iff, Option.map_eq_some_iff] at found
  -- A path variable, a table, an element, or an entry of the library.
  rcases found with ⟨text, _, rfl⟩ | ⟨_, ⟨table, _, rfl⟩ | ⟨_, element | ⟨_, entry, known, rfl⟩⟩⟩
  · exact .text text
  · exact .query _
  · split at element <;> cases element
    exact .tag name
  · have member := Fields.mem_of_get? known
    simp only [Library.standard, List.mem_cons, Prod.mk.injEq, List.not_mem_nil, or_false] at member
    rcases member with ⟨_, rfl⟩ | ⟨_, rfl⟩
    · exact .deferred .now
    · exact .builtin .redirect

/-! Computations that have depth enough -/

/-- A computation has not run out of depth, and a value that it has ended with is a good one. -/
inductive Outcome.Sufficed {α : Type} (good : α → Prop) : Outcome α → Prop where
  | done {value : α} : good value → Sufficed good (.done value)
  | fault (fault : Fault) : Sufficed good (.fault fault)
  | unanswered : Sufficed good .unanswered

/-- On every machine the computation has depth enough, and its value is a good one. -/
def Run.Suffices {α : Type} (good : α → Prop) (run : Run α) : Prop :=
  ∀ machine, (run machine).1.Sufficed good

namespace Run.Suffices

variable {α β : Type} {good : α → Prop} {fine : β → Prop}

/-- A value that is given needs no depth. -/
theorem pure {value : α} (holds : good value) : Run.Suffices good (Pure.pure value : Run α) :=
  fun _ => .done holds

/-- A fault that is given needs no depth. -/
theorem fail (fault : Fault) : Run.Suffices good (Run.fail fault) := fun _ => .fault fault

/-- A pure result needs no depth, so only its value has to be a good one. -/
theorem lift {result : Except Fault α} (holds : ∀ value, result = .ok value → good value) :
    Run.Suffices good (Run.lift result) := by
  -- A fault is an end as well.
  cases result with
  | error fault => exact fail fault
  | ok value => exact pure (holds value rfl)

/-- A weaker demand on the value is met as well. -/
theorem mono {weaker : α → Prop} {run : Run α} (enough : Run.Suffices good run)
    (weaken : ∀ value, good value → weaker value) : Run.Suffices weaker run := by
  -- Only what is said of the value changes.
  intro machine
  have ended := enough machine
  generalize (run machine).1 = outcome at ended ⊢
  cases ended with
  | done holds => exact .done (weaken _ holds)
  | fault fault => exact .fault fault
  | unanswered => exact .unanswered

/-- A sequence has depth enough if its parts have, the second for every good value. -/
theorem andThen {first : Run α} {next : α → Run β} (before : Run.Suffices good first)
    (after : ∀ value, good value → Run.Suffices fine (next value)) :
    Run.Suffices fine (first >>= next) := by
  intro machine
  have ended := before machine
  -- The first part ends for want of nothing but an answer, or gives a value to go on with.
  rcases reached : first machine with ⟨outcome, between⟩
  rw [reached] at ended
  cases ended with
  | done holds =>
    rw [Run.andThen_of_done reached]
    exact after _ holds between
  | fault fault =>
    rw [Run.andThen_of_fault reached]
    exact .fault fault
  | unanswered =>
    rw [Run.andThen_of_unanswered reached]
    exact .unanswered

/-- Computing something for each item has depth enough if it has for each one. -/
theorem each {compute : α → Run β} {items : List α}
    (enough : ∀ item ∈ items, Run.Suffices fine (compute item)) :
    Run.Suffices (fun values => ∀ value ∈ values, fine value) (Run.each compute items) := by
  -- The induction is on the items; the values of those before stay good.
  induction items with
  | nil => exact pure (by simp)
  | cons item rest ih =>
    obtain ⟨here, later⟩ := List.forall_mem_cons.mp enough
    apply here.andThen
    intro value holds
    apply (ih later).andThen
    intro values others
    exact pure (List.forall_mem_cons.mpr ⟨holds, others⟩)

/-- A statement needs no depth: the store answers it, or refuses it, or works on it without end. -/
theorem statement (text : String)
    (prepare : Store.Engine → Store → Except Store.Fault (Store.Prepared α)) :
    Run.Suffices (fun _ => True) (Run.statement text prepare) := by
  intro machine
  -- The outcome is one of three, whatever has been prepared.
  have ends (answer : Option (Except Store.Refusal α)) :
      (Run.ofAnswer answer).Sufficed fun _ => True := by
    rcases answer with _ | refusal | value
    · exact .unanswered
    · exact .fault _
    · exact .done trivial
  exact ends _

/-- A note and then a statement. -/
theorem noted (entry : Log.Entry) (text : String)
    (prepare : Store.Engine → Store → Except Store.Fault (Store.Prepared α)) :
    Run.Suffices (fun _ => True) (Run.note entry >>= fun _ => Run.statement text prepare) :=
  -- A note changes the machine and nothing else, so the statement does as it does by itself.
  fun machine => statement text prepare (Run.note entry machine).2

end Run.Suffices

namespace Storage

/-- A query needs no depth, whatever the store holds. -/
theorem select_suffices (query : Query) (arguments : List Value) :
    Run.Suffices (fun _ => True) (select query arguments) := by
  -- A query that fails before it reaches the store has failed, and any other is a note and a
  -- statement.
  rcases select_cases query arguments with ⟨fault, same⟩ | ⟨sql, tail, parameters, _, _, same⟩
  · rw [same]
    exact .fail fault
  · rw [same]
    exact .noted _ _ _

/-- An insertion needs no depth, whatever the store holds. -/
theorem insert_suffices (table : String) (fields : Fields Value) :
    Run.Suffices (fun _ => True) (insert table fields) := by
  -- So is an insertion.
  rcases insert_cases table fields with ⟨fault, same⟩ | ⟨sql, supplied, _, same⟩
  · rw [same]
    exact .fail fault
  · rw [same]
    exact .noted _ _ _

end Storage

/-! Evaluation -/

namespace Eval

/-- In flat scopes the evaluator has depth enough for expressions without functions up to a height. -/
def Copes (depth : Nat) (recur : Evaluator) : Prop :=
  ∀ {env expr}, env.IsFlat → expr.Fits depth → Run.Suffices (Value.Nests expr.height) (recur env expr)

variable {depth : Nat} {recur : Evaluator}

/-- The value of a name is flat, and the clock can be read. -/
theorem variableValue_suffices {env : Environment} (flat : env.IsFlat) (name : String) :
    Run.Suffices (Value.Nests 1) (variableValue env name) := by
  -- A name is unbound, or stands for the clock, or for a value.
  unfold variableValue
  split
  · exact .fail _
  · exact fun _ => .done (.int _)
  · rename_i value _ found
    exact .pure ((flat name value found).mono (Nat.zero_le 1))

/-- Applying a value that is no function of the program goes on with no body. -/
theorem applyWith_suffices {level : Nat} {function argument : Value}
    (nests : Value.Nests level function) (given : Value.Nests level argument) :
    Run.Suffices (Value.Nests level) (applyWith recur function argument) := by
  -- Elements build markup, the library sends elsewhere, and the rest is refused.
  unfold applyWith
  cases nests with
  -- A tag that is applied to a record waits for its body, and else prints.
  | tag name =>
    dsimp only
    split
    · cases given with
      | record held => exact .pure (.tagWith name held)
    · apply Run.Suffices.lift
      intro value built
      obtain ⟨_, markup, _, _, rfl⟩ := element_eq_ok.mp built
      exact .raw markup
  | tagWith name _ =>
    apply Run.Suffices.lift
    intro value built
    obtain ⟨_, markup, _, _, rfl⟩ := element_eq_ok.mp built
    exact .raw markup
  | builtin function =>
    cases function
    apply Run.Suffices.lift
    intro value sent
    obtain ⟨location, _, rfl⟩ := redirect_eq_ok.mp sent
    exact .response _
  | text _ | int _ | bool _ | list _ | record _ | deferred _ | query _ | raw _ | response _ =>
    exact .fail _

/-- A part has depth enough, and its value nests less deep than the whole is high. -/
theorem Copes.part (copes : Copes depth recur) {env : Environment} (flat : env.IsFlat)
    {whole part : Expr} (fits : whole.Fits (depth + 1)) (member : part ∈ whole.parts) :
    Run.Suffices (Value.Nests (whole.height - 1)) (recur env part) :=
  -- A part is less high than the whole, and so its value nests less deep.
  (copes flat (fits.part member)).mono fun _ nests =>
    nests.mono (Nat.le_sub_one_of_lt (Expr.height_lt_of_mem_parts member))

/-- One node has depth enough if its parts have, which are less high. -/
theorem step_suffices (copes : Copes depth recur) {env : Environment} (flat : env.IsFlat) {expr : Expr}
    (fits : expr.Fits (depth + 1)) :
    Run.Suffices (Value.Nests expr.height) (step recur env expr) := by
  -- A value of a part does for the whole; a list or a record of such values is one level deeper.
  have part := fun {part : Expr} => @Copes.part depth recur copes env flat expr part fits
  have spare : ∀ value, Value.Nests (expr.height - 1) value → Value.Nests expr.height value :=
    fun _ nests => nests.mono (Nat.sub_le ..)
  -- One case for each kind of node; parts are evaluated in the order of the source.
  cases expr with
  | literal given =>
    apply Run.Suffices.lift
    intro value read
    obtain ⟨_, atom⟩ := literal_isAtom read
    exact .ofAtom atom
  | var name => exact variableValue_suffices flat name
  | app function argument =>
    -- Neither value is a function of the program, so no body is evaluated anew.
    apply (part (by simp [Expr.parts])).andThen
    intro applied nests
    apply (part (by simp [Expr.parts])).andThen
    intro given alsoNests
    exact applyWith_suffices (spare _ nests) (spare _ alsoNests)
  | abs param body => exact absurd (Expr.mem_nodes_self _) (fits.firstOrder param body)
  | list elements =>
    apply (Run.Suffices.each fun element member => part member).andThen
    intro values nest
    exact .pure (.list nest)
  | record fields =>
    -- A value of a field nests as deep as the highest of the fields at most.
    have each : ∀ entry ∈ fields, Run.Suffices
        (fun named : String × Value => Value.Nests (Expr.heightFields fields) named.2)
        (do return (entry.1, ← recur env entry.2)) := by
      intro entry member
      apply (part (List.mem_map_of_mem member)).andThen
      intro value nests
      exact .pure nests
    apply (Run.Suffices.each each).andThen
    intro named nest
    exact .pure (.record fun entry member => nest entry (Fields.mem_of_mem_ofPairs member))
  | dot whole name =>
    apply (part (by simp [Expr.parts])).andThen
    intro value nests
    exact .lift fun _ found => spare _ (nests.field found)
  | op operator left right =>
    apply (part (by simp [Expr.parts])).andThen
    intro first _
    apply (part (by simp [Expr.parts])).andThen
    intro second _
    apply Run.Suffices.lift
    intro value computed
    obtain ⟨_, atom⟩ := operate_isAtom computed
    exact .ofAtom atom
  | forEach query arguments body =>
    -- The arguments are evaluated before the query is asked, and the body after it.
    apply (Run.Suffices.each fun argument member => part (List.mem_cons_of_mem body member)).andThen
    intro given _
    apply (Storage.select_suffices query given).andThen
    intro rows _
    -- A row binds atoms, so that the body is evaluated in a flat scope as well.
    have each : ∀ row ∈ rows, Run.Suffices
        (Value.Nests (max (Expr.heightAll arguments) body.height))
        (do let bindings ← Run.lift (Storage.decodeRow query row)
            recur (env.extend bindings) body) := by
      intro row _
      cases decoded : Storage.decodeRow query row with
      | error fault => exact .fail fault
      | ok bindings =>
        refine copes.part (flat.extend fun entry member => ?_) fits List.mem_cons_self
        obtain ⟨_, atom, _⟩ := (Storage.decodeRow_fits decoded).2 entry member
        exact .ofAtom atom
    apply (Run.Suffices.each each).andThen
    intro values nest
    exact .pure (.list nest)
  | insert table value next =>
    -- What comes after the insertion gives the value of the whole.
    apply (part (by simp [Expr.parts])).andThen
    intro whole _
    apply (Run.Suffices.lift fun _ _ => trivial).andThen
    intro fields _
    apply (Storage.insert_suffices table fields).andThen
    intro _ _
    exact (part (by simp [Expr.parts])).mono spare
  | hole kind => exact .fail _

/-- Evaluation has depth enough for expressions without functions that are no higher than it. -/
theorem copes_eval (depth : Nat) : Copes depth (eval depth) := by
  -- Each level of depth is one node around evaluations of less depth.
  induction depth with
  | zero =>
    intro env expr _ fits
    have positive : 0 < expr.height := by cases expr <;> exact Nat.succ_pos _
    exact absurd fits.height (Nat.not_le.mpr positive)
  | succ depth ih => exact fun flat fits => step_suffices ih flat fits

end Eval

/-! Rows -/

/-- As many values are computed as there are items. -/
theorem Run.length_each {α β : Type} {compute : α → Run β} {items : List α} {machine : Machine}
    {values : List β} (ended : (Run.each compute items machine).1 = .done values) :
    values.length = items.length := by
  -- The induction is on the items, each of which has added one value.
  induction items generalizing machine values with
  | nil =>
    cases ended
    rfl
  | cons item rest ih =>
    obtain ⟨first, between, _, further⟩ := Run.andThen_done ended
    obtain ⟨others, after, later, built⟩ := Run.andThen_done further
    cases built
    rw [List.length_cons, List.length_cons, ih (congrArg Prod.fst later)]

namespace Storage

/--
The rows that a query has in the store of a machine, with values for its placeholders.

What goes beyond the language has the rows that the machine's next engine gives for it.
-/
def HasRows (machine : Machine) (query : Query) (arguments : List Value)
    (rows : List (Fields Store.Cell)) : Prop :=
  ∃ tail parameters statement cells, Storage.tail query = .ok tail ∧
    encodeAll arguments = .ok parameters ∧
    machine.store.prepareSelect (machine.engines 0) (query.question tail) parameters =
      .ok statement ∧
    statement.bindings = cells.map .ok ∧
    statement.step cells = some (.ok (machine.store, rows))

/-- What a query gives are the rows that it has in the store at that time. -/
theorem select_rows {query : Query} {arguments : List Value} {machine : Machine}
    {rows : List (Fields Store.Cell)} (ended : (select query arguments machine).1 = .done rows) :
    HasRows machine query arguments rows := by
  -- The text, what follows the table and the values are made first, from the program alone.
  unfold select at ended
  obtain ⟨sql, _, written, further⟩ := Run.andThen_done ended
  obtain rfl := Run.lift_same written
  obtain ⟨tail, _, followed, later⟩ := Run.andThen_done further
  obtain rfl := Run.lift_same followed
  obtain ⟨parameters, _, encoded, asked⟩ := Run.andThen_done later
  obtain rfl := Run.lift_same encoded
  obtain ⟨statement, cells, prepared, bound, stepped⟩ :=
    Store.Connection.run_bound (selection_done.mp asked)
  refine ⟨tail, parameters, statement, cells, Run.lift_done (congrArg Prod.fst followed),
    Run.lift_done (congrArg Prod.fst encoded), prepared, bound, ?_⟩
  -- A selection hands on the store that it was prepared for.
  rw [stepped, Store.prepareSelect_step prepared stepped]
  rfl

end Storage

namespace Eval

/--
The value of a query's node has one item for each row that the query had when it was asked.

That was once its arguments had been evaluated, and before the body was: what the body inserts does not
count.
-/
theorem forEach_rows {depth : Nat} {env : Environment} {query : Query} {arguments : List Expr}
    {body : Expr} {machine : Machine} {value : Value}
    (ended : (eval (depth + 1) env (.forEach query arguments body) machine).1 = .done value) :
    ∃ given asked rows items, Run.each (eval depth env) arguments machine = (.done given, asked) ∧
      Storage.HasRows asked query given rows ∧ value = .list items ∧
      items.length = rows.length := by
  -- A query's node is a sequence of four steps, each of which has ended with a value.
  obtain ⟨given, asked, evaluated, further⟩ := Run.andThen_done ended
  obtain ⟨rows, between, selected, later⟩ := Run.andThen_done further
  obtain ⟨items, after, computed, built⟩ := Run.andThen_done later
  cases built
  exact ⟨given, asked, rows, items, evaluated, Storage.select_rows (congrArg Prod.fst selected), rfl,
    Run.length_each (congrArg Prod.fst computed)⟩

end Eval

/-- A computation has ended with a good value, or with a fault. -/
inductive Outcome.Finished {α : Type} (good : α → Prop) : Outcome α → Prop where
  | done {value : α} : good value → Finished good (.done value)
  | fault (fault : Fault) : Finished good (.fault fault)

/-- A computation that has depth enough and does not wait for the store has finished. -/
theorem Outcome.Sufficed.finished {α : Type} {good : α → Prop} {outcome : Outcome α}
    (enough : outcome.Sufficed good) (ends : outcome ≠ .unanswered) : outcome.Finished good := by
  -- Of the three ways in which depth has been enough, one is ruled out.
  cases enough with
  | done holds => exact .done holds
  | fault fault => exact .fault fault
  | unanswered => exact absurd rfl ends

/--
Programs without functions finish, if the store comes to an end with each of their queries.

Evaluation at the start of a request goes no deeper into an expression without functions than this is
high, whatever the store holds and whatever is inserted on the way, and more depth makes no difference.
If the queries are answered it ends with a fault, or with a value that nests no deeper either. Wherever
the node of a query has a value, this has one item for each row that the query had when it was asked.
-/
theorem eval_finishes {expr : Expr} (firstOrder : expr.IsFirstOrder) (tables : List Table)
    (pathVars : Fields String) :
    (∀ machine, (eval expr.height (Library.environment tables pathVars) expr machine).1 ≠
      .exhausted) ∧
    (∀ machine, expr.IsAnswered machine →
      (eval expr.height (Library.environment tables pathVars) expr machine).1.Finished
        (Value.Nests expr.height)) ∧
    (∀ depth, expr.height ≤ depth → eval depth (Library.environment tables pathVars) expr =
      eval expr.height (Library.environment tables pathVars) expr) ∧
    ∀ depth env query arguments body machine value,
      (eval (depth + 1) env (.forEach query arguments body) machine).1 = .done value →
        ∃ given asked rows items, Run.each (eval depth env) arguments machine = (.done given, asked) ∧
          Storage.HasRows asked query given rows ∧ value = .list items ∧
          items.length = rows.length := by
  -- What is in scope at the start holds no function, so evaluation copes with as much depth as the
  -- expression is high.
  have enough := Eval.copes_eval expr.height (Library.environment_isFlat tables pathVars)
    ⟨firstOrder, Nat.le_refl _⟩
  have bounded : ∀ machine,
      (eval expr.height (Library.environment tables pathVars) expr machine).1 ≠ .exhausted := by
    intro machine exhausted
    have ended := enough machine
    rw [exhausted] at ended
    cases ended
  refine ⟨bounded, fun machine answered => ?_, fun depth within => ?_,
    fun _ _ _ _ _ _ _ => Eval.forEach_rows⟩
  · exact (enough machine).finished (answered.eval expr.height tables pathVars)
  · -- What has not run out of depth does the same with more.
    funext machine
    exact eval_deepens within _ _ machine (bounded machine)

/-- Notes, each a text. -/
def notes : Table where
  name := "note"
  columns := [("body", .text)]

/-- A program that inserts each note once more. -/
def copying : Expr :=
  .forEach (.ofTable notes) [] (.insert "note" (.record [("body", .var "body")]) (.var "body"))

/-- A machine with one note. -/
def noted : Machine where
  connection := { store := { relations := [{
    name := "note", columns := [⟨"body", .text⟩], rows := [⟨1, [.text "buy milk"]⟩] }] } }
  clock := fun _ => 0

/-- The rows that a program inserts into the table it goes through do not keep it going. -/
theorem eval_finishes_copying :
    copying.IsFirstOrder ∧
      copying.IsAnswered noted ∧
      (eval 4 (Library.environment [notes] []) copying noted).1.Finished (Value.Nests 4) ∧
      eval 100 (Library.environment [notes] []) copying =
        eval 4 (Library.environment [notes] []) copying ∧
      ∃ rows items, Storage.HasRows noted (.ofTable notes) [] rows ∧
        (eval 4 (Library.environment [notes] []) copying noted).1 = .done (.list items) ∧
        items.length = rows.length ∧
        ((eval 4 (Library.environment [notes] []) copying noted).2.store.relation? "note").map
          (fun relation => relation.rows.length) = some 2 := by
  -- There is no function anywhere in the program.
  have firstOrder : copying.IsFirstOrder := by
    intro param body member
    simp [copying, Expr.nodes] at member
  -- The query is that of a whole table, for which no engine is needed.
  have answered : copying.IsAnswered noted := .of_laidDown (by decide +kernel) noted
  obtain ⟨_, finishes, deeper, each⟩ := eval_finishes firstOrder [notes] []
  -- There is a value at the end, which is a list with one item for each row.
  have computed : (eval 4 (Library.environment [notes] []) copying noted).1.value?.isSome = true := by
    decide +kernel
  obtain ⟨value, found⟩ := Option.isSome_iff_exists.mp computed
  have ended := Outcome.eq_of_value? found
  obtain ⟨given, asked, rows, items, same, had, rfl, length⟩ := each 3 _ _ _ _ _ _ ended
  cases same
  have grown : ((eval 4 (Library.environment [notes] []) copying noted).2.store.relation? "note").map
      (fun relation => relation.rows.length) = some 2 := by
    decide +kernel
  exact ⟨firstOrder, answered, finishes noted answered, deeper 100 (by decide), rows, items, had,
    ended, length, grown⟩

/-- The bodies of notes, if a table that never ends has rows. -/
def counting : Expr :=
  .forEach { Query.ofTable notes with
    conditions := ["(WITH RECURSIVE c(x) AS (SELECT 1 UNION ALL SELECT x FROM c) " ++
      "SELECT count(*) FROM c) > 0"] } [] (.var "body")

/-- Whether a computation waits for the store without end. -/
def Outcome.waits {α : Type} : Outcome α → Bool
  | .unanswered => true
  | _ => false

/-- A program without functions does not finish if the store works on its query without end. -/
theorem eval_finishes_counting :
    counting.IsFirstOrder ∧
      ∀ depth, (eval (depth + 1) (Library.environment [notes] []) counting noted).1 =
        .unanswered := by
  constructor
  · intro param body member
    simp [counting, Expr.nodes] at member
  intro depth
  -- The count of a table without end is asked of the one row there is.
  have waits : (eval 1 (Library.environment [notes] []) counting noted).1.waits = true := by
    decide +kernel
  have ended : (eval 1 (Library.environment [notes] []) counting noted).1 = .unanswered := by
    generalize (eval 1 (Library.environment [notes] []) counting noted).1 = outcome at waits
    cases outcome <;> first | rfl | cases waits
  -- More depth does not help.
  rw [eval_deepens (Nat.le_add_left 1 depth) _ _ noted (by simp [ended]), ended]

end PageServer
