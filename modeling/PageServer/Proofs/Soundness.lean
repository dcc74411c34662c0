import PageServer.Proofs.Scoping

/-!
What the values of a program look like while it runs.

The type of values would admit records that repeat a name, elements of any name, any response, and
names that stand for the reading of the clock itself. None of these comes up: not as the value of an
expression or of a part of one, and not as what a function or a row binds to a name.
-/

namespace PageServer

/--
A value as programs compute it that start in a base scope.

Functions keep the scope they were made in, which is the base with sound values laid over it. The
reading of the clock is no sound value, and so is nothing that is laid over the base.
-/
inductive Value.Sound (base : Environment) : Value → Prop where
  | text (content : String) : Sound base (.text content)
  | int (n : Int) : Sound base (.int n)
  | bool (truth : Bool) : Sound base (.bool truth)
  | list {items : List Value} : (∀ item ∈ items, Sound base item) → Sound base (.list items)
  | record {fields : Fields Value} : fields.keys.Nodup →
    (∀ entry ∈ fields, Sound base entry.2) → Sound base (.record fields)
  | closure {identity : Nat} {added : List Frame} {param : String} {body : Expr} :
    (∀ frame ∈ added, ∀ entry ∈ frame, Sound base entry.2) →
    Sound base (.closure identity (added ++ base) param body)
  | builtin (function : Builtin) : Sound base (.builtin function)
  | query (query : Query) : Sound base (.query query)
  | raw (markup : String) : Sound base (.raw markup)
  | tag {name : String} : name ∈ Library.elements → Sound base (.tag name)
  | tagWith {name : String} {fields : Fields Value} : name ∈ Library.elements →
    fields.keys.Nodup → (∀ entry ∈ fields, Sound base entry.2) → Sound base (.tagWith name fields)
  | response (location : String) :
    Sound base (.response { status := 303, headers := [("Location", location)], body := "" })

/-- A scope that is the base with sound values laid over it. -/
def Environment.Sound (base env : Environment) : Prop :=
  ∃ added : List Frame, env = added ++ base ∧
    ∀ frame ∈ added, ∀ entry ∈ frame, Value.Sound base entry.2

/-- A base scope holds sound values, and perhaps the reading of the clock. -/
def Environment.IsBase (base : Environment) : Prop :=
  ∀ frame ∈ base, ∀ entry ∈ frame, entry.2 = .deferred .now ∨ Value.Sound base entry.2

/-! Scopes -/

namespace Environment

variable {base env : Environment}

/-- The base itself has nothing laid over it. -/
theorem Sound.refl (base : Environment) : Sound base base :=
  ⟨[], rfl, by simp⟩

/-- Sound values can be laid over a sound scope. -/
theorem Sound.extend (sound : Sound base env) {bindings : Frame}
    (values : ∀ entry ∈ bindings, Value.Sound base entry.2) : Sound base (env.extend bindings) := by
  obtain ⟨added, rfl, held⟩ := sound
  -- No bindings lay no layer; others are merged into one.
  unfold Environment.extend
  split
  · exact ⟨added, rfl, held⟩
  · refine ⟨Fields.ofPairs bindings :: added, rfl, ?_⟩
    refine List.forall_mem_cons.mpr ⟨?_, held⟩
    exact fun entry member => values entry (Fields.mem_of_mem_ofPairs member)

/-- A sound value can be bound over a sound scope. -/
theorem Sound.bind (sound : Sound base env) (name : String) {value : Value}
    (held : Value.Sound base value) : Sound base (env.bind name value) := by
  -- A binding is a layer with one value.
  apply sound.extend
  simp [held]

/-- In a sound scope a name stands for a sound value, or for the reading of the clock. -/
theorem Sound.lookup? (sound : Sound base env) (furnished : IsBase base) {name : String}
    {value : Value} (found : env.lookup? name = some value) :
    value = .deferred .now ∨ Value.Sound base value := by
  obtain ⟨added, rfl, held⟩ := sound
  obtain ⟨frame, member, located⟩ := List.exists_of_findSome?_eq_some found
  have entry := Fields.mem_of_get? located
  -- The clock is in the base only, under what has been laid over it.
  rcases List.mem_append.mp member with inner | outer
  · exact Or.inr (held frame inner _ entry)
  · exact furnished frame outer _ entry

end Environment

/-- Sound values can be laid over what a base holds. -/
theorem Environment.furnished_extend {base env : Environment} {bindings : Frame}
    (below : ∀ frame ∈ env, ∀ entry ∈ frame,
      entry.2 = .deferred .now ∨ Value.Sound base entry.2)
    (values : ∀ entry ∈ bindings, Value.Sound base entry.2) :
    ∀ frame ∈ env.extend bindings, ∀ entry ∈ frame,
      entry.2 = .deferred .now ∨ Value.Sound base entry.2 := by
  -- No bindings lay no layer; others are merged into one on top.
  intro frame member entry inside
  unfold Environment.extend at member
  split at member
  · exact below frame member entry inside
  · rcases List.mem_cons.mp member with rfl | outer
    · exact Or.inr (values entry (Fields.mem_of_mem_ofPairs inside))
    · exact below frame outer entry inside

/-- What a program has in scope at the start of a request is a base. -/
theorem Library.environment_isBase (tables : List Table) (pathVars : Fields String) :
    (Library.environment tables pathVars).IsBase := by
  generalize same : Library.environment tables pathVars = base
  -- Each of the four layers is merged from pairs, so it is enough to look at these.
  have standard : ∀ frame ∈ Environment.ofBindings Library.standardFrame, ∀ entry ∈ frame,
      entry.2 = .deferred .now ∨ Value.Sound base entry.2 := by
    intro frame member entry inside
    obtain rfl := List.mem_singleton.mp member
    -- The library holds the clock and a function of its own.
    have known := Fields.mem_of_mem_ofPairs inside
    simp only [Library.standardFrame, Library.standard, List.map_cons, List.map_nil,
      List.mem_cons, List.not_mem_nil, or_false] at known
    rcases known with rfl | rfl
    · exact Or.inl rfl
    · exact Or.inr (.builtin .redirect)
  -- Tags, queries and texts are sound wherever they stand.
  have elements : ∀ entry ∈ Library.elementFrame, Value.Sound base entry.2 := by
    intro entry member
    obtain ⟨name, known, rfl⟩ := List.mem_map.mp member
    exact .tag known
  have queries : ∀ entry ∈ Library.tableFrame tables, Value.Sound base entry.2 := by
    intro entry member
    obtain ⟨table, _, rfl⟩ := List.mem_map.mp member
    exact .query _
  have texts : ∀ entry ∈ Library.pathFrame pathVars, Value.Sound base entry.2 := by
    intro entry member
    obtain ⟨captured, _, rfl⟩ := List.mem_map.mp member
    exact .text _
  rw [← same] at standard elements queries texts ⊢
  have tagged := Environment.furnished_extend standard elements
  have queried := Environment.furnished_extend tagged queries
  exact Environment.furnished_extend queried texts

/-! Values -/

namespace Value.Sound

variable {base : Environment}

/-- Atoms are sound. -/
theorem ofAtom {type : Ty.Storable} {value : Value} (atom : Value.IsAtom type value) :
    Value.Sound base value := by
  cases atom with
  | text content => exact .text content
  | int n => exact .int n
  | bool truth => exact .bool truth

/-- Merged pairs of sound values are a sound record. -/
theorem recordOf {pairs : Fields Value} (values : ∀ entry ∈ pairs, Value.Sound base entry.2) :
    Value.Sound base (.recordOf pairs) := by
  -- Merging keeps names distinct, and takes its values from the pairs.
  refine .record (Fields.nodup_keys_ofPairs pairs) ?_
  exact fun entry member => values entry (Fields.mem_of_mem_ofPairs member)

/-- A field of a sound record is sound. -/
theorem field {value : Value} (sound : Value.Sound base value) {name : String} {held : Value}
    (found : Eval.field name value = .ok held) : Value.Sound base held := by
  obtain ⟨fields, rfl, located⟩ := Eval.field_eq_ok.mp found
  cases sound with
  | record _ values => exact values _ (Fields.mem_of_get? located)

/-- A redirection is sound. -/
theorem redirect {target value : Value} (sent : Eval.redirect target = .ok value) :
    Value.Sound base value := by
  obtain ⟨location, _, rfl⟩ := Eval.redirect_eq_ok.mp sent
  exact .response location

/-- The names that a row binds stand for sound values. -/
theorem decodeRow {query : Query} {row : Fields Store.Cell} {values : Fields Value}
    (decoded : Storage.decodeRow query row = .ok values) :
    ∀ entry ∈ values, Value.Sound base entry.2 := by
  intro entry member
  -- A row binds atoms only.
  obtain ⟨_, atom, _⟩ := (Storage.decodeRow_fits decoded).2 entry member
  exact ofAtom atom

end Value.Sound

/-! Evaluation under watch -/

namespace Eval

open Classical in
/--
Evaluation under watch.

It raises the alarm as soon as an expression, or any part of one, is to be evaluated in a scope that is
not sound, or has a value that is not sound.
-/
noncomputable def watched (base : Environment) (alarm : Run Value) : Nat → Evaluator
  | 0, _, _ => Run.exhausted
  | depth + 1, env, expr =>
    if Environment.Sound base env then do
      let value ← step (watched base alarm depth) env expr
      if Value.Sound base value then return value else alarm
    else alarm

/-- One value that is sound, on both sides. -/
def Agreed (base : Environment) (value other : Value) : Prop :=
  value = other ∧ Value.Sound base value

/-- Two evaluators have the same sound values in every sound scope. -/
def Agree (base : Environment) (recur other : Evaluator) : Prop :=
  ∀ {env : Environment} {expr : Expr}, Environment.Sound base env →
    Run.Alike (Agreed base) (recur env expr) (other env expr)

variable {base : Environment} {recur other : Evaluator}

/-- A result whose value is sound agrees with itself. -/
theorem agreed_lift {result : Except Fault Value}
    (sound : ∀ value, result = .ok value → Value.Sound base value) :
    Run.Alike (Agreed base) (Run.lift result) (Run.lift result) := by
  cases result with
  | error fault => exact .fail fault
  | ok value => exact .pure ⟨rfl, sound value rfl⟩

/-- Values that agree in turn are the same sound values. -/
theorem agreed_all {values others : List Value} (agreed : List.Forall₂ (Agreed base) values others) :
    values = others ∧ ∀ value ∈ values, Value.Sound base value := by
  -- The induction is on the two lists in step.
  induction agreed with
  | nil => simp
  | cons here _ ih =>
    obtain ⟨rfl, sound⟩ := here
    obtain ⟨rfl, others⟩ := ih
    exact ⟨rfl, List.forall_mem_cons.mpr ⟨sound, others⟩⟩

/-- The value of a name is sound; where the name stands for the clock, it is what the clock shows. -/
theorem variableValue_agreed (furnished : base.IsBase) {env : Environment}
    (sound : Environment.Sound base env) (name : String) :
    Run.Alike (Agreed base) (variableValue env name) (variableValue env name) := by
  -- A name is unbound, stands for the clock, or stands for a value.
  unfold variableValue
  split
  · exact .fail _
  · apply (Run.Alike.self (fun _ => rfl) Run.tick).andThen
    rintro n _ rfl
    exact .pure ⟨rfl, .int n⟩
  · rename_i value isValue found
    rcases sound.lookup? furnished found with rfl | held
    · exact absurd rfl isValue
    · exact .pure ⟨rfl, held⟩

/-- Applying a sound value to another gives sound values. -/
theorem applyWith_agreed (agree : Agree base recur other) {function argument : Value}
    (sound : Value.Sound base function) (given : Value.Sound base argument) :
    Run.Alike (Agreed base) (applyWith recur function argument)
      (applyWith other function argument) := by
  -- Elements build markup, functions go on with their body, and the rest is refused.
  cases sound with
  | tag known =>
    simp only [applyWith]
    split
    · cases given with
      | record distinct held => exact .pure ⟨rfl, .tagWith known distinct held⟩
    · apply agreed_lift
      intro value built
      obtain ⟨_, markup, _, _, rfl⟩ := element_eq_ok.mp built
      exact .raw markup
  | tagWith known _ _ =>
    apply agreed_lift
    intro value built
    obtain ⟨_, markup, _, _, rfl⟩ := element_eq_ok.mp built
    exact .raw markup
  | @closure _ added param body held =>
    have inside : Environment.Sound base (added ++ base) := ⟨added, rfl, held⟩
    exact agree (inside.bind param given)
  | builtin function =>
    cases function
    exact agreed_lift fun _ sent => Value.Sound.redirect sent
  | text _ | int _ | bool _ | list _ | record _ _ | query _ | raw _ | response _ => exact .fail _

/-- One node has the same sound value on both sides if its parts have. -/
theorem step_agreed (furnished : base.IsBase) (agree : Agree base recur other) {env : Environment}
    (sound : Environment.Sound base env) (expr : Expr) :
    Run.Alike (Agreed base) (step recur env expr) (step other env expr) := by
  -- One case for each kind of node; parts are evaluated in the order of the source.
  cases expr with
  | literal given =>
    apply agreed_lift
    intro value read
    obtain ⟨_, atom⟩ := literal_isAtom read
    exact .ofAtom atom
  | var name => exact variableValue_agreed furnished sound name
  | app function argument =>
    apply (agree sound).andThen
    rintro applied _ ⟨rfl, fine⟩
    apply (agree sound).andThen
    rintro given _ ⟨rfl, alsoFine⟩
    exact applyWith_agreed agree fine alsoFine
  | abs param body =>
    apply (Run.Alike.self (fun _ => rfl) Run.freshIdentity).andThen
    -- The new function keeps its scope, which was reached by laying over the base.
    rintro identity _ rfl
    obtain ⟨added, rfl, held⟩ := sound
    exact .pure ⟨rfl, .closure held⟩
  | list elements =>
    apply (Run.Alike.each fun _ _ => agree sound).andThen
    intro values others both
    obtain ⟨rfl, fine⟩ := agreed_all both
    exact .pure ⟨rfl, .list fine⟩
  | record fields =>
    -- Each value keeps the name of its field.
    have each : ∀ entry ∈ fields, Run.Alike
        (fun named found : String × Value => named = found ∧ Value.Sound base named.2)
        (do return (entry.1, ← recur env entry.2)) (do return (entry.1, ← other env entry.2)) := by
      intro entry _
      apply (agree sound).andThen
      rintro value _ ⟨rfl, fine⟩
      exact .pure ⟨rfl, fine⟩
    apply (Run.Alike.each each).andThen
    intro pairs others both
    have same : pairs = others := List.forall₂_eq_eq_eq ▸ both.imp fun _ _ agreed => agreed.1
    have fine : ∀ entry ∈ pairs, Value.Sound base entry.2 :=
      Lockstep.all_of_forall₂ (both.flip.imp fun _ _ agreed => agreed.2)
    exact .pure ⟨by rw [same], .recordOf fine⟩
  | dot whole name =>
    apply (agree sound).andThen
    rintro value _ ⟨rfl, fine⟩
    exact agreed_lift fun _ found => fine.field found
  | op operator left right =>
    -- An operator computes an atom from whatever it is given.
    apply (agree sound).andThen
    rintro first _ ⟨rfl, _⟩
    apply (agree sound).andThen
    rintro second _ ⟨rfl, _⟩
    apply agreed_lift
    intro value computed
    obtain ⟨_, atom⟩ := operate_isAtom computed
    exact .ofAtom atom
  | forEach query arguments body =>
    -- The arguments agree, so both sides ask for the same rows.
    apply (Run.Alike.each fun _ _ => agree sound).andThen
    intro given others both
    obtain ⟨rfl, _⟩ := agreed_all both
    apply (Run.Alike.self (fun _ => rfl) (Storage.select query given)).andThen
    rintro rows _ rfl
    -- Each row binds sound values over the same scope.
    have each : ∀ row ∈ rows, Run.Alike (Agreed base)
        (do let bindings ← Run.lift (Storage.decodeRow query row)
            recur (env.extend bindings) body)
        (do let bindings ← Run.lift (Storage.decodeRow query row)
            other (env.extend bindings) body) := by
      intro row _
      cases decoded : Storage.decodeRow query row with
      | error fault => exact .fail fault
      | ok bindings => exact agree (sound.extend (Value.Sound.decodeRow decoded))
    apply (Run.Alike.each each).andThen
    intro values results alsoBoth
    obtain ⟨rfl, fine⟩ := agreed_all alsoBoth
    exact .pure ⟨rfl, .list fine⟩
  | insert table value next =>
    -- The record is the same on both sides, and so is the insertion.
    apply (agree sound).andThen
    rintro whole _ ⟨rfl, _⟩
    apply (Run.Alike.self (fun _ => rfl) (Run.lift (whole.asRecord "insert"))).andThen
    rintro fields _ rfl
    apply (Run.Alike.self (fun _ => rfl) (Storage.insert table fields)).andThen
    rintro _ _ rfl
    exact agree sound
  | hole kind => exact .fail _

/-- Evaluation to any depth has sound values, and is the same under watch. -/
theorem agree_watched (furnished : base.IsBase) (alarm : Run Value) (depth : Nat) :
    Agree base (eval depth) (watched base alarm depth) := by
  -- Each level of depth is one node around evaluations of less depth.
  induction depth with
  | zero => exact fun _ => .exhausted
  | succ depth ih =>
    intro env expr sound
    simp only [watched, sound, if_true]
    -- To the evaluation without a watch, a last step is added that does nothing.
    rw [← Run.bind_pure (eval (depth + 1) env expr)]
    apply (step_agreed furnished ih sound expr).andThen
    rintro value _ ⟨rfl, fine⟩
    rw [if_pos fine]
    exact .pure ⟨rfl, fine⟩

end Eval

namespace Outcome

/-- A computation that agrees with another ends with sound values. -/
theorem sound_of_agreed {base : Environment} {one other : Run Value}
    (agreed : Run.Alike (Eval.Agreed base) one other) {machine : Machine} {value : Value}
    (ended : (one machine).1 = .done value) : Value.Sound base value := by
  -- The other computation then has the same value, which both agree to be sound.
  have alike := (agreed machine).2
  rw [ended] at alike
  generalize (other machine).1 = outcome at alike
  cases alike with
  | done both => exact both.2

end Outcome

/-- Evaluation in a sound scope ends with sound values. -/
theorem eval_sound {base env : Environment} (furnished : base.IsBase)
    (sound : Environment.Sound base env) {depth : Nat} {expr : Expr} {machine : Machine}
    {value : Value} (ended : (eval depth env expr machine).1 = .done value) :
    Value.Sound base value :=
  Outcome.sound_of_agreed (Eval.agree_watched furnished Run.exhausted depth sound) ended

/-- Application of a sound value to another ends with sound values. -/
theorem apply_sound {base : Environment} (furnished : base.IsBase) {function argument : Value}
    (sound : Value.Sound base function) (given : Value.Sound base argument) {depth : Nat}
    {machine : Machine} {value : Value}
    (ended : (apply depth function argument machine).1 = .done value) : Value.Sound base value :=
  Outcome.sound_of_agreed (Eval.applyWith_agreed (Eval.agree_watched furnished Run.exhausted depth)
    sound given) ended

/--
The values of a program are sound wherever they come up.

Under watch, evaluation in the scope of a request does what it does without: no alarm is ever raised,
neither for the value of a part nor for what a function or a row binds. So values are sound in the end,
and a request that is answered is answered by a page, by a redirection, or by the notice that its form
lacks a field.
-/
theorem eval_sound_throughout (depth : Nat) (tables : List Table) (pathVars : Fields String) :
    (∀ alarm expr, Eval.watched (Library.environment tables pathVars) alarm depth
        (Library.environment tables pathVars) expr =
      eval depth (Library.environment tables pathVars) expr) ∧
    (∀ expr machine value,
      (eval depth (Library.environment tables pathVars) expr machine).1 = .done value →
        Value.Sound (Library.environment tables pathVars) value) ∧
    ∀ (endpoint : Endpoint) form machine response,
      (endpoint.run depth tables pathVars form machine).1 = .done response →
        response.status = 200 ∨ response.status = 303 ∨ response.status = 400 := by
  have furnished := Library.environment_isBase tables pathVars
  -- The first part is about the alarm: it never goes off, so it may be any computation.
  refine ⟨?_, ?_, ?_⟩
  · intro alarm expr
    have agreed := @Eval.agree_watched _ furnished alarm depth _ expr (.refl _)
    exact (agreed.mono fun _ _ both => both.1).eq.symm
  · exact fun expr machine value ended => eval_sound furnished (.refl _) ended
  -- The third part goes by the kinds of response that a run can end with.
  · intro endpoint form machine response answered
    cases (endpoint.run_reaches depth tables pathVars form machine).2 response answered with
    | page _ => exact Or.inl rfl
    | elsewhere _ => exact Or.inr (Or.inl rfl)
    | missing _ => exact Or.inr (Or.inr rfl)

end PageServer
