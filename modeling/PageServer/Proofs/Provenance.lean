import PageServer.Proofs.Atom
import PageServer.Proofs.Fragment
import PageServer.Proofs.Program

/-!
Where the values of a request come from.

Whatever a request computes is made from the program: records have the names of a record that the
body writes out, or of the form; functions have a piece of the body for their own; elements are known
ones; finished markup is a word of the grammar; responses send the client elsewhere. Texts and numbers
may be anything.
-/

namespace PageServer

/--
A value that a request to an endpoint can make.

A scope may hold the reading of the clock, under its own name only, and nothing else does.
-/
inductive Value.Made (endpoint : Endpoint) : Value → Prop where
  | text (content : String) : Made endpoint (.text content)
  | int (n : Int) : Made endpoint (.int n)
  | bool (truth : Bool) : Made endpoint (.bool truth)
  | list {items : List Value} : (∀ item ∈ items, Made endpoint item) → Made endpoint (.list items)
  | record {fields : Fields Value} : endpoint.RecordNames fields.keys →
    (∀ entry ∈ fields, Made endpoint entry.2) → Made endpoint (.record fields)
  | closure {identity : Nat} {scope : Environment} {param : String} {body : Expr} :
    endpoint.Holds body →
    (∀ frame ∈ scope, ∀ entry ∈ frame, entry ≠ ("now", .deferred .now) → Made endpoint entry.2) →
    Made endpoint (.closure identity scope param body)
  | builtin (function : Builtin) : Made endpoint (.builtin function)
  | query (query : Query) : Made endpoint (.query query)
  | raw {markup : String} : Markup.Fragment endpoint.AttributeName markup →
    Made endpoint (.raw markup)
  | tag {name : String} : name ∈ Library.elements → Made endpoint (.tag name)
  | tagWith {name : String} {fields : Fields Value} : name ∈ Library.elements →
    endpoint.RecordNames fields.keys → (∀ entry ∈ fields, Made endpoint entry.2) →
    Made endpoint (.tagWith name fields)
  | response (location : String) :
    Made endpoint (.response { status := 303, headers := [("Location", location)], body := "" })

/-- A layer of a scope that holds made values, and perhaps the reading of the clock. -/
def Frame.Made (endpoint : Endpoint) (frame : Frame) : Prop :=
  ∀ entry ∈ frame, entry ≠ ("now", .deferred .now) → Value.Made endpoint entry.2

/-- A scope of such layers. -/
def Environment.Made (endpoint : Endpoint) (env : Environment) : Prop :=
  ∀ frame ∈ env, Frame.Made endpoint frame

namespace Frame.Made

variable {endpoint : Endpoint} {frame : Frame}

/-- A layer of made values alone. -/
theorem ofValues (values : ∀ entry ∈ frame, Value.Made endpoint entry.2) :
    Frame.Made endpoint frame :=
  fun entry member _ => values entry member

/-- Merging pairs keeps a layer made. -/
theorem ofPairs (made : Frame.Made endpoint frame) :
    Frame.Made endpoint (Fields.ofPairs frame) :=
  fun entry member => made entry (Fields.mem_of_mem_ofPairs member)

end Frame.Made

namespace Environment.Made

variable {endpoint : Endpoint} {env : Environment}

/-- Laying a made layer over a made scope gives a made scope. -/
theorem extend (made : Environment.Made endpoint env) {bindings : Frame}
    (new : Frame.Made endpoint bindings) : Environment.Made endpoint (env.extend bindings) := by
  -- No bindings lay no layer; others are merged into one.
  unfold Environment.extend
  split
  · exact made
  · intro frame member
    rcases List.mem_cons.mp member with rfl | outer
    · exact new.ofPairs
    · exact made frame outer

/-- Binding a made value over a made scope gives a made scope. -/
theorem bind (made : Environment.Made endpoint env) (name : String) {value : Value}
    (held : Value.Made endpoint value) : Environment.Made endpoint (env.bind name value) := by
  -- A binding is a layer with one entry.
  apply made.extend
  apply Frame.Made.ofValues
  simp [held]

/-- A name stands for a made value, or is the name of the clock. -/
theorem lookup? (made : Environment.Made endpoint env) {name : String} {value : Value}
    (found : env.lookup? name = some value) :
    Value.Made endpoint value ∨ (name = "now" ∧ value = .deferred .now) := by
  -- The name is found in one of the layers, as it was put there.
  obtain ⟨frame, member, located⟩ := List.exists_of_findSome?_eq_some found
  have held := Fields.mem_of_get? located
  by_cases clock : (name, value) = ("now", Value.deferred .now)
  · exact Or.inr (by simpa using clock)
  · exact Or.inl (made frame member _ held clock)

end Environment.Made

/-- What every program has in scope at the start of a request is made. -/
theorem Library.environment_made (endpoint : Endpoint) (tables : List Table)
    (pathVars : Fields String) :
    Environment.Made endpoint (Library.environment tables pathVars) := by
  -- The four layers are laid one over the other; only the first one has the clock.
  have standard : Frame.Made endpoint Library.standardFrame := by
    intro entry member other
    simp only [Library.standardFrame, Library.standard, List.map_cons, List.map_nil,
      List.mem_cons, List.not_mem_nil, or_false] at member
    rcases member with rfl | rfl
    · exact absurd rfl other
    · exact .builtin .redirect
  -- The names of elements stand for tags.
  have elements : Frame.Made endpoint Library.elementFrame := by
    apply Frame.Made.ofValues
    intro entry member
    obtain ⟨name, known, rfl⟩ := List.mem_map.mp member
    exact .tag known
  -- The names of tables stand for queries.
  have queries : Frame.Made endpoint (Library.tableFrame tables) := by
    apply Frame.Made.ofValues
    intro entry member
    obtain ⟨table, _, rfl⟩ := List.mem_map.mp member
    exact .query _
  -- The names in the path stand for texts.
  have texts : Frame.Made endpoint (Library.pathFrame pathVars) := by
    apply Frame.Made.ofValues
    intro entry member
    obtain ⟨captured, _, rfl⟩ := List.mem_map.mp member
    exact .text _
  have bottom : Environment.Made endpoint (Environment.ofBindings Library.standardFrame) := by
    intro frame member
    obtain rfl := List.mem_singleton.mp member
    exact standard.ofPairs
  exact ((bottom.extend elements).extend queries).extend texts

namespace Value.Made

variable {endpoint : Endpoint}

/-- A made value renders as a word of the grammar, under the names that attributes can have. -/
theorem render {value : Value} (made : Value.Made endpoint value) {markup : String}
    (rendered : Markup.render value = .ok markup) :
    Markup.Fragment endpoint.AttributeName markup := by
  -- The induction is on how the value was made; only lists hold more to render.
  induction made generalizing markup with
  | text content =>
    simp only [Markup.render, Except.ok.injEq] at rendered
    subst rendered
    exact .ofQuoted (Markup.escape_isQuoted content)
  | int n =>
    simp only [Markup.render] at rendered
    exact .ofQuoted (Markup.numberText_isQuoted rendered)
  | list _ ih =>
    simp only [Markup.render] at rendered
    exact Markup.renderAll_isFragment ih rendered
  | raw fragment =>
    simp only [Markup.render, Except.ok.injEq] at rendered
    subst rendered
    exact fragment
  -- A tag that is not applied prints as an element without a body.
  | tag known =>
    simp only [Markup.render] at rendered
    exact Markup.element_isFragment known (by simp [Fields.keys]) .empty rendered
  | tagWith known names _ _ =>
    simp only [Markup.render] at rendered
    exact Markup.element_isFragment known (fun _ member => names.attributeName member) .empty
      rendered
  -- The other kinds do not render at all.
  | bool _ | record _ _ _ | closure _ _ _ | builtin _ | query _ | response _ =>
    simp [Markup.render] at rendered

/-- The fields of a made record have known names and made values. -/
theorem asRecord {value : Value} (made : Value.Made endpoint value) {site : String}
    {fields : Fields Value} (read : value.asRecord site = .ok fields) :
    endpoint.RecordNames fields.keys ∧ ∀ entry ∈ fields, Value.Made endpoint entry.2 := by
  -- Only a record is read as one.
  obtain rfl := Value.asRecord_eq_ok.mp read
  cases made with
  | record names held => exact ⟨names, held⟩

/-- A field of a made record is made. -/
theorem field {value : Value} (made : Value.Made endpoint value) {name : String} {held : Value}
    (found : Eval.field name value = .ok held) : Value.Made endpoint held := by
  -- The field is one of the record's, which are made.
  obtain ⟨fields, rfl, located⟩ := Eval.field_eq_ok.mp found
  cases made with
  | record _ values => exact values _ (Fields.mem_of_get? located)

/-- Atoms are made. -/
theorem ofAtom {type : Ty.Storable} {value : Value} (atom : Value.IsAtom type value) :
    Value.Made endpoint value := by
  cases atom with
  | text content => exact .text content
  | int n => exact .int n
  | bool truth => exact .bool truth

/-- Literals are made. -/
theorem literal {given : Literal} {value : Value} (read : Eval.literal given = .ok value) :
    Value.Made endpoint value := by
  -- A literal stands for an atom.
  obtain ⟨_, atom⟩ := Eval.literal_isAtom read
  exact ofAtom atom

/-- Operators give made values, whatever they are given. -/
theorem operate {operator : Operator} {left right value : Value}
    (computed : Eval.operate operator left right = .ok value) : Value.Made endpoint value := by
  -- Operators compute atoms only.
  obtain ⟨_, atom⟩ := Eval.operate_isAtom computed
  exact ofAtom atom

/-- A redirection is a response of its own kind. -/
theorem redirect {target value : Value} (sent : Eval.redirect target = .ok value) :
    Value.Made endpoint value := by
  obtain ⟨location, _, rfl⟩ := Eval.redirect_eq_ok.mp sent
  exact .response location

/-- The names that a row binds stand for made values. -/
theorem decodeRow {query : Query} {row : Fields Store.Cell} {values : Fields Value}
    (decoded : Storage.decodeRow query row = .ok values) : Frame.Made endpoint values := by
  apply Frame.Made.ofValues
  intro entry member
  -- What is decoded from a cell is an atom.
  obtain ⟨_, atom, _⟩ := (Storage.decodeRow_fits decoded).2 entry member
  exact ofAtom atom

end Value.Made

end PageServer
