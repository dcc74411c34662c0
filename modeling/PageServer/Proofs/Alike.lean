import Mathlib.Data.List.Forall2
import PageServer.Environment
import PageServer.Proofs.Basic

/-!
Values that differ only in what the scopes of functions hold beside the names that matter.

A function carries the whole scope it was made in, but its body mentions a few names only. Values are
alike if they are the same up to what their functions hold under other names.
-/

namespace PageServer

/-! Names that expressions mention -/

namespace Expr

mutual

/--
The names that an expression mentions and no function around them binds.

The columns that a query binds do not count as bound.
-/
def free : Expr → List String
  | .literal _ | .hole _ => []
  | .var name => [name]
  | .app function argument => function.free ++ argument.free
  | .abs param body => body.free.filter fun name => name != param
  | .list elements => freeAll elements
  | .record fields => freeFields fields
  | .dot whole _ => whole.free
  | .op _ left right => left.free ++ right.free
  | .forEach _ arguments body => freeAll arguments ++ body.free
  | .insert _ value next => value.free ++ next.free

/-- The free names of expressions. -/
def freeAll : List Expr → List String
  | [] => []
  | first :: rest => first.free ++ freeAll rest

/-- The free names of the expressions of named entries. -/
def freeFields : List (String × Expr) → List String
  | [] => []
  | (_, first) :: rest => first.free ++ freeFields rest

end

/-- What is free in one of several expressions is free in them. -/
theorem free_subset_freeAll {elements : List Expr} {element : Expr} (member : element ∈ elements) :
    element.free ⊆ freeAll elements := by
  -- The expression is met on the way through the list.
  induction elements with
  | nil => simp at member
  | cons first rest ih =>
    intro name mentioned
    simp only [freeAll, List.mem_append]
    rcases List.mem_cons.mp member with rfl | later
    · exact Or.inl mentioned
    · exact Or.inr (ih later mentioned)

/-- The names of entries are no names that their expressions mention. -/
theorem freeFields_eq (fields : List (String × Expr)) :
    freeFields fields = freeAll (fields.map Prod.snd) := by
  -- The induction follows the entries, as both definitions do.
  induction fields with
  | nil => rfl
  | cons first rest ih => simp only [freeFields, ih, List.map_cons, freeAll]

/-- What is free in the expression of one of several entries is free in them. -/
theorem free_subset_freeFields {fields : List (String × Expr)} {entry : String × Expr}
    (member : entry ∈ fields) : entry.2.free ⊆ freeFields fields := by
  rw [freeFields_eq]
  exact free_subset_freeAll (List.mem_map_of_mem member)

end Expr

/-! Alike values -/

/--
Two values that are the same, except for the scopes of functions.

Both scopes of a function have alike values for each name that its body mentions, or none; its
parameter is bound anew at each application, and so it does not matter what they have under that.
-/
inductive Value.Alike : Value → Value → Prop where
  | text (content : String) : Alike (.text content) (.text content)
  | int (n : Int) : Alike (.int n) (.int n)
  | bool (truth : Bool) : Alike (.bool truth) (.bool truth)
  | list {items others : List Value} : items.length = others.length →
    (∀ pair ∈ items.zip others, Alike pair.1 pair.2) → Alike (.list items) (.list others)
  | record {fields others : Fields Value} : fields.keys = others.keys →
    (∀ pair ∈ fields.zip others, Alike pair.1.2 pair.2.2) →
    Alike (.record fields) (.record others)
  | closure {identity : Nat} {one other : Environment} {param : String} {body : Expr} :
    (∀ name ∈ body.free, name ≠ param →
      (one.lookup? name).isSome = (other.lookup? name).isSome) →
    (∀ name ∈ body.free, name ≠ param → ∀ held found, one.lookup? name = some held →
      other.lookup? name = some found → Alike held found) →
    Alike (.closure identity one param body) (.closure identity other param body)
  | builtin (function : Builtin) : Alike (.builtin function) (.builtin function)
  | deferred (action : Deferred) : Alike (.deferred action) (.deferred action)
  | query (query : Query) : Alike (.query query) (.query query)
  | raw (markup : String) : Alike (.raw markup) (.raw markup)
  | tag (name : String) : Alike (.tag name) (.tag name)
  | tagWith (name : String) {fields others : Fields Value} : fields.keys = others.keys →
    (∀ pair ∈ fields.zip others, Alike pair.1.2 pair.2.2) →
    Alike (.tagWith name fields) (.tagWith name others)
  | response (response : Response) : Alike (.response response) (.response response)
  | bare (identity : Nat) : Alike (.bare identity) (.bare identity)
  | bareMarkup (identity : Nat) : Alike (.bareMarkup identity) (.bareMarkup identity)

/-- Entries under the same names in the same places, with alike values. -/
abbrev Fields.Alike (fields others : Fields Value) : Prop :=
  List.Forall₂ (fun entry other => entry.1 = other.1 ∧ Value.Alike entry.2 other.2) fields others

/-- Scopes that have alike values, or none, for each of the names. -/
def Environment.Alike (names : List String) (one other : Environment) : Prop :=
  ∀ name ∈ names, Option.Rel Value.Alike (one.lookup? name) (other.lookup? name)

/-- Entries are related in turn exactly if their names are the same and their values related. -/
theorem Fields.forall₂_iff {related : Value → Value → Prop} {fields others : Fields Value} :
    List.Forall₂ (fun entry other => entry.1 = other.1 ∧ related entry.2 other.2) fields others ↔
      fields.keys = others.keys ∧ ∀ pair ∈ fields.zip others, related pair.1.2 pair.2.2 := by
  -- Both lists are walked in step.
  induction fields generalizing others with
  | nil => cases others <;> simp [Fields.keys]
  | cons first rest ih =>
    cases others with
    | nil => simp [Fields.keys]
    | cons second more =>
      simp only [List.forall₂_cons, ih, Fields.keys, List.map_cons, List.cons.injEq,
        List.zip_cons_cons, List.forall_mem_cons]
      tauto

/-- Entries with the same names and alike values in turn are alike. -/
theorem Fields.Alike.ofKeys {fields others : Fields Value} (keys : fields.keys = others.keys)
    (held : ∀ pair ∈ fields.zip others, Value.Alike pair.1.2 pair.2.2) :
    Fields.Alike fields others :=
  Fields.forall₂_iff.mpr ⟨keys, held⟩

namespace Value.Alike

/-- Lists of alike items are alike. -/
theorem ofItems {items others : List Value} (alike : List.Forall₂ Value.Alike items others) :
    Value.Alike (.list items) (.list others) :=
  -- The constructor asks for the lengths and for the pairs separately.
  .list alike.length_eq fun _ member => (List.forall₂_iff_zip.mp alike).2 member

/-- Records of alike entries are alike. -/
theorem ofFields {fields others : Fields Value} (alike : Fields.Alike fields others) :
    Value.Alike (.record fields) (.record others) :=
  .record (Fields.forall₂_iff.mp alike).1 (Fields.forall₂_iff.mp alike).2

/-- Functions in scopes that are alike where it matters are alike. -/
theorem ofScopes {one other : Environment} {param : String} {body : Expr} (identity : Nat)
    (alike : Environment.Alike (body.free.filter fun name => name != param) one other) :
    Value.Alike (.closure identity one param body) (.closure identity other param body) := by
  -- Where both scopes have a value, the two are alike.
  have related : ∀ name ∈ body.free, name ≠ param →
      Option.Rel Value.Alike (one.lookup? name) (other.lookup? name) := by
    intro name mentioned differs
    exact alike name (by simp [mentioned, differs])
  apply Value.Alike.closure
  -- The name is in both scopes or in neither.
  · intro name mentioned differs
    have both := related name mentioned differs
    generalize one.lookup? name = here at both ⊢
    generalize other.lookup? name = there at both ⊢
    cases both <;> rfl
  -- What both hold under it is alike, by the only case that has values on both sides.
  · intro name mentioned differs held found here there
    have both := related name mentioned differs
    rw [here, there] at both
    cases both with
    | some same => exact same

/-- The scopes of alike functions are alike where it matters. -/
theorem scopes {one other : Environment} {param : String} {body : Expr}
    (present : ∀ name ∈ body.free, name ≠ param →
      (one.lookup? name).isSome = (other.lookup? name).isSome)
    (held : ∀ name ∈ body.free, name ≠ param → ∀ here there, one.lookup? name = some here →
      other.lookup? name = some there → Value.Alike here there) :
    Environment.Alike (body.free.filter fun name => name != param) one other := by
  intro name member
  obtain ⟨mentioned, differs⟩ : name ∈ body.free ∧ name ≠ param := by simpa using member
  -- The name is in both scopes or in neither.
  have both := present name mentioned differs
  cases here : one.lookup? name with
  | none =>
    cases there : other.lookup? name with
    | none => exact .none
    | some found => simp [here, there] at both
  | some value =>
    cases there : other.lookup? name with
    | none => simp [here, there] at both
    | some found => exact .some (held name mentioned differs value found here there)

end Value.Alike

/-- What an entry holds is smaller than the entries. -/
theorem Fields.sizeOf_lt_of_mem {fields : Fields Value} {entry : String × Value}
    (member : entry ∈ fields) : sizeOf entry.2 < sizeOf fields := by
  -- An entry is a part of the list, and its value a part of the entry.
  have inFields := List.sizeOf_lt_of_mem member
  have inEntry : sizeOf entry = 1 + sizeOf entry.1 + sizeOf entry.2 := rfl
  omega

/-- What a scope has under a name is smaller than the scope. -/
theorem Environment.sizeOf_lookup?_lt {env : Environment} {name : String} {value : Value}
    (found : env.lookup? name = some value) : sizeOf value < sizeOf env := by
  -- The value stands in an entry of a layer of the scope.
  obtain ⟨frame, member, located⟩ := List.exists_of_findSome?_eq_some found
  exact Nat.lt_trans (Fields.sizeOf_lt_of_mem (Fields.mem_of_get? located))
    (List.sizeOf_lt_of_mem member)

/-- Every value is alike to itself. -/
theorem Value.Alike.refl (value : Value) : Value.Alike value value := by
  -- The parts of a value, and what its scope holds, are smaller than the value.
  cases value with
  | list items =>
    apply ofItems
    apply List.forall₂_same.mpr
    intro item member
    have := List.sizeOf_lt_of_mem member
    exact refl item
  | record fields =>
    apply ofFields
    apply List.forall₂_same.mpr
    intro entry member
    have := Fields.sizeOf_lt_of_mem member
    exact ⟨rfl, refl entry.2⟩
  | tagWith name fields =>
    have held : Fields.Alike fields fields := by
      apply List.forall₂_same.mpr
      intro entry member
      have := Fields.sizeOf_lt_of_mem member
      exact ⟨rfl, refl entry.2⟩
    exact .tagWith name rfl (Fields.forall₂_iff.mp held).2
  -- A closure holds its scope, whose values are smaller than it: each of them is alike to itself.
  | closure identity scope param body =>
    apply Value.Alike.closure
    · intros
      rfl
    · intro name _ _ held found here there
      obtain rfl : held = found := Option.some.inj (here.symm.trans there)
      have := Environment.sizeOf_lookup?_lt here
      exact refl held
  | text content => exact .text content
  | int n => exact .int n
  | bool truth => exact .bool truth
  | builtin function => exact .builtin function
  | deferred action => exact .deferred action
  | query query => exact .query query
  | raw markup => exact .raw markup
  | tag name => exact .tag name
  | response response => exact .response response
  | bare identity => exact .bare identity
  | bareMarkup identity => exact .bareMarkup identity
termination_by sizeOf value
decreasing_by all_goals simp_wf; omega

/-! Scopes that are alike -/

namespace Environment

/-- Names that are laid over a scope are found first. -/
theorem lookup?_extend (env : Environment) (bindings : Frame) (name : String) :
    (env.extend bindings).lookup? name =
      ((Fields.ofPairs bindings).get? name).or (env.lookup? name) := by
  -- Without bindings there is no layer to look into.
  unfold extend
  cases bindings with
  | nil => rfl
  | cons first rest =>
    simp only [List.isEmpty_cons, Bool.false_eq_true, if_false, lookup?, List.findSome?_cons]
    cases (Fields.ofPairs (first :: rest)).get? name <;> rfl

/-- A name that is bound over a scope is found there, and any other where it was. -/
theorem lookup?_bind (env : Environment) (param : String) (value : Value) (name : String) :
    (env.bind param value).lookup? name = if param = name then some value else env.lookup? name := by
  -- A binding is a layer with one entry.
  have single : Fields.ofPairs [(param, value)] = [(param, value)] := rfl
  rw [bind, lookup?_extend, single, Fields.get?]
  split
  · rfl
  · simp [Fields.get?]

namespace Alike

variable {names : List String} {one other : Environment}

/-- Scopes that have the same values for each of the names are alike. -/
theorem ofSame (same : ∀ name ∈ names, one.lookup? name = other.lookup? name) :
    Environment.Alike names one other := by
  -- Either both have nothing there, or one value that is alike to itself.
  intro name member
  rw [same name member]
  cases other.lookup? name with
  | none => exact .none
  | some value => exact .some (.refl value)

/-- Fewer names ask for less. -/
theorem mono (alike : Environment.Alike names one other) {fewer : List String}
    (subset : fewer ⊆ names) : Environment.Alike fewer one other :=
  fun name member => alike name (subset member)

/-- The same names laid over alike scopes leave them alike. -/
theorem extend (alike : Environment.Alike names one other) (bindings : Frame) :
    Environment.Alike names (one.extend bindings) (other.extend bindings) := by
  intro name member
  rw [lookup?_extend, lookup?_extend]
  -- A name that is laid over both scopes has one value in both.
  cases (Fields.ofPairs bindings).get? name with
  | none => simpa using alike name member
  | some value => exact .some (.refl value)

/-- Alike values under one name, laid over scopes that are alike elsewhere. -/
theorem bind {param : String}
    (alike : Environment.Alike (names.filter fun name => name != param) one other)
    {value found : Value} (bound : Value.Alike value found) :
    Environment.Alike names (one.bind param value) (other.bind param found) := by
  intro name member
  rw [lookup?_bind, lookup?_bind]
  -- The new name has the new values; every other name is looked up below it.
  by_cases same : param = name
  · simpa [same] using bound
  · simpa [same] using alike name (by simp [member, Ne.symm same])

end Alike

end Environment

end PageServer
