import PageServer.Library
import PageServer.Proofs.Alike
import PageServer.Proofs.Merging

/-!
Scopes as layers of names.

A name is looked up from the innermost layer outwards, and a scope is flattened from the outermost layer
inwards. Both find the same values, in every scope that can be built. Laying one scope over another
is associative, and the scope of a request is that of four layers, the later ones over the earlier.
-/

namespace PageServer

namespace Environment

/-- Scopes that can be built: from no names or from some, by laying names or scopes over them. -/
inductive IsBuilt : Environment → Prop where
  | empty : IsBuilt empty
  | ofBindings (bindings : Frame) : IsBuilt (ofBindings bindings)
  | extend {env : Environment} : IsBuilt env → ∀ bindings : Frame, IsBuilt (env.extend bindings)
  | bind {env : Environment} : IsBuilt env → ∀ (name : String) (value : Value),
    IsBuilt (env.bind name value)
  | union {env other : Environment} : IsBuilt env → IsBuilt other → IsBuilt (env.union other)

/-! Distinct names -/

/-- A scope in which no layer repeats a name. -/
def HasDistinctNames (env : Environment) : Prop := ∀ frame ∈ env, (Fields.keys frame).Nodup

/-- Names that are laid over a scope are merged into one layer, or lay none. -/
theorem HasDistinctNames.extend {env : Environment} (distinct : env.HasDistinctNames)
    (bindings : Frame) : (env.extend bindings).HasDistinctNames := by
  -- Laying nothing changes nothing.
  unfold Environment.extend
  split
  · exact distinct
  · exact List.forall_mem_cons.mpr ⟨Fields.nodup_keys_ofPairs bindings, distinct⟩

/-- No layer of a scope that can be built repeats a name. -/
theorem IsBuilt.hasDistinctNames {env : Environment} (built : env.IsBuilt) :
    env.HasDistinctNames := by
  -- The induction follows how the scope was built; all but the first two ways extend a scope.
  induction built with
  | empty => simp [HasDistinctNames, Environment.empty, Fields.keys]
  | ofBindings bindings =>
    simp [HasDistinctNames, Environment.ofBindings, Fields.nodup_keys_ofPairs]
  | extend _ bindings ih => exact ih.extend bindings
  | bind _ name value ih => exact ih.extend [(name, value)]
  | @union _ other _ _ ih _ => exact ih.extend other.flatten

/-! Flattening -/

/-- All entries of a scope in a row, those of outer layers first. -/
def entries (env : Environment) : Frame := env.reverse.flatten

/-- The entries of a layer stand behind those of the layers below it. -/
theorem entries_cons (frame : Frame) (env : Environment) :
    entries (frame :: env) = env.entries ++ frame := by
  -- Layers are listed from the innermost on, and entries from the outermost.
  simp [entries]

/-- To flatten a scope is to merge its entries in a row. -/
theorem flatten_eq (env : Environment) : env.flatten = Fields.ofPairs env.entries :=
  List.foldl_flatten.symm

/-- A flattened scope has each name once. -/
theorem nodup_keys_flatten (env : Environment) : env.flatten.keys.Nodup := by
  -- It is merged from pairs, and merging leaves no name twice.
  rw [flatten_eq]
  exact Fields.nodup_keys_ofPairs _

/-- The flattened scope has, under each name, what is found by looking through the layers. -/
theorem get?_flatten {env : Environment} (distinct : env.HasDistinctNames) (name : String) :
    env.flatten.get? name = env.lookup? name := by
  -- The innermost layer is looked into first, and merged last.
  rw [flatten_eq, Fields.get?_ofPairs_eq_last?]
  induction env with
  | nil => rfl
  | cons frame env ih =>
    obtain ⟨here, outside⟩ := List.forall_mem_cons.mp distinct
    rw [entries_cons, Fields.last?_append, Fields.last?_of_nodup here, ih outside]
    simp only [lookup?, List.findSome?_cons]
    cases Fields.get? frame name <;> rfl

/-- Names laid over a scope update what it flattens to. -/
theorem flatten_extend (env : Environment) (bindings : Frame) :
    (env.extend bindings).flatten = env.flatten.merge bindings := by
  unfold extend
  split
  · rename_i none
    rw [List.isEmpty_iff.mp none]
    rfl
  · -- The names are merged into a layer before, which makes no difference.
    rw [flatten_eq, entries_cons, Fields.ofPairs_append_ofPairs, Fields.ofPairs_append, ← flatten_eq]

/-- A scope laid over another updates what that flattens to. -/
theorem flatten_union (env other : Environment) :
    (env.union other).flatten = env.flatten.merge other.flatten :=
  -- To lay a scope over another is to lay what it flattens to over it.
  flatten_extend env other.flatten

/-- Laying a scope over another puts its entries behind those of the other. -/
theorem flatten_union_eq_ofPairs (env other : Environment) :
    (env.union other).flatten = Fields.ofPairs (env.entries ++ other.entries) := by
  -- Merging what is merged already is merging all entries at once.
  rw [flatten_union, flatten_eq env, flatten_eq other, ← Fields.ofPairs_append,
    Fields.ofPairs_append_ofPairs]

/-- Of three scopes, any two neighbours may be laid over each other first. -/
theorem flatten_union_assoc (env other third : Environment) :
    ((env.union other).union third).flatten = (env.union (other.union third)).flatten := by
  -- Either way the entries of all three are merged in a row.
  calc ((env.union other).union third).flatten
      = (Fields.ofPairs (env.entries ++ other.entries)).merge (Fields.ofPairs third.entries) := by
        rw [flatten_union, flatten_union_eq_ofPairs, flatten_eq third]
    _ = Fields.ofPairs (env.entries ++ other.entries ++ third.entries) := by
        rw [← Fields.ofPairs_append, Fields.ofPairs_append_ofPairs]
    _ = Fields.ofPairs (env.entries ++ Fields.ofPairs (other.entries ++ third.entries)) := by
        rw [Fields.ofPairs_append_ofPairs, List.append_assoc]
    _ = (env.union (other.union third)).flatten := by
        rw [flatten_union env, flatten_union_eq_ofPairs, flatten_eq env, Fields.ofPairs_append]

/-- A scope without names flattens to nothing. -/
theorem flatten_eq_nil {env : Environment} (distinct : env.HasDistinctNames)
    (nameless : ∀ name, env.lookup? name = none) : env.flatten = [] := by
  -- A first entry would have a name, and that would be found.
  rw [List.eq_nil_iff_forall_not_mem]
  intro entry member
  have absent : env.flatten.get? entry.1 = none := by rw [get?_flatten distinct, nameless]
  exact Fields.get?_eq_none_iff.mp absent (List.mem_map_of_mem member)

/-! Looking up -/

/-- A scope laid over another is looked into first. -/
theorem lookup?_union (env : Environment) {other : Environment} (distinct : other.HasDistinctNames)
    (name : String) :
    (env.union other).lookup? name = (other.lookup? name).or (env.lookup? name) := by
  -- The upper scope flattens to a layer with the same look-up.
  rw [union, lookup?_extend, Fields.ofPairs_of_nodup (nodup_keys_flatten other), get?_flatten distinct]

/-- Laying a scope of one layer over another is laying its names over it. -/
theorem union_ofBindings (env : Environment) (bindings : Frame) :
    env.union (ofBindings bindings) = env.extend bindings := by
  -- What was merged into a layer flattens to that layer.
  have layer : (ofBindings bindings).flatten = Fields.ofPairs bindings :=
    Fields.ofPairs_ofPairs bindings
  have none : (Fields.ofPairs bindings).isEmpty = bindings.isEmpty := by
    have names : (Fields.ofPairs bindings).keys = [] ↔ Fields.keys bindings = [] := by
      simp only [List.eq_nil_iff_forall_not_mem, Fields.mem_keys_ofPairs]
    rw [Bool.eq_iff_iff, List.isEmpty_iff, List.isEmpty_iff]
    simpa [Fields.keys] using names
  rw [union, layer, extend, extend, Fields.ofPairs_ofPairs, none]

end Environment

namespace Library

/-- A markup element is found under its own name. -/
theorem get?_elementFrame (name : String) :
    (Fields.ofPairs elementFrame).get? name =
      if name ∈ elements then some (.tag name) else none :=
  Fields.get?_ofPairs_named elements Value.tag name

/-- The standard library has each of its names once. -/
theorem get?_standardFrame (name : String) :
    (Fields.ofPairs standardFrame).get? name = (standard.get? name).map Prod.fst := by
  -- No name of the library is twice in it, so merging changes nothing.
  rw [Fields.ofPairs_of_nodup (by decide)]
  simp only [standardFrame, standard, List.map_cons, List.map_nil, Fields.get?]
  split
  · rfl
  · split <;> rfl

/-- The scope of a request is that of its four layers, each laid over those before. -/
theorem environment_eq_union (tables : List Table) (pathVars : Fields String) :
    environment tables pathVars =
      (((Environment.ofBindings standardFrame).union (.ofBindings elementFrame)).union
        (.ofBindings (tableFrame tables))).union (.ofBindings (pathFrame pathVars)) := by
  simp only [Environment.union_ofBindings, environment]

/-- What a request finds under a name: a path variable, a table, an element or a library entry. -/
theorem lookup?_environment (tables : List Table) (pathVars : Fields String) (name : String) :
    (environment tables pathVars).lookup? name =
      ((pathVars.last? name).map Value.text).or
        ((((tables.filter fun table => table.name == name).getLast?).map
            fun table => Value.query (Query.ofTable table)).or
          ((if name ∈ elements then some (.tag name) else none).or
            ((standard.get? name).map Prod.fst))) := by
  -- Each layer is merged from the entries of its names, of which the last counts.
  have texts : (Fields.ofPairs (pathFrame pathVars)).get? name =
      (pathVars.last? name).map Value.text := by
    rw [Fields.get?_ofPairs_eq_last?, pathFrame, Fields.last?_map, Fields.last?, Option.map_map]
    rfl
  have queries : (Fields.ofPairs (tableFrame tables)).get? name =
      ((tables.filter fun table => table.name == name).getLast?).map
        fun table => Value.query (Query.ofTable table) := by
    rw [Fields.get?_ofPairs_eq_last?, tableFrame, Fields.last?_map]
  have library : (Environment.ofBindings standardFrame).lookup? name =
      (Fields.ofPairs standardFrame).get? name := by
    simp only [Environment.ofBindings, Environment.lookup?, List.findSome?_cons, List.findSome?_nil]
    cases (Fields.ofPairs standardFrame).get? name <;> rfl
  simp only [environment, Environment.lookup?_extend, texts, queries, get?_elementFrame, library,
    get?_standardFrame]

end Library

namespace Environment

/--
The algebra of scopes.

A flattened scope has each visible name once, with the value that is found for it. Laying a scope over
another updates the one with the other, so that its names are found first; this is associative, and a
scope without names is neutral. The scope of a request is that of four layers: a path variable is found
first, then the last table of the name, then the element, and then what the library has.
-/
theorem scope_algebra {a b : Environment} (first : a.IsBuilt) (second : b.IsBuilt) (c : Environment)
    (tables : List Table) (pathVars : Fields String) :
    (a.flatten.keys.Nodup ∧ ∀ name, a.flatten.get? name = a.lookup? name ∧
      (name ∉ a.flatten.keys ↔ a.lookup? name = none)) ∧
    (a.union b).flatten = a.flatten.merge b.flatten ∧
    (∀ name, (a.union b).lookup? name = (b.lookup? name).or (a.lookup? name)) ∧
    ((a.union b).union c).flatten = (a.union (b.union c)).flatten ∧
    ((∀ name, b.lookup? name = none) →
      (b.union a).flatten = a.flatten ∧ (a.union b).flatten = a.flatten) ∧
    Library.environment tables pathVars =
      (((ofBindings Library.standardFrame).union (ofBindings Library.elementFrame)).union
        (ofBindings (Library.tableFrame tables))).union (ofBindings (Library.pathFrame pathVars)) ∧
    ∀ name, (Library.environment tables pathVars).lookup? name =
      ((pathVars.last? name).map Value.text).or
        ((((tables.filter fun table => table.name == name).getLast?).map
            fun table => Value.query (Query.ofTable table)).or
          ((if name ∈ Library.elements then some (.tag name) else none).or
            ((Library.standard.get? name).map Prod.fst))) := by
  -- Scopes that are built have no name twice in a layer.
  have distinct := first.hasDistinctNames
  have also := second.hasDistinctNames
  refine ⟨⟨nodup_keys_flatten a, fun name => ⟨get?_flatten distinct name, ?_⟩⟩, flatten_union a b,
    lookup?_union a also, flatten_union_assoc a b c, fun nameless => ?_,
    Library.environment_eq_union tables pathVars, Library.lookup?_environment tables pathVars⟩
  · rw [← Fields.get?_eq_none_iff, get?_flatten distinct]
  · -- There is nothing to update, or nothing to update with.
    rw [flatten_union, flatten_union, flatten_eq_nil also nameless]
    exact ⟨Fields.ofPairs_of_nodup (nodup_keys_flatten a), rfl⟩

/-- A scope with two names. -/
def pantry : Environment := ofBindings [("salt", .int 1), ("rice", .int 2)]

/-- A scope in which one of them has another value. -/
def basket : Environment := empty.bind "rice" (.int 5)

/-- A name keeps its place and takes its new value; of two tables of one name the later counts. -/
theorem scope_algebra_pantry :
    pantry.IsBuilt ∧ basket.IsBuilt ∧
      (pantry.union basket).flatten =
        Fields.merge [("salt", .int 1), ("rice", .int 2)] [("rice", .int 5)] ∧
      (pantry.union basket).lookup? "rice" = some (.int 5) ∧
      (empty.union pantry).flatten = pantry.flatten ∧
      (Library.environment [⟨"rice", []⟩, ⟨"rice", [("kind", .text)]⟩] [("p", "7")]).lookup? "rice" =
        some (.query (Query.ofTable ⟨"rice", [("kind", .text)]⟩)) ∧
      (Library.environment [] [("p", "7")]).lookup? "p" = some (.text "7") := by
  have first : pantry.IsBuilt := .ofBindings _
  have second : basket.IsBuilt := .bind .empty _ _
  -- The second basket is laid over the first; the empty scope then is laid over either.
  obtain ⟨_, updated, found, _⟩ := scope_algebra first second empty [] []
  obtain ⟨_, _, _, _, neutral, _⟩ := scope_algebra first .empty empty [] []
  obtain ⟨_, _, _, _, _, _, table⟩ := scope_algebra first second empty
    [⟨"rice", []⟩, ⟨"rice", [("kind", .text)]⟩] [("p", "7")]
  obtain ⟨_, _, _, _, _, _, captured⟩ := scope_algebra first second empty [] [("p", "7")]
  exact ⟨first, second, updated, found "rice", (neutral fun _ => rfl).1, table "rice", captured "p"⟩

end Environment

end PageServer
