import PageServer.Endpoint
import PageServer.Proofs.Basic

/-!
What stands in a program: the nodes of its expressions, and the queries, insertions and records among
them.
-/

namespace PageServer

/-- The text of the statement that a note is about, if it is about one. -/
def Log.Entry.statement? : Log.Entry → Option String
  | .schema sql | .query sql _ | .insert sql => some sql
  | .dispatch _ _ _ | .badForm _ _ _ | .violation _ _ _ _ | .failure _ _ _ _ => none

namespace Expr

mutual

/-- The parts of an expression at any depth, bodies of functions included. -/
def within : Expr → List Expr
  | .literal _ | .var _ | .hole _ => []
  | .app function argument => function :: argument :: (function.within ++ argument.within)
  | .abs _ body => body :: body.within
  | .list elements => withinAll elements
  | .record fields => withinFields fields
  | .dot whole _ => whole :: whole.within
  | .op _ left right => left :: right :: (left.within ++ right.within)
  | .forEach _ arguments body => body :: (withinAll arguments ++ body.within)
  | .insert _ value next => value :: next :: (value.within ++ next.within)

/-- Expressions with their parts at any depth. -/
def withinAll : List Expr → List Expr
  | [] => []
  | first :: rest => first :: (first.within ++ withinAll rest)

/-- The expressions of named entries with their parts at any depth. -/
def withinFields : List (String × Expr) → List Expr
  | [] => []
  | (_, first) :: rest => first :: (first.within ++ withinFields rest)

end

-- The parts of an expression are read off its outermost constructor, one layer at a time.
attribute [simp] within withinAll withinFields

/-- An expression and its parts at any depth. -/
def nodes (expr : Expr) : List Expr := expr :: expr.within

/-- The queries that an expression asks. -/
def queries (expr : Expr) : List Query :=
  expr.nodes.filterMap fun node =>
    match node with
    | .forEach query _ _ => some query
    | _ => none

/-- The tables that an expression inserts into, as they are named there. -/
def targets (expr : Expr) : List String :=
  expr.nodes.filterMap fun node =>
    match node with
    | .insert table _ _ => some table
    | _ => none

/-- The names of the fields of each record that is written out in an expression. -/
def records (expr : Expr) : List (List String) :=
  expr.nodes.filterMap fun node =>
    match node with
    | .record fields => some (Fields.keys fields)
    | _ => none

/-- An expression is one of its nodes. -/
theorem mem_nodes_self (expr : Expr) : expr ∈ expr.nodes := List.mem_cons_self

/-- The query of a node is one that the whole expression asks. -/
theorem mem_queries {expr : Expr} {query : Query} {arguments : List Expr} {body : Expr}
    (node : .forEach query arguments body ∈ expr.nodes) : query ∈ expr.queries :=
  List.mem_filterMap.mpr ⟨_, node, rfl⟩

/-- The table of an insertion is one that the whole expression inserts into. -/
theorem mem_targets {expr : Expr} {table : String} {value next : Expr}
    (node : .insert table value next ∈ expr.nodes) : table ∈ expr.targets :=
  List.mem_filterMap.mpr ⟨_, node, rfl⟩

/-- The names of a written record are among those of the whole expression. -/
theorem mem_records {expr : Expr} {fields : List (String × Expr)}
    (node : .record fields ∈ expr.nodes) : Fields.keys fields ∈ expr.records :=
  List.mem_filterMap.mpr ⟨_, node, rfl⟩

/-- The nodes of an element of a list are among those of the list. -/
theorem nodes_subset_withinAll {elements : List Expr} {element : Expr}
    (member : element ∈ elements) : element.nodes ⊆ withinAll elements := by
  -- The walk over the elements meets this one, and its nodes stand together there.
  induction elements with
  | nil => simp at member
  | cons first rest ih =>
    intro node inside
    rcases List.mem_cons.mp member with rfl | later
    · rcases List.mem_cons.mp inside with rfl | deeper
      · simp
      · simp [deeper]
    · simp [ih later inside]

/-- What stands within entries stands within their expressions. -/
theorem withinFields_eq (fields : List (String × Expr)) :
    withinFields fields = withinAll (fields.map Prod.snd) := by
  induction fields with
  | nil => rfl
  | cons first rest ih => simp [ih]

/-- The nodes of a field's expression are among those of the record. -/
theorem nodes_subset_withinFields {fields : List (String × Expr)} {entry : String × Expr}
    (member : entry ∈ fields) : entry.2.nodes ⊆ withinFields fields := by
  rw [withinFields_eq]
  exact nodes_subset_withinAll (List.mem_map_of_mem member)

end Expr

namespace Endpoint

/-- Whether an expression is a piece of the endpoint's body, with all that stands in it. -/
def Holds (endpoint : Endpoint) (expr : Expr) : Prop := expr.nodes ⊆ endpoint.body.nodes

/-- The names of a record that the body writes out, or of the form; each name once. -/
def RecordNames (endpoint : Endpoint) (names : List String) : Prop :=
  (∃ written ∈ endpoint.body.records, names = written.eraseDups) ∨
    ∃ fields, Form.fields? endpoint = some fields ∧ names = fields.keys.eraseDups

/-- The names that attributes can have: those of records in the body, and of the form. -/
def AttributeName (endpoint : Endpoint) (name : String) : Prop :=
  (∃ written ∈ endpoint.body.records, name ∈ written) ∨
    ∃ fields, Form.fields? endpoint = some fields ∧ name ∈ fields.keys

/-- Each name of a record is one that an attribute can have. -/
theorem RecordNames.attributeName {endpoint : Endpoint} {names : List String}
    (origin : endpoint.RecordNames names) {name : String} (member : name ∈ names) :
    endpoint.AttributeName name := by
  -- Leaving out repetitions adds no name.
  rcases origin with ⟨written, known, rfl⟩ | ⟨fields, declared, rfl⟩
  · exact Or.inl ⟨written, known, List.mem_eraseDups.mp member⟩
  · exact Or.inr ⟨fields, declared, List.mem_eraseDups.mp member⟩

namespace Holds

variable {endpoint : Endpoint} {expr : Expr}

/-- A piece of the body is one of its nodes. -/
theorem node (held : endpoint.Holds expr) : expr ∈ endpoint.body.nodes :=
  held expr.mem_nodes_self

/-- What has all its nodes among the parts of a piece is itself a piece. -/
theorem part {inner : Expr} (held : endpoint.Holds expr) (inside : inner.nodes ⊆ expr.within) :
    endpoint.Holds inner :=
  fun _ member => held (List.mem_cons_of_mem expr (inside member))

/-- The function and the argument of an application are pieces. -/
theorem app {function argument : Expr} (held : endpoint.Holds (.app function argument)) :
    endpoint.Holds function ∧ endpoint.Holds argument := by
  -- The two parts stand first among the parts of the application, then their own.
  constructor <;> apply held.part <;> intro node member <;>
    rcases List.mem_cons.mp member with rfl | deeper <;> simp_all

/-- The body of a function is a piece. -/
theorem abs {param : String} {body : Expr} (held : endpoint.Holds (.abs param body)) :
    endpoint.Holds body :=
  held.part fun _ member => by simpa [Expr.nodes] using member

/-- Each element of a list is a piece. -/
theorem list {elements : List Expr} (held : endpoint.Holds (.list elements)) {element : Expr}
    (member : element ∈ elements) : endpoint.Holds element :=
  held.part (by simpa using Expr.nodes_subset_withinAll member)

/-- The expression of each field of a record is a piece. -/
theorem record {fields : List (String × Expr)} (held : endpoint.Holds (.record fields))
    {entry : String × Expr} (member : entry ∈ fields) : endpoint.Holds entry.2 :=
  held.part (by simpa using Expr.nodes_subset_withinFields member)

/-- The record of a field access is a piece. -/
theorem dot {record : Expr} {name : String} (held : endpoint.Holds (.dot record name)) :
    endpoint.Holds record :=
  held.part fun _ member => by simpa [Expr.nodes] using member

/-- Both operands of an operator are pieces. -/
theorem op {operator : Operator} {left right : Expr}
    (held : endpoint.Holds (.op operator left right)) :
    endpoint.Holds left ∧ endpoint.Holds right := by
  -- Each node of an operand is a node within the operation.
  constructor <;> apply held.part <;> intro node member <;>
    rcases List.mem_cons.mp member with rfl | deeper <;> simp_all

/-- The arguments and the body of a query are pieces. -/
theorem forEach {query : Query} {arguments : List Expr} {body : Expr}
    (held : endpoint.Holds (.forEach query arguments body)) :
    (∀ argument ∈ arguments, endpoint.Holds argument) ∧ endpoint.Holds body := by
  -- Arguments and body stand in one list of parts, the body first.
  constructor
  · intro argument member
    apply held.part
    intro node inside
    simp [Expr.nodes_subset_withinAll member inside]
  · apply held.part
    intro node member
    rcases List.mem_cons.mp member with rfl | deeper <;> simp_all

/-- The value and the continuation of an insertion are pieces. -/
theorem insert {table : String} {value next : Expr}
    (held : endpoint.Holds (.insert table value next)) :
    endpoint.Holds value ∧ endpoint.Holds next := by
  -- The value and what comes next stand within the insertion.
  constructor <;> apply held.part <;> intro node member <;>
    rcases List.mem_cons.mp member with rfl | deeper <;> simp_all

end Holds

end Endpoint

end PageServer
