import PageServer.Eval
import PageServer.Proofs.Basic

/-!
What the steps of an evaluation give that change nothing.

Literals, operators and stored cells come out as texts, whole numbers and truth values; a stored cell
comes out as a value of the type that its column is declared with. Elements build raw markup, the library
sends the client elsewhere, and only records have fields.
-/

namespace PageServer

/-- A text, a whole number or a truth value, by the type of columns that hold such values. -/
inductive Value.IsAtom : Ty.Storable → Value → Prop where
  | text (content : String) : IsAtom .text (.text content)
  | int (n : Int) : IsAtom .int (.int n)
  | bool (truth : Bool) : IsAtom .bool (.bool truth)

/-- Only a record can be read as one. -/
theorem Value.asRecord_eq_ok {value : Value} {site : String} {fields : Fields Value} :
    value.asRecord site = .ok fields ↔ value = .record fields := by
  cases value <;> simp [Value.asRecord]

namespace Eval

/-- A literal that has a value is an atom. -/
theorem literal_isAtom {given : Literal} {value : Value} (read : literal given = .ok value) :
    ∃ type, Value.IsAtom type value := by
  -- Each kind of literal stands for one kind of atom.
  cases given <;> cases read
  case text content => exact ⟨_, .text content⟩
  case int n => exact ⟨_, .int n⟩
  case bool truth => exact ⟨_, .bool truth⟩

/-- Arithmetic gives whole numbers. -/
theorem arithmetic_isAtom {site : String} {left right value : Value}
    {combine : Int → Int → Except Fault Int}
    (combined : arithmetic site left right combine = .ok value) : Value.IsAtom .int value := by
  -- Both operands are read as numbers before they are combined.
  simp only [arithmetic, bind_eq_ok] at combined
  obtain ⟨_, _, _, _, n, _, built⟩ := combined
  cases built
  exact .int n

/-- Logic gives truth values. -/
theorem logic_isAtom {site : String} {left right value : Value} {combine : Bool → Bool → Bool}
    (combined : logic site left right combine = .ok value) : Value.IsAtom .bool value := by
  -- Both sides have to be truth values before they are combined.
  simp only [logic, bind_eq_ok] at combined
  obtain ⟨_, _, _, _, built⟩ := combined
  cases built
  exact .bool _

/-- Asking for the order gives truth values. -/
theorem ordered_isAtom {left right value : Value} {accept : Ordering → Bool}
    (tested : ordered left right accept = .ok value) : Value.IsAtom .bool value := by
  -- The test is applied to the order that was found, if one was.
  simp only [ordered, bind_eq_ok] at tested
  obtain ⟨_, _, built⟩ := tested
  cases built
  exact .bool _

/-- Operators give whole numbers and truth values, whatever they are given. -/
theorem operate_isAtom {operator : Operator} {left right value : Value}
    (computed : operate operator left right = .ok value) : ∃ type, Value.IsAtom type value := by
  -- Each operator belongs to one of four families.
  cases operator <;> simp only [operate] at computed
  case eq | ne =>
    simp only [bind_eq_ok] at computed
    obtain ⟨_, _, built⟩ := computed
    cases built
    exact ⟨_, .bool _⟩
  case plus | minus | times | divide => exact ⟨_, arithmetic_isAtom computed⟩
  case lt | gt | le | ge => exact ⟨_, ordered_isAtom computed⟩
  case and | or => exact ⟨_, logic_isAtom computed⟩

/-- What an element builds is raw markup. -/
theorem element_eq_ok {name : String} {fields : Fields Value} {argument value : Value} :
    (do
      let body ← Markup.render argument
      return Value.raw (← Markup.element name body fields) : Except Fault Value) = .ok value ↔
      ∃ body markup, Markup.render argument = .ok body ∧
        Markup.element name body fields = .ok markup ∧ value = .raw markup := by
  -- The argument is rendered first, and the tags are put around it.
  simp only [bind_eq_ok]
  constructor
  · rintro ⟨body, rendered, markup, written, built⟩
    cases built
    exact ⟨body, markup, rendered, written, rfl⟩
  · rintro ⟨body, markup, rendered, written, rfl⟩
    exact ⟨body, rendered, markup, written, rfl⟩

/-- A redirection sends the client to a text, and says nothing else. -/
theorem redirect_eq_ok {target value : Value} :
    redirect target = .ok value ↔ ∃ location, target = .text location ∧
      value = .response { status := 303, headers := [("Location", location)], body := "" } := by
  -- The target is a text or it is refused.
  cases target with
  | text location =>
    constructor
    · intro sent
      cases sent
      exact ⟨location, rfl, rfl⟩
    · rintro ⟨_, same, rfl⟩
      cases same
      rfl
  | _ => simp [redirect, Value.asText, Bind.bind, Except.bind]

/-- Only a record has fields. -/
theorem field_eq_ok {name : String} {value held : Value} :
    field name value = .ok held ↔
      ∃ fields : Fields Value, value = .record fields ∧ fields.get? name = some held := by
  -- What is left to show is about the search for the name alone.
  simp only [field, bind_eq_ok, Value.asRecord_eq_ok]
  refine exists_congr fun fields => and_congr_right fun _ => ?_
  cases Fields.get? fields name with
  | none => simp [throw, throwThe, MonadExceptOf.throw]
  | some found => simp [Pure.pure, Except.pure]

end Eval

/-- An atom of a type; without a type it may be of any. -/
def Value.Fits (type : Ty) (value : Value) : Prop :=
  ∃ storable, IsAtom storable value ∧ (type = .absent ∨ type.storable? = some storable)

namespace Storage

/-- A stored cell comes out as an atom of its type. -/
theorem decode_fits {column : String} {cell : Store.Cell} {type : Ty} {value : Value}
    (decoded : decode column cell type = .ok value) : value.Fits type := by
  -- Without a type the kind of the cell decides, with one the type does.
  unfold decode at decoded
  split at decoded
  · split at decoded <;> cases decoded
    · exact ⟨_, .text _, .inl rfl⟩
    · exact ⟨_, .int _, .inl rfl⟩
  · repeat' split at decoded
    all_goals cases decoded
    all_goals rename_i storable
    all_goals exact ⟨_, by constructor, .inr storable⟩

/-- Each cell of a row comes out under its own name, as an atom of the type declared for it. -/
theorem decodeCells_fits {query : Query} {row : Fields Store.Cell} {values : Fields Value}
    (decoded : decodeCells query row = .ok values) :
    values.keys = row.keys ∧ ∀ entry ∈ values, entry.2.Fits (declaredType query entry.1) := by
  -- The induction is on the row, which is decoded from its first cell on.
  induction row generalizing values with
  | nil =>
    cases decoded
    simp [Fields.keys]
  | cons entry rest ih =>
    -- A row is decoded if its first cell is and the rest of it is.
    simp only [decodeCells, bind_eq_ok] at decoded
    obtain ⟨first, here, others, later, built⟩ := decoded
    cases built
    obtain ⟨keys, fits⟩ := ih later
    refine ⟨by simpa [Fields.keys] using keys, ?_⟩
    exact List.forall_mem_cons.mpr ⟨decode_fits here, fits⟩

/-- What a row binds are its columns, each to an atom of the type declared for it. -/
theorem decodeRow_fits {query : Query} {row : Fields Store.Cell} {values : Fields Value}
    (decoded : decodeRow query row = .ok values) :
    values.keys = row.keys.eraseDups ∧
      ∀ entry ∈ values, entry.2.Fits (declaredType query entry.1) := by
  -- Merging repeated columns adds no values.
  simp only [decodeRow, bind_eq_ok] at decoded
  obtain ⟨cells, read, built⟩ := decoded
  cases built
  obtain ⟨keys, fits⟩ := decodeCells_fits read
  refine ⟨by rw [Fields.keys_ofPairs, keys], ?_⟩
  exact fun entry member => fits entry (Fields.mem_of_mem_ofPairs member)

end Storage

end PageServer
