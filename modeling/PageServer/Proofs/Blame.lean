import PageServer.Eval
import PageServer.Proofs.Basic

/-!
Who is to blame for a fault.

Whatever a program computes, and whatever it asks of the store, the visitor is never to blame: a form
that lacks a field is not met with before the program's value is handed the form.
-/

namespace PageServer

/-- Who is to blame for a fault. -/
inductive Fault.Blame where
  /-- The checker, which should have ruled it out. -/
  | checker
  /-- The program, which no checker can keep from it. -/
  | program
  /-- The visitor, for what was sent. -/
  | visitor
  /-- What the program runs on. -/
  | surroundings
  deriving DecidableEq, Repr

/-- Who is to blame for each kind of fault. -/
def Fault.blame : Fault → Blame
  | unbound _ | wrongKind _ _ _ | missingField _ | notApplicable _ | unsafeName _
  | undecodable _ _ _ => .checker
  | divisionByZero => .program
  | missingInput _ => .visitor
  | tooManyDigits | badLimit _ | unstorable _ _ _ | namelessType | store _ => .surroundings

/-- A result that is no fault of the visitor's. -/
def Spares {α : Type} (result : Except Fault α) : Prop :=
  ∀ fault, result = .error fault → fault.blame ≠ .visitor

namespace Spares

variable {α β : Type}

/-- A value is no fault. -/
theorem ok (value : α) : Spares (.ok value) := by
  intro fault failed
  cases failed

/-- A fault that someone else is to blame for. -/
theorem error {fault : Fault} (other : fault.blame ≠ .visitor) :
    Spares (.error fault : Except Fault α) := by
  -- The one fault there is, is the given one.
  intro found failed
  cases failed
  exact other

/-- A sequence of two results has a fault of the first, or one of the second. -/
theorem bind {first : Except Fault α} {next : α → Except Fault β} (here : Spares first)
    (there : ∀ value, Spares (next value)) : Spares (first >>= next) := by
  -- What follows is reached only with a value of the first result.
  cases first with
  | error fault => exact error (here fault rfl)
  | ok value => exact there value

/-- One of two results has a fault of its own only. -/
theorem ite {condition : Prop} [Decidable condition] {one other : Except Fault α} (here : Spares one)
    (there : Spares other) : Spares (if condition then one else other) := by
  -- Whichever way the condition goes, the result is one of the two.
  by_cases holds : condition
  · rwa [if_pos holds]
  · rwa [if_neg holds]

end Spares

/-! Values -/

namespace Value

/-- A value that is no text is no fault of the visitor's. -/
theorem asText_spares (site : String) (value : Value) : Spares (value.asText site) := by
  cases value with
  | text content => exact .ok content
  | _ => exact .error nofun

/-- A value that is no whole number is no fault of the visitor's. -/
theorem asInt_spares (site : String) (value : Value) : Spares (value.asInt site) := by
  cases value with
  | int n => exact .ok n
  | _ => exact .error nofun

/-- A value that is no truth value is no fault of the visitor's. -/
theorem asBool_spares (site : String) (value : Value) : Spares (value.asBool site) := by
  cases value with
  | bool truth => exact .ok truth
  | _ => exact .error nofun

/-- A value that is no record is no fault of the visitor's. -/
theorem asRecord_spares (site : String) (value : Value) : Spares (value.asRecord site) := by
  cases value with
  | record fields => exact .ok fields
  | _ => exact .error nofun

/-- Values that cannot be compared are the checker's fault, at any depth. -/
theorem equal_spares (a b : Value) : Spares (a.equal b) := by
  -- The induction is that of equality itself: values, fields, and items.
  suffices all : (∀ a b : Value, Spares (a.equal b)) ∧
      (∀ as bs : List (String × Value), Spares (equalFields as bs)) ∧
      ∀ as bs : List Value, Spares (equalAll as bs) from all.1 a b
  apply Value.equal.mutual_induct
  case case1 | case2 | case3 | case8 => exact fun _ _ => .ok _
  -- Lists of one length are compared item by item, and others not at all.
  case case4 =>
    intro as bs long items
    simpa [equal, long] using items
  case case5 =>
    intro as bs long
    simpa [equal, long] using .ok _
  -- So are records with the same names.
  case case6 =>
    intro as bs named fields
    simpa [equal, named] using fields
  case case7 =>
    intro as bs named
    simpa [equal, named] using .ok _
  -- Markup is compared by what it renders to, and anything else is refused.
  case case9 =>
    intro a b _ _ _ _ _ _ markup
    unfold equal
    simpa [markup] using .ok _
  case case10 =>
    intro a b _ _ _ _ _ _ other
    unfold equal
    simpa [other] using .error nofun
  -- In a list, the first items that differ end the comparison.
  case case11 =>
    intro a as b bs here later
    refine here.bind fun same => ?_
    split
    · exact later
    · exact .ok _
  case case12 =>
    intro as bs ended
    unfold equalAll
    split
    · exact (ended _ _ _ _ rfl rfl).elim
    · exact .ok _
  case case13 => exact fun _ => .ok _
  -- In a record, a field is compared with the one of its name.
  case case14 =>
    intro name a as bs b found here later
    unfold equalFields
    rw [found]
    refine here.bind fun same => ?_
    split
    · exact later
    · exact .ok _
  case case15 =>
    intro name a as bs found
    unfold equalFields
    rw [found]
    exact .ok _

/-- Values that have no order are the checker's fault, at any depth. -/
theorem order_spares (a b : Value) : Spares (a.order b) := by
  -- The induction follows the comparison of values and of lists at once.
  suffices all : (∀ a b : Value, Spares (a.order b)) ∧
      ∀ as bs : List Value, Spares (orderAll as bs) from all.1 a b
  apply Value.order.mutual_induct
  case case1 | case2 | case3 => exact fun _ _ => .ok _
  case case4 =>
    intro as bs items
    simpa [order] using items
  case case5 =>
    -- Every pair that has an order was dealt with before, so what is left is the refusal.
    intro a b texts numbers truths lists
    unfold order
    split
    · exact (texts _ _ rfl rfl).elim
    · exact (numbers _ _ rfl rfl).elim
    · exact (truths _ _ rfl rfl).elim
    · exact (lists _ _ rfl rfl).elim
    · exact .error nofun
  case case6 => exact .ok _
  case case7 | case8 => exact fun _ _ => .ok _
  case case9 =>
    -- The rest of two lists is compared only if their first items tie.
    intro a as b bs here later
    refine here.bind fun decided => ?_
    split
    · exact later
    · exact .ok _

end Value

/-! Markup -/

namespace Markup

/-- A number with too many digits is no fault of the visitor's. -/
theorem numberText_spares (n : Int) : Spares (numberText n) := .ite (.ok _) (.error nofun)

/-- A value that an attribute cannot have is no fault of the visitor's. -/
theorem attributeText_spares (value : Value) : Spares (attributeText value) := by
  cases value with
  | text content => exact .ok content
  | int n => exact numberText_spares n
  | _ => exact .error nofun

/-- Attributes that cannot be written are no fault of the visitor's. -/
theorem attributeList_spares (fields : Fields Value) : Spares (attributeList fields) := by
  induction fields with
  | nil => exact .ok _
  -- The first attribute that cannot be written ends the list.
  | cons entry rest ih =>
    have first : Spares (attributePair entry.1 entry.2) :=
      (attributeText_spares entry.2).bind fun _ => .ok _
    exact first.bind fun _ => ih.bind fun _ => .ok _

/-- An element whose attributes cannot be written is no fault of the visitor's. -/
theorem element_spares (name body : String) (fields : Fields Value) :
    Spares (element name body fields) :=
  -- An element without attributes cannot fail.
  .ite (.ok _) (((attributeList_spares fields).bind fun _ => .ok _).bind fun _ => .ok _)

/-- A value that cannot be rendered is no fault of the visitor's, at any depth. -/
theorem render_spares (value : Value) : Spares (render value) := by
  -- The induction follows rendering, of values and of lists at once.
  suffices all : (∀ value, Spares (render value)) ∧ ∀ items, Spares (renderAll items) from
    all.1 value
  apply Markup.render.mutual_induct
  case case1 | case5 => exact fun _ => .ok _
  case case2 => exact fun name => element_spares name "" []
  case case3 => exact fun name fields => element_spares name "" fields
  case case4 => exact fun _ => .error nofun
  case case6 => exact numberText_spares
  case case7 => exact fun _ items => items
  case case8 =>
    -- Whatever can be rendered was dealt with before, so what is left is the refusal.
    intro value raw tag tagWith bare text int list
    unfold render
    split
    · exact (raw _ rfl).elim
    · exact (tag _ rfl).elim
    · exact (tagWith _ _ rfl).elim
    · exact (bare _ rfl).elim
    · exact (text _ rfl).elim
    · exact (int _ rfl).elim
    · exact (list _ rfl).elim
    · exact .error nofun
  case case9 => exact .ok _
  case case10 => exact fun _ _ here later => here.bind fun _ => later.bind fun _ => .ok _

end Markup

/-! Operations of the language -/

namespace Eval

/-- A literal of an unknown kind is no fault of the visitor's. -/
theorem literal_spares (given : Literal) : Spares (literal given) := by
  cases given with
  | text _ | int _ | bool _ => exact .ok _
  | unsupported _ => exact .error nofun

/-- Arithmetic spares the visitor if what combines the numbers does. -/
theorem arithmetic_spares (site : String) (left right : Value)
    {combine : Int → Int → Except Fault Int} (combined : ∀ a b, Spares (combine a b)) :
    Spares (arithmetic site left right combine) :=
  (left.asInt_spares site).bind fun _ => (right.asInt_spares site).bind fun _ =>
    (combined _ _).bind fun _ => .ok _

/-- Operands of logic that are no truth values are no fault of the visitor's. -/
theorem logic_spares (site : String) (left right : Value) (combine : Bool → Bool → Bool) :
    Spares (logic site left right combine) :=
  (left.asBool_spares site).bind fun _ => (right.asBool_spares site).bind fun _ => .ok _

/-- No operator blames the visitor: of division by zero the program is guilty. -/
theorem operate_spares (operator : Operator) (left right : Value) :
    Spares (operate operator left right) := by
  -- Each operator belongs to one of four families, and none of these asks anything of the visitor.
  cases operator with
  | eq | ne => exact (left.equal_spares right).bind fun _ => .ok _
  | plus | minus | times => exact arithmetic_spares _ left right fun _ _ => .ok _
  | divide =>
    exact arithmetic_spares _ left right fun _ _ => .ite (.error nofun) (.ok _)
  | lt | gt | le | ge => exact (left.order_spares right).bind fun _ => .ok _
  | and | or => exact logic_spares _ left right _

/-- A field that a record lacks is no fault of the visitor's. -/
theorem field_spares (name : String) (value : Value) : Spares (field name value) := by
  -- The value has to be a record first.
  refine (value.asRecord_spares _).bind fun fields => ?_
  split
  · exact .ok _
  · exact .error nofun

/-- A redirection to what is no text is no fault of the visitor's. -/
theorem redirect_spares (target : Value) : Spares (redirect target) :=
  (target.asText_spares _).bind fun _ => .ok _

end Eval

/-! Statements and what they bind -/

namespace Sql

/-- A name that may not be written is no fault of the visitor's. -/
theorem checkName_spares (name : String) : Spares (checkName name) := .ite (.ok _) (.error nofun)

/-- Nor is the first such name of several. -/
theorem checkNames_spares (names : List String) : Spares (checkNames names) := by
  induction names with
  | nil => exact .ok _
  | cons name rest ih => exact (checkName_spares name).bind fun _ => ih.bind fun _ => .ok _

/-- A limit that is no number, or too long, is no fault of the visitor's. -/
theorem limitOf_spares (query : Query) : Spares (limitOf query) := by
  -- A limit may be absent, or a number in one of several forms.
  unfold limitOf
  split
  · exact .ok _
  · split
    · split
      · exact .ok _
      · exact .error nofun
    · exact .error nofun

/-- Sort terms that may not be written are no fault of the visitor's. -/
theorem orderTerms_spares (order : Fields Datum) : Spares (orderTerms order) := by
  induction order with
  | nil => exact .ok _
  | cons term rest ih => exact (checkName_spares term.1).bind fun _ => ih.bind fun _ => .ok _

/-- What follows the table spares the visitor, as its terms and its limit do. -/
theorem tail_spares (query : Query) : Spares (tail query) :=
  (orderTerms_spares query.order).bind fun _ => (limitOf_spares query).bind fun _ => .ok _

/-- A query that cannot be written is no fault of the visitor's. -/
theorem select_spares (query : Query) : Spares (select query) :=
  -- Columns are checked before the table, and the table before what follows it.
  (checkNames_spares _).bind fun _ => (checkName_spares _).bind fun _ =>
    (tail_spares query).bind fun _ => .ok _

/-- An insertion that cannot be written is no fault of the visitor's. -/
theorem insert_spares (table : String) (columns : List String) : Spares (insert table columns) :=
  (checkNames_spares columns).bind fun _ => (checkName_spares table).bind fun _ =>
    .ite (.ok _) (.ok _)

end Sql

namespace Storage

/-- A value that cannot be bound is no fault of the visitor's. -/
theorem encode_spares (value : Value) : Spares (encode value) := by
  cases value with
  | text _ | bool _ | int _ => exact .ok _
  | _ => exact .error nofun

/-- Nor is the first such value of several. -/
theorem encodeAll_spares (values : List Value) : Spares (encodeAll values) := by
  induction values with
  | nil => exact .ok _
  | cons value rest ih => exact (encode_spares value).bind fun _ => ih.bind fun _ => .ok _

/-- Nor is the first such field of a record. -/
theorem encodeFields_spares (fields : Fields Value) : Spares (encodeFields fields) := by
  induction fields with
  | nil => exact .ok _
  | cons entry rest ih => exact (encode_spares entry.2).bind fun _ => ih.bind fun _ => .ok _

/-- A cell that is not of its declared type is no fault of the visitor's. -/
theorem decode_spares (column : String) (cell : Store.Cell) (type : Ty) :
    Spares (decode column cell type) := by
  -- A cell that does not come out as a value is a fault that names the column, or the lack of a type.
  intro fault failed
  unfold decode at failed
  repeat' split at failed
  all_goals cases failed
  all_goals nofun

/-- A row with such a cell is no fault of the visitor's. -/
theorem decodeRow_spares (query : Query) (row : Fields Store.Cell) :
    Spares (decodeRow query row) := by
  -- The columns are read in order, up to the first that does not fit.
  have cells : Spares (decodeCells query row) := by
    induction row with
    | nil => exact .ok _
    | cons entry rest ih =>
      exact (decode_spares entry.1 entry.2 _).bind fun _ => ih.bind fun _ => .ok _
  exact cells.bind fun _ => .ok _

/-- What follows the table of a statement spares the visitor, as it does in the text. -/
theorem tail_spares (query : Query) : Spares (tail query) := by
  refine (Sql.limitOf_spares query).bind fun limit => ?_
  exact .ite (.ok _) ((Sql.tail_spares query).bind fun _ => .ok _)

end Storage

end PageServer
