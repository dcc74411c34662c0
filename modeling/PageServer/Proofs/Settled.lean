import PageServer.Store.Select

/-!
Formulas that a row alone settles.

The value of a formula may depend on what the store has counted, or on the time. A formula that calls
no such function has a value that depends on the row, the table's columns and the supplied values only.
-/

namespace PageServer.Store

namespace Formula

mutual

/-- Whether a formula calls no function that may give another value each time, nor the clock. -/
def isSettled : Formula → Bool
  | .literal _ | .longHexadecimal _ | .name _ | .parameter _ | .raise | .nested => true
  | .clock _ => false
  | .pinned _ value => value.isSettled
  | .unary _ operand | .missing operand _ | .cast operand _ | .collate operand _ =>
    operand.isSettled
  | .binary _ left right => left.isSettled && right.isSettled
  | .between operand low high _ => operand.isSettled && low.isSettled && high.isSettled
  | .among operand items _ => operand.isSettled && areSettled items
  | .case base branches otherwise =>
    isSettled? base && armsSettled branches && isSettled? otherwise
  | .call function arguments => !unsteady.contains (fold function) && areSettled arguments
  | .vector items => areSettled items

/-- Whether formulas are settled by a row. -/
def areSettled : List Formula → Bool
  | [] => true
  | first :: rest => first.isSettled && areSettled rest

/-- Whether a formula that may be left out is settled by a row. -/
def isSettled? : Option Formula → Bool
  | none => true
  | some found => found.isSettled

/-- Whether the arms of a choice are settled by a row. -/
def armsSettled : List (Formula × Formula) → Bool
  | [] => true
  | (condition, result) :: rest => condition.isSettled && result.isSettled && armsSettled rest

end

/-- Formulas are settled if each of them is. -/
theorem areSettled_iff {formulas : List Formula} :
    areSettled formulas ↔ ∀ formula ∈ formulas, formula.isSettled := by
  -- The induction is on the list.
  induction formulas with
  | nil => simp [areSettled]
  | cons first rest ih => simp [areSettled, ih]

/-- A formula that may be left out is settled if it is left out or settled. -/
theorem isSettled?_iff {formula : Option Formula} :
    isSettled? formula ↔ ∀ found ∈ formula, found.isSettled := by
  cases formula <;> simp [isSettled?]

/-- Both sides of a settled operator are settled. -/
theorem isSettled_binary {op : BinaryOp} {left right : Formula} :
    (binary op left right).isSettled ↔ left.isSettled ∧ right.isSettled := by
  simp [isSettled]

/-- All three parts of a settled range are settled. -/
theorem isSettled_between {operand low high : Formula} {negated : Bool} :
    (between operand low high negated).isSettled ↔
      operand.isSettled ∧ low.isSettled ∧ high.isSettled := by
  simp [isSettled, and_assoc]

/-- What a settled membership looks for and where it looks are settled. -/
theorem isSettled_among {operand : Formula} {items : List Formula} {negated : Bool} :
    (among operand items negated).isSettled ↔ operand.isSettled ∧ areSettled items := by
  simp [isSettled]

/-- What a settled choice tests, its arms and the rest of it are settled. -/
theorem isSettled_case {base otherwise : Option Formula} {branches : List (Formula × Formula)} :
    (case base branches otherwise).isSettled ↔
      isSettled? base ∧ armsSettled branches ∧ isSettled? otherwise := by
  simp [isSettled, and_assoc]

/-- A settled call is one of a steady function on settled arguments. -/
theorem isSettled_call {function : String} {arguments : List Formula} :
    (call function arguments).isSettled ↔
      fold function ∉ unsteady ∧ areSettled arguments := by
  simp [isSettled]

/-- Formulas are settled if the first is and the others are. -/
theorem areSettled_cons {first : Formula} {rest : List Formula} :
    areSettled (first :: rest) ↔ first.isSettled ∧ areSettled rest := by
  simp [areSettled]

/-- Arms are settled if both parts of the first are and the others are. -/
theorem armsSettled_cons {condition result : Formula} {rest : List (Formula × Formula)} :
    armsSettled ((condition, result) :: rest) ↔
      condition.isSettled ∧ result.isSettled ∧ armsSettled rest := by
  simp [armsSettled, and_assoc]

end Formula

/-! Values -/

/-- A function that is not among the unsteady ones does not depend on what the store has counted. -/
theorem applyFunction_recounted (tally other : Tally) (collation : Collation) {function : String}
    (arguments : List Cell) (steady : fold function ∉ Formula.unsteady) :
    applyFunction other collation function arguments =
      applyFunction tally collation function arguments := by
  -- The functions that give a count are all unsteady.
  have plain (counts : Tally) : counts.count? (fold function) arguments = none := by
    unfold Tally.count?
    split <;> simp_all [Formula.unsteady]
  unfold applyFunction
  rw [plain, plain]

/-- What is supplied, with other counts of the store. -/
def Supply.recounted (supply : Supply) (tally : Tally) : Supply := { supply with tally }

namespace View

/-- A view with other counts of the store. -/
def recounted (view : View) (tally : Tally) : View := { view with tally }

variable (view : View) (tally : Tally)

/-- A call of a steady function does not depend on what the store has counted. -/
theorem call_recounted {function : String} (arguments : List Formula) (given : List Outcome)
    (steady : fold function ∉ Formula.unsteady) :
    (view.recounted tally).call function arguments given =
      view.call function arguments given := by
  -- Functions that choose among outcomes do not look at the counts.
  unfold call
  split
  any_goals rfl
  -- What remains are the functions of values, the others looked at outcomes only.
  simp only [applyFunction_recounted view.tally _ _ _ steady]
  rfl

mutual

/-- What becomes of a settled formula does not depend on what the store has counted. -/
theorem outcome_recounted : ∀ formula : Formula, formula.isSettled →
    (view.recounted tally).outcome formula = view.outcome formula
  -- The recursion is that of the outcome itself, one case for each kind of formula.
  -- What has no parts looks at the row alone.
  | .literal _, _ | .longHexadecimal _, _ | .name _, _ | .parameter _, _ | .raise, _
  | .nested, _ => by
    unfold outcome
    rfl
  -- The clock is not settled.
  | .clock _, settled => by simp [Formula.isSettled] at settled
  | .pinned mention value, settled => by
    have inner := outcome_recounted value settled
    simp only [outcome, inner]
    rfl
  | .unary op operand, settled => by
    have inner := outcome_recounted operand settled
    cases op <;> simp only [outcome, inner]
  | .missing operand _, settled | .cast operand _, settled | .collate operand _, settled => by
    have inner := outcome_recounted operand settled
    simp only [outcome, inner]
  | .binary op left right, settled => by
    obtain ⟨one, other⟩ := Formula.isSettled_binary.mp settled
    have first := outcome_recounted left one
    have second := outcome_recounted right other
    simp only [outcome, first, second]
    rfl
  | .between operand low high _, settled => by
    obtain ⟨tested, below, above⟩ := Formula.isSettled_between.mp settled
    have inner := outcome_recounted operand tested
    have lower := outcome_recounted low below
    have upper := outcome_recounted high above
    simp only [outcome, inner, lower, upper]
    rfl
  | .among operand items _, settled => by
    obtain ⟨wanted, listed⟩ := Formula.isSettled_among.mp settled
    have inner := outcome_recounted operand wanted
    have others := outcomes_recounted items listed
    simp only [outcome, inner, others]
    rfl
  | .case base branches otherwise, settled => by
    obtain ⟨before, arms, after⟩ := Formula.isSettled_case.mp settled
    have tested := optional_recounted base before
    have chosen := arms_recounted base (view.optional base) branches arms
    have last := optional_recounted otherwise after
    simp only [outcome, tested, chosen, last]
  | .call function arguments, settled => by
    -- A function that counts is the one case in which the counts would be looked at.
    obtain ⟨steady, given⟩ := Formula.isSettled_call.mp settled
    have others := outcomes_recounted arguments given
    simp only [outcome, others, call_recounted view tally arguments _ steady]
  | .vector items, settled => by
    have others := outcomes_recounted items settled
    simp only [outcome, others]

/-- What becomes of settled formulas does not depend on what the store has counted. -/
theorem outcomes_recounted : ∀ formulas : List Formula, Formula.areSettled formulas →
    (view.recounted tally).outcomes formulas = view.outcomes formulas
  | [], _ => rfl
  -- Each formula is looked at in turn.
  | first :: rest, settled => by
    obtain ⟨one, more⟩ := Formula.areSettled_cons.mp settled
    have here := outcome_recounted first one
    have others := outcomes_recounted rest more
    simp only [outcomes, here, others]

/-- What becomes of a settled formula, if there is one, does not depend on the counts. -/
theorem optional_recounted : ∀ formula : Option Formula, Formula.isSettled? formula →
    (view.recounted tally).optional formula = view.optional formula
  | none, _ => rfl
  | some found, settled => by
    have here := outcome_recounted found settled
    simp only [optional, here]

/-- What becomes of settled arms does not depend on what the store has counted. -/
theorem arms_recounted (base : Option Formula) (tested : Option Outcome) :
    ∀ branches : List (Formula × Formula), Formula.armsSettled branches →
      (view.recounted tally).arms base tested branches = view.arms base tested branches
  | [], _ => rfl
  -- Both the condition and the result of an arm are looked at, then the other arms.
  | (condition, result) :: rest, settled => by
    obtain ⟨one, other, more⟩ := Formula.armsSettled_cons.mp settled
    have here := outcome_recounted condition one
    have there := outcome_recounted result other
    have others := arms_recounted base tested rest more
    simp only [arms, here, there, others]
    rfl

end

end View

/-! Changes -/

namespace Formula

/-- What a change puts in the place of settled formulas is settled. -/
def KeepsSettled (change : Formula → Option Formula) : Prop :=
  ∀ formula found, formula.isSettled → change formula = some found → found.isSettled

variable {change : Formula → Option Formula}

mutual

/-- A settled formula stays settled if what its parts are exchanged for is settled. -/
theorem isSettled_changed (keeps : KeepsSettled change) : ∀ formula : Formula,
    formula.isSettled → (formula.changed change).isSettled := by
  intro formula settled
  rw [changed.eq_def]
  split
  -- What stands for the formula as a whole is settled by assumption.
  · rename_i found exchanged
    exact keeps formula found settled exchanged
  · -- Nothing stands for the formula as a whole, so its parts are changed.
    match formula, settled with
    | .unary _ operand, settled | .missing operand _, settled | .cast operand _, settled
    | .collate operand _, settled => exact isSettled_changed keeps operand settled
    | .binary _ left right, settled =>
      obtain ⟨one, other⟩ := isSettled_binary.mp settled
      exact isSettled_binary.mpr
        ⟨isSettled_changed keeps left one, isSettled_changed keeps right other⟩
    | .between operand low high _, settled =>
      obtain ⟨tested, below, above⟩ := isSettled_between.mp settled
      exact isSettled_between.mpr ⟨isSettled_changed keeps operand tested,
        isSettled_changed keeps low below, isSettled_changed keeps high above⟩
    | .among operand items _, settled =>
      obtain ⟨wanted, listed⟩ := isSettled_among.mp settled
      exact isSettled_among.mpr
        ⟨isSettled_changed keeps operand wanted, areSettled_changedAll keeps items listed⟩
    | .case base branches otherwise, settled =>
      obtain ⟨before, arms, after⟩ := isSettled_case.mp settled
      exact isSettled_case.mpr ⟨isSettled?_changed? keeps base before,
        armsSettled_changedArms keeps branches arms, isSettled?_changed? keeps otherwise after⟩
    | .call function arguments, settled =>
      -- The function itself is not exchanged, and so stays a steady one.
      obtain ⟨steady, given⟩ := isSettled_call.mp settled
      exact isSettled_call.mpr ⟨steady, areSettled_changedAll keeps arguments given⟩
    | .vector items, settled => exact areSettled_changedAll keeps items settled
    | .literal _, settled | .longHexadecimal _, settled | .clock _, settled | .name _, settled
    | .pinned _ _, settled | .parameter _, settled | .raise, settled | .nested, settled =>
      exact settled

/-- Settled formulas stay settled. -/
theorem areSettled_changedAll (keeps : KeepsSettled change) : ∀ formulas : List Formula,
    areSettled formulas → areSettled (changedAll change formulas)
  | [], _ => rfl
  | first :: rest, settled => by
    -- The first formula is changed, and then the others.
    obtain ⟨one, more⟩ := areSettled_cons.mp settled
    exact areSettled_cons.mpr
      ⟨isSettled_changed keeps first one, areSettled_changedAll keeps rest more⟩

/-- A settled formula, if there is one, stays settled. -/
theorem isSettled?_changed? (keeps : KeepsSettled change) : ∀ formula : Option Formula,
    isSettled? formula → isSettled? (changed? change formula)
  | none, _ => rfl
  | some found, settled => isSettled_changed keeps found settled

/-- Settled arms stay settled. -/
theorem armsSettled_changedArms (keeps : KeepsSettled change) :
    ∀ branches : List (Formula × Formula), armsSettled branches →
      armsSettled (changedArms change branches)
  | [], _ => rfl
  | (condition, result) :: rest, settled => by
    -- Both parts of an arm are changed.
    obtain ⟨one, other, more⟩ := armsSettled_cons.mp settled
    exact armsSettled_cons.mpr ⟨isSettled_changed keeps condition one,
      isSettled_changed keeps result other, armsSettled_changedArms keeps rest more⟩

end

/-- Asking whether something is missing that always has a value has a settled outcome. -/
theorem keepsSettled_answered (scope : Scope) : KeepsSettled (answered scope) := by
  -- The outcome is a choice without arms between two numbers.
  intro formula found _ exchanged
  unfold answered at exchanged
  split at exchanged
  · split at exchanged <;> cases exchanged
    rfl
  · cases exchanged

end Formula

end PageServer.Store
