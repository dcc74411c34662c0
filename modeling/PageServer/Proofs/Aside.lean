import PageServer.Proofs.Conditions

/-!
Constants that are put aside while a selection is put into steps.

They are parts of its formulas, so that a row settles them if it settles the selection.
-/

namespace PageServer.Store

/-- A coder puts settled formulas aside only. -/
def Coder.IsSettled (coder : Coder) : Prop :=
  ∀ coding, Formula.areSettled coding.aside → Formula.areSettled (coder coding).aside

namespace Coding

/-- A coder that leaves what is put aside as it is. -/
theorem isSettled_of_aside {coder : Coder} (same : ∀ coding, (coder coding).aside = coding.aside) :
    coder.IsSettled := by
  -- Nothing is added to what was settled before.
  intro coding settled
  rw [same]
  exact settled

/-- Meeting a collation puts nothing aside. -/
theorem isSettled_collation (name : Option String) : (collation name).IsSettled := by
  apply isSettled_of_aside
  -- A collation that is not known is a fault, and any other leaves no trace.
  intro coding
  unfold collation
  split
  · split <;> rfl
  · rfl

/-- Meeting a comparison puts nothing aside. -/
theorem isSettled_comparison (left right : Formula) : (comparison left right).IsSettled := by
  -- After a fault nothing is compared, and before it only a collation is met.
  intro coding settled
  unfold comparison
  split
  · exact settled
  · exact isSettled_collation _ coding settled

/-- Coders that put settled formulas aside do so one after the other. -/
theorem isSettled_inOrder {coders : List Coder} (each : ∀ coder ∈ coders, coder.IsSettled) :
    (inOrder coders).IsSettled := by
  -- The induction is on the coders, each of which starts where the last has ended.
  intro coding settled
  unfold inOrder
  induction coders generalizing coding with
  | nil => exact settled
  | cons first rest ih =>
    exact ih (fun coder member => each coder (by simp [member])) _
      (each first (by simp) coding settled)

/-- Coders made from items put settled formulas aside if each one does. -/
theorem isSettled_mapped {α : Type} {items : List α} {make : α → Coder}
    (each : ∀ item ∈ items, (make item).IsSettled) : (inOrder (items.map make)).IsSettled :=
  isSettled_inOrder (List.forall_mem_map.mpr each)

/-- A coder with constants in their place puts aside what it puts aside otherwise at most. -/
theorem isSettled_unmoved {coder : Coder} (settled : coder.IsSettled) :
    (unmoved coder).IsSettled :=
  -- Coding in place changes no more than where constants go.
  fun coding held => settled { coding with inPlace := true } held

end Coding

/-- A settled formula in a place from which a constant is put aside. -/
theorem Formula.isSettled_movable {formula : Formula} (fine : formula.isSettled) (scope : Scope)
    {value : Coder} (settled : value.IsSettled) : (formula.movable scope value).IsSettled := by
  -- A constant is computed in its place, without moving its parts, or put aside itself.
  intro coding held
  unfold movable
  split
  · exact settled coding held
  · split
    · exact Coding.isSettled_unmoved settled coding held
    · rw [areSettled_iff] at held ⊢
      intro part member
      rcases List.mem_append.mp member with old | new
      · exact held part old
      · cases List.mem_singleton.mp new
        exact fine

/-- The coders of a formula put settled formulas aside only. -/
structure Coders.AreSettled (coders : Coders) : Prop where
  value : coders.value.IsSettled
  operand : coders.operand.IsSettled
  condition : coders.condition.IsSettled
  elements : ∀ element ∈ coders.elements, element.2.IsSettled

namespace Coders

variable {scope : Scope} {formula : Formula}

/-- The coders of a settled formula with one value, given those of its parts. -/
theorem areSettled_ofCondition (fine : formula.isSettled) {value condition : Coder}
    (first : value.IsSettled) (second : condition.IsSettled) :
    (ofCondition scope formula value condition).AreSettled where
  value := first
  operand := Formula.isSettled_movable fine scope first
  -- What stands for the operand may be moved, which is no harm to a settled formula.
  condition := second
  elements element member := by
    cases List.mem_singleton.mp member
    exact Formula.isSettled_movable fine scope first

/-- The coders of a settled formula that is no condition of its own kind. -/
theorem areSettled_ofValue (fine : formula.isSettled) {value : Coder} (first : value.IsSettled) :
    (ofValue scope formula value).AreSettled :=
  areSettled_ofCondition fine first (Formula.isSettled_movable fine scope first)

variable {left right : Coders}

/-- Two coders in order put settled formulas aside if both do. -/
theorem isSettled_pair {first second : Coder} (one : first.IsSettled) (other : second.IsSettled) :
    (Coding.inOrder [first, second]).IsSettled := by
  apply Coding.isSettled_inOrder
  simp [one, other]

/-- Both of two conditions put settled formulas aside if each does. -/
theorem isSettled_conjunction (one : left.AreSettled) (other : right.AreSettled)
    (a b : Option Bool) : (conjunction a b left right).IsSettled := by
  -- A plain side leaves one condition, otherwise both are coded.
  unfold conjunction
  split
  · exact other.condition
  · split
    · exact one.condition
    · exact isSettled_pair one.condition other.condition

/-- One of two conditions puts settled formulas aside if each does. -/
theorem isSettled_disjunction (one : left.AreSettled) (other : right.AreSettled)
    (a b : Option Bool) : (disjunction a b left right).IsSettled := by
  -- As for both of two conditions, with the sides exchanged.
  unfold disjunction
  split
  · exact one.condition
  · split
    · exact other.condition
    · exact isSettled_pair one.condition other.condition

/-- What has been coded already puts nothing aside. -/
theorem isSettled_again (coders : Coders) : ∀ element ∈ coders.again, element.2.IsSettled := by
  -- Its coder is the one that hands on what it was given.
  intro element member
  obtain ⟨entry, _, rfl⟩ := List.mem_map.mp member
  exact fun _ held => held

/-- The elements of all coders put settled formulas aside if the coders do. -/
theorem isSettled_of_mem_elements {given : List Coders}
    (each : ∀ coders ∈ given, coders.AreSettled) :
    ∀ coder ∈ given.flatMap (·.elements.map Prod.snd), coder.IsSettled := by
  intro coder member
  obtain ⟨coders, known, inside⟩ := List.mem_flatMap.mp member
  obtain ⟨element, here, rfl⟩ := List.mem_map.mp inside
  exact (each coders known).elements element here

/-- Comparing pairs puts settled formulas aside if their coders do. -/
theorem isSettled_pairwise {lefts rights : List (Formula × Coder)}
    (one : ∀ element ∈ lefts, element.2.IsSettled)
    (other : ∀ element ∈ rights, element.2.IsSettled) : (pairwise lefts rights).IsSettled := by
  -- Each pair is coded left, right, and then compared.
  unfold pairwise
  split
  · apply Coding.isSettled_inOrder
    intro coder member
    obtain ⟨⟨first, second⟩, inside, here⟩ := List.mem_flatMap.mp member
    have members := List.of_mem_zip inside
    simp only [List.mem_cons, List.not_mem_nil, or_false] at here
    rcases here with rfl | rfl | rfl
    · exact one first members.1
    · exact other second members.2
    · exact Coding.isSettled_comparison _ _
  · exact Coding.isSettled_of_aside fun _ => rfl

/-- The tests of a range put settled formulas aside if the coders of its parts do. -/
theorem isSettled_range {tested low high : Coders} (inner : tested.AreSettled)
    (below : low.AreSettled) (above : high.AreSettled) :
    (Coding.inOrder (tested.elements.map Prod.snd ++
      [pairwise tested.again low.elements, pairwise tested.again high.elements])).IsSettled := by
  -- What is tested is coded once, and each bound is compared with what came of it.
  apply Coding.isSettled_inOrder
  intro coder member
  simp only [List.mem_append, List.mem_map, List.mem_cons, List.not_mem_nil, or_false] at member
  rcases member with ⟨element, here, rfl⟩ | rfl | rfl
  · exact inner.elements element here
  · exact isSettled_pairwise (isSettled_again _) below.elements
  · exact isSettled_pairwise (isSettled_again _) above.elements

/-- A choice puts settled formulas aside if what it tests, its arms and the rest of it do. -/
theorem isSettled_choice {base otherwise : Option Coders} {arms : List Coder}
    (tested : ∀ coders ∈ base, coders.AreSettled) (each : ∀ coder ∈ arms, coder.IsSettled)
    (last : ∀ coders ∈ otherwise, coders.AreSettled) :
    (Coding.inOrder ((base.toList.flatMap fun coders => coders.elements.map Prod.snd) ++ arms ++
      otherwise.toList.map Coders.value)).IsSettled := by
  -- Any of the three may be empty, and each is coded after the one before.
  apply Coding.isSettled_inOrder
  intro coder member
  simp only [List.mem_append, List.mem_map, Option.mem_toList] at member
  rcases member with (element | arm) | ⟨coders, known, rfl⟩
  · have given := fun coders known => tested coders (Option.mem_toList.mp known)
    exact isSettled_of_mem_elements given coder element
  · exact each coder arm
  · exact (last coders known).value

/-- Searching a list puts settled formulas aside if the coders of its items do. -/
theorem isSettled_search (scope : Scope) (operand : Formula) (items : List Formula)
    {tested : Coders} (one : tested.AreSettled) {given : List Coders}
    (each : ∀ coders ∈ given, coders.AreSettled) :
    (search scope operand items tested given).IsSettled := by
  -- One value is searched in two ways, several values in a third one.
  unfold search
  split
  · -- Several values: the items come first, and the tested values after the collations.
    rename_i parts
    intro coding held
    have before : (Coding.inOrder (given.flatMap (·.elements.map Prod.snd))).IsSettled :=
      Coding.isSettled_inOrder (isSettled_of_mem_elements each)
    dsimp only
    split
    · exact before coding held
    · refine Coding.isSettled_inOrder ?_ _ (before coding held)
      intro coder member
      rcases List.mem_append.mp member with collated | element
      · rw [← List.map_uncurry_zip_eq_zipWith] at collated
        obtain ⟨pair, _, rfl⟩ := List.mem_map.mp collated
        exact Coding.isSettled_collation _
      · obtain ⟨entry, here, rfl⟩ := List.mem_map.mp element
        exact one.elements entry here
  · dsimp only
    -- One value: the short way has constants in place, the other one the collation in between.
    split
    · apply Coding.isSettled_inOrder
      intro coder member
      simp only [List.mem_append, List.mem_singleton, List.mem_map] at member
      rcases member with (rfl | ⟨coders, known, rfl⟩) | rfl
      · exact Coding.isSettled_collation _
      · exact (each coders known).value
      · exact Coding.isSettled_unmoved one.value
    · apply Coding.isSettled_inOrder
      intro coder member
      simp only [List.mem_append, List.mem_cons, List.not_mem_nil, or_false, List.mem_map] at member
      rcases member with (rfl | rfl) | ⟨coders, known, rfl⟩
      · exact Coding.isSettled_unmoved one.value
      · exact Coding.isSettled_collation _
      · exact (each coders known).operand

/-- Calling a function puts settled formulas aside if the coders of its arguments do. -/
theorem isSettled_call (scope : Scope) (function : String) (arguments : List Formula)
    {given : List Coders} (each : ∀ coders ∈ given, coders.AreSettled) :
    (call scope function arguments given).IsSettled := by
  -- A few functions code their arguments as values or conditions, the others as operands.
  unfold call
  split
  -- Arguments coded as values.
  · exact Coding.isSettled_mapped fun coders known => (each coders known).value
  · exact Coding.isSettled_mapped fun coders known => (each coders known).value
  · apply Coding.isSettled_inOrder
    intro coder member
    simp only [List.mem_cons, List.mem_map] at member
    rcases member with rfl | ⟨coders, known, rfl⟩
    · exact (each _ (by simp)).condition
    · exact (each coders (by simp [known])).value
  · exact (each _ (by simp)).value
  · exact (each _ (by simp)).value
  · exact (each _ (by simp)).value
  · -- The collations of a comparing function come before its arguments.
    apply Coding.isSettled_inOrder
    intro coder member
    rcases List.mem_append.mp member with collated | argument
    · split at collated
      · obtain ⟨name, _, rfl⟩ := List.mem_map.mp collated
        exact Coding.isSettled_collation _
      · cases collated
    · obtain ⟨coders, known, rfl⟩ := List.mem_map.mp argument
      exact (each coders known).operand

end Coders

namespace Formula

variable (scope : Scope)

/-- An operator before a settled operand puts settled formulas aside only. -/
theorem areSettled_unary {op : UnaryOp} {operand : Formula} (fine : (unary op operand).isSettled)
    (inner : (operand.coders scope).AreSettled) :
    ((unary op operand).coders scope).AreSettled := by
  -- A numeral that is too long is refused, and only a denial is a condition of its own kind.
  unfold coders
  dsimp only
  split
  · exact Coders.areSettled_ofValue fine inner.value
  · split
    · exact Coders.areSettled_ofValue fine (Coding.isSettled_of_aside fun _ => rfl)
    · exact Coders.areSettled_ofValue fine inner.operand
  · exact Coders.areSettled_ofCondition fine inner.operand inner.condition
  · exact Coders.areSettled_ofValue fine inner.operand

/-- An operator between settled operands puts settled formulas aside only. -/
theorem areSettled_binary {op : BinaryOp} {left right : Formula}
    (fine : (binary op left right).isSettled) (one : (left.coders scope).AreSettled)
    (other : (right.coders scope).AreSettled) :
    ((binary op left right).coders scope).AreSettled := by
  have both := Coders.isSettled_pair one.operand other.operand
  have compared := Coders.isSettled_pairwise one.elements other.elements
  unfold coders
  dsimp only
  split
  · exact Coders.areSettled_ofCondition fine both (Coders.isSettled_conjunction one other _ _)
  · exact Coders.areSettled_ofCondition fine both (Coders.isSettled_disjunction one other _ _)
  · -- A test for truth is one of its left side alone.
    exact Coders.areSettled_ofCondition fine one.operand one.condition
  · exact Coders.areSettled_ofValue fine (Coding.isSettled_of_aside fun _ => rfl)
  · -- Any other operator computes with both sides, or compares them part by part.
    split
    · exact Coders.areSettled_ofValue fine both
    · split
      · exact Coders.areSettled_ofValue fine compared
      · exact Coders.areSettled_ofCondition fine compared compared

mutual

/-- Putting a settled formula into steps puts settled formulas aside only. -/
theorem areSettled_coders : ∀ formula : Formula, formula.isSettled →
    (formula.coders scope).AreSettled
  -- What is not coded at all leaves what is put aside as it is.
  | .literal _, fine | .name _, fine | .parameter _, fine => by
    unfold coders
    exact Coders.areSettled_ofCondition fine (fun _ held => held) (fun _ held => held)
  -- The clock is not settled.
  | .clock _, fine => by simp [isSettled] at fine
  | .longHexadecimal _, fine | .raise, fine | .nested, fine => by
    unfold coders
    exact Coders.areSettled_ofValue fine (Coding.isSettled_of_aside fun _ => rfl)
  -- Only the value inside is coded.
  | .pinned _ value, fine => by
    have inner := areSettled_coders value fine
    unfold coders
    exact Coders.areSettled_ofValue fine inner.value
  | .cast operand _, fine | .collate operand _, fine => by
    have inner := areSettled_coders operand fine
    unfold coders
    exact Coders.areSettled_ofValue fine inner.value
  | .missing operand _, fine => by
    have inner := areSettled_coders operand fine
    unfold coders
    exact Coders.areSettled_ofCondition fine inner.operand inner.operand
  -- The coders of an operation are put together from those of its operands, as before.
  | .unary _ operand, fine => areSettled_unary scope fine (areSettled_coders operand fine)
  -- Several values have no single coder, but one for each element.
  | .vector items, fine => by
    have inner := isSettled_elements items fine
    have whole : (Coders.ofValue scope (.vector items)
        (Coding.refuse .severalValues)).AreSettled :=
      Coders.areSettled_ofValue fine (Coding.isSettled_of_aside fun _ => rfl)
    unfold coders
    exact { whole with elements := inner }
  | .binary _ left right, fine =>
    areSettled_binary scope fine (areSettled_coders left (isSettled_binary.mp fine).1)
      (areSettled_coders right (isSettled_binary.mp fine).2)
  | .between operand low high _, fine => by
    obtain ⟨tested, below, above⟩ := isSettled_between.mp fine
    have compared := Coders.isSettled_range (areSettled_coders operand tested)
      (areSettled_coders low below) (areSettled_coders high above)
    unfold coders
    exact Coders.areSettled_ofCondition fine compared compared
  | .among operand items negated, fine => by
    obtain ⟨wanted, listed⟩ := isSettled_among.mp fine
    have found := Coders.isSettled_search scope operand items
      (areSettled_coders operand wanted) (areSettled_codersAll items listed)
    unfold coders
    exact Coders.areSettled_ofCondition fine found found
  | .case base branches otherwise, fine => by
    obtain ⟨before, arms, after⟩ := isSettled_case.mp fine
    have tested := areSettled_coders? base before
    have last := areSettled_coders? otherwise after
    -- The arms meet what is tested as coded already, which puts nothing aside once more.
    have middle := isSettled_codersArms ((coders? scope base).map Coders.again) (by
      intro known member element here
      obtain ⟨coders, _, rfl⟩ := Option.map_eq_some_iff.mp member
      exact Coders.isSettled_again coders element here) branches arms
    unfold coders
    exact Coders.areSettled_ofValue fine (Coders.isSettled_choice tested middle last)
  | .call function arguments, fine => by
    have body := Coders.isSettled_call scope function arguments
      (areSettled_codersAll arguments (isSettled_call.mp fine).2)
    unfold coders
    exact Coders.areSettled_ofValue fine (isSettled_movable fine scope body)

/-- Putting settled formulas into steps puts settled formulas aside only. -/
theorem areSettled_codersAll : ∀ formulas : List Formula, areSettled formulas →
    ∀ coders ∈ codersAll scope formulas, coders.AreSettled
  | [], _ => by simp [codersAll]
  | first :: rest, fine => by
    obtain ⟨one, more⟩ := areSettled_cons.mp fine
    intro coders member
    rcases List.mem_cons.mp member with rfl | later
    · exact areSettled_coders first one
    · exact areSettled_codersAll rest more coders later

/-- Putting a settled formula, if there is one, into steps puts settled formulas aside only. -/
theorem areSettled_coders? : ∀ formula : Option Formula, isSettled? formula →
    ∀ coders ∈ coders? scope formula, coders.AreSettled
  | none, _ => by simp [coders?]
  | some found, fine => by
    -- An absent formula has no coders.
    intro coders member
    cases member
    exact areSettled_coders found fine

/-- The values of settled formulas put settled formulas aside only. -/
theorem isSettled_elements : ∀ formulas : List Formula, areSettled formulas →
    ∀ element ∈ elements scope formulas, element.2.IsSettled
  | [], _ => by simp [elements]
  | first :: rest, fine => by
    obtain ⟨one, more⟩ := areSettled_cons.mp fine
    -- The first element is coded as an operand, the others by induction.
    intro element member
    rcases List.mem_cons.mp member with rfl | later
    · exact (areSettled_coders first one).operand
    · exact isSettled_elements rest more element later

/-- The arms of a settled choice put settled formulas aside only. -/
theorem isSettled_codersArms (tested : Option (List (Formula × Coder)))
    (before : ∀ list ∈ tested, ∀ element ∈ list, element.2.IsSettled) :
    ∀ branches : List (Formula × Formula), armsSettled branches →
      ∀ coder ∈ codersArms scope tested branches, coder.IsSettled
  | [], _ => by simp [codersArms]
  | (condition, result) :: rest, fine => by
    obtain ⟨one, other, more⟩ := armsSettled_cons.mp fine
    have found := areSettled_coders condition one
    intro coder member
    rcases List.mem_cons.mp member with rfl | later
    · -- The condition holds by itself, or is compared with what is tested.
      cases tested with
      | none => exact found.condition
      | some list => exact Coders.isSettled_pairwise (before list rfl) found.elements
    · rcases List.mem_cons.mp later with rfl | later
      · exact (areSettled_coders result other).value
      · exact isSettled_codersArms tested before rest more coder later

end

/-- Looking at both sides of a comparison puts nothing aside. -/
theorem isSettled_sides (left right : Formula) : (sides scope left right).IsSettled := by
  -- Both collations are met if the right side is a column, and nothing is met otherwise.
  unfold sides
  split
  · split
    · exact Coders.isSettled_pair (Coding.isSettled_collation _) (Coding.isSettled_collation _)
    · exact fun _ held => held
  · exact fun _ held => held

/-- Looking through a condition for bounds puts nothing aside. -/
theorem isSettled_exchanged (alone : Bool) (formula : Formula) :
    (formula.exchanged scope alone).IsSettled := by
  -- Conjunctions and disjunctions are looked through, and comparisons are met.
  fun_induction exchanged scope alone formula with
  | case1 _ left right first second => exact Coders.isSettled_pair first second
  | case2 _ left right first second => exact Coders.isSettled_pair first second
  | case3 => exact isSettled_sides scope _ _
  | case4 => exact fun _ held => held
  | case5 => exact fun _ held => held
  | case6 => exact Coders.isSettled_pair (isSettled_sides scope _ _) (isSettled_sides scope _ _)
  | case7 => exact fun _ held => held

variable {scope}

/-- The constant on one side of a comparison with the row number is settled. -/
theorem isSettled_of_sideTest? {op found : BinaryOp} {left right constant : Formula}
    (one : left.isSettled) (other : right.isSettled)
    (tested : sideTest? scope op left right = some (found, constant)) : constant.isSettled := by
  -- The row number is on one side, and the constant is the other.
  unfold sideTest? at tested
  split at tested
  · cases tested
    exact other
  · split at tested <;> cases tested
    exact one

/-- What is in a list or in its beginning is in the list. -/
theorem mem_of_mem_take_one {α : Type} {items : List α} {item : α} {whole : Prop}
    [Decidable whole] (member : item ∈ if whole then items else items.take 1) : item ∈ items := by
  -- Either way the item is one of the list.
  split at member
  · exact member
  · exact List.mem_of_mem_take member

/-- The constant that a settled condition compares the row number with is settled. -/
theorem isSettled_of_numberTest? {formula constant : Formula} {found : BinaryOp}
    (fine : formula.isSettled) (tested : formula.numberTest? scope = some (found, constant)) :
    constant.isSettled := by
  unfold numberTest? at tested
  split at tested
  · rename_i op left right
    obtain ⟨one, other⟩ := isSettled_binary.mp fine
    replace tested := (Option.ite_none_left_eq_some.mp tested).2
    split at tested
    · -- Of several values against as many, one pair decides.
      rename_i lefts rights
      obtain ⟨⟨first, second⟩, inside, decided⟩ := List.exists_of_findSome?_eq_some tested
      have members := mem_of_mem_take_one inside
      exact isSettled_of_sideTest? (areSettled_iff.mp one first (List.of_mem_zip members).1)
        (areSettled_iff.mp other second (List.of_mem_zip members).2) decided
    · exact isSettled_of_sideTest? one other tested
  · cases tested

/-- The constants that a settled condition compares the row number with are settled. -/
theorem areSettled_bounds {formula : Formula} (fine : formula.isSettled) :
    areSettled (formula.bounds scope) := by
  -- Ranges and lists name their constants, and a comparison has one.
  unfold bounds
  split
  · obtain ⟨-, below, above⟩ := isSettled_between.mp fine
    simp [areSettled, below, above]
  · exact (isSettled_among.mp fine).2
  · rw [areSettled_iff]
    intro constant member
    obtain ⟨⟨op, _⟩, tested, rfl⟩ := Option.map_eq_some_iff.mp (Option.mem_toList.mp member)
    exact isSettled_of_numberTest? fine tested

end Formula

end PageServer.Store
