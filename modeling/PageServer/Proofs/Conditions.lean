import PageServer.Proofs.Settled

/-!
What the conditions of a selection are made of.

A condition is taken apart, and columns in it are tied to constants, before it is tested. If a row
settles the condition as it is written, it settles all that comes of it.
-/

namespace PageServer.Store

namespace Formula

/-- The conditions between `AND` of a settled condition are settled. -/
theorem isSettled_of_mem_members {formula part : Formula} (settled : formula.isSettled)
    (member : part ∈ formula.members) : part.isSettled := by
  -- The induction follows how the condition is taken apart.
  fun_induction members formula with
  | case1 left right first second =>
    obtain ⟨one, other⟩ := isSettled_binary.mp settled
    rcases List.mem_append.mp member with here | there
    · exact first one here
    · exact second other there
  | case2 other =>
    cases List.mem_singleton.mp member
    exact settled

/-- The conditions that must all hold are settled if they are so together. -/
theorem isSettled_of_mem_conjuncts {formula part : Formula} (settled : formula.isSettled)
    (member : part ∈ formula.conjuncts) : part.isSettled := by
  -- A hint around a condition is left out, and its argument was settled with it.
  fun_induction conjuncts formula with
  | case1 left right first second =>
    obtain ⟨one, other⟩ := isSettled_binary.mp settled
    rcases List.mem_append.mp member with here | there
    · exact first one here
    · exact second other there
  | case2 operand _ inner => exact inner settled member
  | case3 function first rest _ inner =>
    exact inner (areSettled_cons.mp (isSettled_call.mp settled).2).1 member
  | case4 | case5 =>
    -- Anything else is its own only part.
    cases List.mem_singleton.mp member
    exact settled

/-- The conditions of which one must hold are settled if they are so together. -/
theorem isSettled_of_mem_disjuncts {formula part : Formula} (settled : formula.isSettled)
    (member : part ∈ formula.disjuncts) : part.isSettled := by
  -- Hints and collations are left out as they are between `AND`.
  fun_induction disjuncts formula with
  | case1 left right first second =>
    obtain ⟨one, other⟩ := isSettled_binary.mp settled
    rcases List.mem_append.mp member with here | there
    · exact first one here
    · exact second other there
  | case2 operand _ inner => exact inner settled member
  | case3 function first rest _ inner =>
    exact inner (areSettled_cons.mp (isSettled_call.mp settled).2).1 member
  | case4 | case5 =>
    cases List.mem_singleton.mp member
    exact settled

/-- The equalities that a settled equality of several values consists of are settled. -/
theorem isSettled_of_mem_slices {formula part : Formula} {parts : List Formula}
    (settled : formula.isSettled) (sliced : formula.slices = some parts)
    (member : part ∈ parts) : part.isSettled := by
  -- Each equality has a value from either side.
  unfold slices at sliced
  -- Only an equality of as many values on both sides is sliced.
  split at sliced
  · rename_i op lefts rights
    simp only [Option.ite_none_right_eq_some, Option.some.injEq] at sliced
    obtain ⟨_, rfl⟩ := sliced
    simp only [isSettled, Bool.and_eq_true, areSettled_iff] at settled
    rw [← List.map_uncurry_zip_eq_zipWith] at member
    obtain ⟨⟨left, right⟩, inside, rfl⟩ := List.mem_map.mp member
    exact isSettled_binary.mpr ⟨settled.1 _ (List.of_mem_zip inside).1,
      settled.2 _ (List.of_mem_zip inside).2⟩
  · cases sliced

/-- Conditions are settled if they were before equalities of several values were taken apart. -/
theorem isSettled_of_mem_sliced {conditions : List Formula} {part : Formula}
    (settled : ∀ condition ∈ conditions, condition.isSettled)
    (member : part ∈ sliced conditions) : part.isSettled := by
  -- Conditions stay whole or are taken apart; there is no third way.
  rcases List.mem_append.mp member with whole | slice
  · exact settled part (List.mem_filter.mp whole).1
  · obtain ⟨parts, inside, here⟩ := List.mem_flatten.mp slice
    obtain ⟨condition, given, taken⟩ := List.mem_filterMap.mp inside
    exact isSettled_of_mem_slices (settled condition given) taken here

end Formula

namespace Ties

/-- Constants that columns are tied to are settled. -/
def Settled (ties : Ties) : Prop := ∀ tie ∈ ties.found, tie.value.isSettled

/-- Adding a tie to a settled constant leaves ties settled. -/
theorem Settled.add {ties : Ties} (settled : ties.Settled) {tie : Tie} (fine : tie.value.isSettled)
    (scope : Scope) (left right : Formula) : (ties.add tie scope left right).Settled := by
  -- A tie that is refused leaves the ties as they are.
  unfold Ties.add
  split
  · exact settled
  · dsimp only
    split
    · exact settled
    -- The new tie stands behind those that were there.
    · intro other member
      rcases List.mem_append.mp member with old | new
      · exact settled other old
      · cases List.mem_singleton.mp new
        exact fine

/-- The tie of one side of a settled equality is settled. -/
theorem Settled.ofSide {ties : Ties} (settled : ties.Settled) {left right : Formula}
    (first : left.isSettled) (second : right.isSettled) (scope : Scope) (index : Nat)
    (onLeft : Bool) : (Ties.ofSide scope index left right ties onLeft).Settled := by
  -- If one side is the column, the constant is the other.
  have sides : (if onLeft then (left, right) else (right, left)).2.isSettled := by
    cases onLeft
    · exact first
    · exact second
  unfold Ties.ofSide
  generalize (if onLeft then (left, right) else (right, left)) = pair at sides
  obtain ⟨column, value⟩ := pair
  dsimp only
  -- There is a tie only if one side names a column and the other one is a constant.
  split
  · split
    · split
      · exact settled.add sides scope left right
      · exact settled
    · exact settled
  · exact settled

/-- The ties of a settled condition are settled. -/
theorem Settled.ofCondition {ties : Ties} (settled : ties.Settled) {condition : Formula}
    (fine : condition.isSettled) (scope : Scope) (index : Nat) :
    (ties.ofCondition scope index condition).Settled := by
  -- Only an equality ties a column, which may be on either side.
  unfold Ties.ofCondition
  split
  · obtain ⟨first, second⟩ := Formula.isSettled_binary.mp fine
    exact (settled.ofSide first second scope index false).ofSide first second scope index true
  · exact settled

/-- The ties of settled conditions are settled. -/
theorem settled_ofConditions (scope : Scope) {conditions : List Formula}
    (fine : ∀ condition ∈ conditions, condition.isSettled) :
    (Ties.ofConditions scope conditions).Settled := by
  -- The conditions are taken with their places, the last one first.
  unfold Ties.ofConditions
  have inside : ∀ entry ∈ conditions.mapIdx Prod.mk, entry.2.isSettled := by
    intro entry member
    obtain ⟨index, bound, rfl⟩ := List.mem_mapIdx.mp member
    exact fine _ (List.getElem_mem bound)
  generalize conditions.mapIdx Prod.mk = entries at inside
  induction entries with
  | nil =>
    intro tie member
    cases member
  | cons entry rest ih =>
    -- The ties of the rest are settled, and the first condition adds at most its own.
    exact (ih fun other member => inside other (by simp [member])).ofCondition
      (inside entry (by simp)) scope entry.1

/-- What stands for a name that is tied is settled. -/
theorem Settled.keepsSettled {ties : Ties} (settled : ties.Settled) (scope : Scope) :
    Formula.KeepsSettled (ties.change scope) := by
  -- Only names are exchanged, and only for the constants of ties.
  intro formula found _ exchanged
  unfold Ties.change at exchanged
  split at exchanged
  · simp only [bind, Option.bind_eq_some_iff] at exchanged
    obtain ⟨source, _, tie, taken, built⟩ := exchanged
    cases built
    exact settled tie (List.mem_of_find?_eq_some taken)
  · cases exchanged

/-- A settled condition stays settled with constants in place of columns. -/
theorem Settled.apply {ties : Ties} (settled : ties.Settled) (scope : Scope) (index : Nat)
    {condition : Formula} (fine : condition.isSettled) :
    (ties.apply scope index condition).isSettled := by
  -- The side that makes the tie keeps its column.
  have keeps := settled.keepsSettled scope
  unfold Ties.apply
  split
  · rename_i left right tie _
    obtain ⟨first, second⟩ := Formula.isSettled_binary.mp fine
    split
    · exact Formula.isSettled_binary.mpr ⟨first, Formula.isSettled_changed keeps right second⟩
    · exact Formula.isSettled_binary.mpr ⟨Formula.isSettled_changed keeps left first, second⟩
  · exact Formula.isSettled_changed keeps _ fine

end Ties

/-- Settled conditions stay settled while columns are tied to constants. -/
theorem isSettled_of_mem_propagate (scope : Scope) (fuel : Nat) {conditions : List Formula}
    (fine : ∀ condition ∈ conditions, condition.isSettled) :
    ∀ condition ∈ (propagate scope fuel conditions).1, condition.isSettled := by
  -- The induction is on how often columns may be tied anew.
  induction fuel generalizing conditions with
  | zero => exact fine
  | succ fuel ih =>
    rw [propagate]
    dsimp only
    split
    · exact fine
    -- Each round puts settled constants in the place of columns.
    · apply ih
      intro condition member
      obtain ⟨index, bound, rfl⟩ := List.mem_mapIdx.mp member
      exact (Ties.settled_ofConditions scope fine).apply scope index
        (fine _ (List.getElem_mem bound))

/-- The conditions of a settled selection are settled with constants in place of columns. -/
theorem isSettled_of_mem_propagated (scope : Scope) {condition : Option Formula}
    (fine : Formula.isSettled? condition) :
    ∀ part ∈ (propagated scope condition).1, part.isSettled := by
  -- A single condition has no other to take a constant from.
  have members : ∀ part ∈ condition.toList.flatMap Formula.members, part.isSettled := by
    intro part member
    obtain ⟨whole, given, inside⟩ := List.mem_flatMap.mp member
    exact Formula.isSettled_of_mem_members
      (Formula.isSettled?_iff.mp fine whole (Option.mem_toList.mp given)) inside
  unfold propagated
  split
  · simp
  · rename_i single same
    rw [same] at members
    exact members
  · exact isSettled_of_mem_propagate scope _ members

end PageServer.Store
