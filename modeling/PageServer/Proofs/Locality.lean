import PageServer.Proofs.Apart
import PageServer.Proofs.Aside

/-!
Queries that are answered from their own table.

Main statement: a query that reads its own table, and whose formulas are settled by a row, is local.
What its selection gives does not depend on what the store has counted, since neither the tests nor
the order of reading nor the values do. Such a query is within the language, so no engine is asked
for it, and it is local whatever the engines are.
-/

namespace PageServer.Store

namespace View

variable (view : View) (tally : Tally)

/-- The value of a settled formula does not depend on what the store has counted. -/
theorem value_recounted {formula : Formula} (settled : formula.isSettled) :
    (view.recounted tally).value formula = view.value formula := by
  -- The value is read off the outcome.
  unfold value
  rw [view.outcome_recounted tally formula settled]

/-- The values of settled formulas do not depend on what the store has counted. -/
theorem all_recounted {formulas : List Formula} (settled : Formula.areSettled formulas) :
    (view.recounted tally).all formulas = view.all formulas := by
  -- The values are read off the outcomes.
  unfold all
  rw [view.outcomes_recounted tally formulas settled]

/-- Whether a settled condition is true of a row does not depend on what the store has counted. -/
theorem satisfies_recounted {condition : Formula} (settled : condition.isSettled) :
    (view.recounted tally).satisfies condition = view.satisfies condition := by
  -- Whether it holds is read off the outcome.
  unfold satisfies
  rw [view.outcome_recounted tally condition settled]

end View

/-! The order of reading -/

namespace Formula

variable {scope : Scope}

/-- The branches of a fork, and what goes along with each, are settled. -/
structure Fork.IsSettled (fork : Fork) : Prop where
  branches : ∀ branch ∈ fork.branches, branch.isSettled
  others : ∀ other ∈ fork.others, other.isSettled

/-- The disjunctions among settled conditions have settled branches. -/
theorem isSettled_of_mem_forks {before conditions : List Formula} {fork : Fork}
    (earlier : ∀ condition ∈ before, condition.isSettled)
    (fine : ∀ condition ∈ conditions, condition.isSettled)
    (member : fork ∈ forks scope before conditions) : fork.IsSettled := by
  -- The walk collects the conditions before each disjunction, which are settled too.
  induction conditions generalizing before with
  | nil => cases member
  | cons condition rest ih =>
    have here : condition.isSettled := fine condition (by simp)
    have rested : ∀ other ∈ rest, other.isSettled :=
      fun other inside => fine other (List.mem_cons_of_mem condition inside)
    -- What comes up later has this condition among the ones before it.
    have later (inside : fork ∈ forks scope (before ++ [condition]) rest) : fork.IsSettled := by
      apply ih _ rested inside
      intro other known
      rcases List.mem_append.mp known with old | new
      · exact earlier other old
      · cases List.mem_singleton.mp new
        exact here
    rw [forks.eq_def] at member
    dsimp only at member
    split at member
    · -- A disjunction is a fork itself, and the others go along with it.
      rename_i left right
      obtain ⟨one, other⟩ := isSettled_binary.mp here
      rcases List.mem_cons.mp member with rfl | inside
      · constructor
        · intro branch known
          rcases List.mem_append.mp known with first | second
          · exact isSettled_of_mem_disjuncts one first
          · exact isSettled_of_mem_disjuncts other second
        · intro condition known
          rcases List.mem_append.mp (List.mem_filter.mp known).1 with old | new
          · exact earlier condition old
          · exact rested condition new
      · exact later inside
    -- Anything else is no fork, and is only passed over.
    · exact later member

/-- A choice that keeps the best one so far ends with it or with one of the candidates. -/
theorem foldl_choice {choose : Cost × Option Fork → Fork → Cost × Option Fork}
    (step : ∀ best fork, choose best fork = best ∨ (choose best fork).2 = some fork)
    {candidates : List Fork} {best : Cost × Option Fork} {found : Fork}
    (chosen : (candidates.foldl choose best).2 = some found) :
    best.2 = some found ∨ found ∈ candidates := by
  -- The best one so far is kept or replaced, candidate by candidate.
  induction candidates generalizing best with
  | nil => exact Or.inl chosen
  | cons first rest ih =>
    -- The others end with what this candidate has left as the best, or with one of them.
    rcases ih chosen with earlier | later
    · rcases step best first with kept | taken
      · exact Or.inl (kept ▸ earlier)
      · cases taken.symm.trans earlier
        exact Or.inr List.mem_cons_self
    · exact Or.inr (List.mem_cons_of_mem first later)

/-- The fork by which rows are read is one of the disjunctions. -/
theorem mem_forks_of_fork? {conditions : List Formula} {fork : Fork}
    (chosen : fork? scope conditions = some fork) : fork ∈ forks scope [] conditions := by
  unfold fork? at chosen
  refine (foldl_choice ?_ chosen).resolve_left (by simp)
  -- A fork is taken if it costs less than the best one, which is kept otherwise.
  intro best fork
  split
  · split
    · exact Or.inr rfl
    · exact Or.inl rfl
  · exact Or.inl rfl

end Formula

/-- Whether a settled condition may be true of a row does not depend on the counts. -/
theorem View.mayAllow_recounted (view : View) (tally : Tally) {condition : Formula}
    (settled : condition.isSettled) :
    (view.recounted tally).mayAllow condition = view.mayAllow condition := by
  -- The test goes by the truth of the condition on the row, which has no count in it.
  unfold View.mayAllow
  rw [view.satisfies_recounted tally settled]

section Rows

variable (relation : Relation) (supply : Supply) (tally : Tally)

/-- The order in which rows are read does not depend on what the store has counted. -/
theorem arranged_recounted (depth : Nat) {conditions : List Formula}
    (fine : ∀ condition ∈ conditions, condition.isSettled) (rows : List Row) :
    arranged relation (supply.recounted tally) depth conditions rows =
      arranged relation supply depth conditions rows := by
  -- The induction is on how deep forks are nested.
  induction depth generalizing conditions rows with
  | zero => rfl
  | succ depth ih =>
    -- Without a fork, or at the bottom, the rows stay as they are.
    unfold arranged
    split
    · rfl
    · split
      · rfl
      · rename_i fork chosen
        have settled : fork.IsSettled := Formula.isSettled_of_mem_forks (by simp) fine
          (Formula.mem_forks_of_fork? chosen)
        -- Branch by branch, the same rows are taken and arranged alike.
        congr 1
        apply List.foldl_ext
        rintro ⟨done, left⟩ branch member
        have held := settled.branches branch member
        have same : ∀ row, ((supply.recounted tally).on relation row).mayAllow branch =
            (supply.on relation row).mayAllow branch :=
          fun row => (supply.on relation row).mayAllow_recounted tally held
        have parts : ∀ condition ∈ branch.conjuncts ++ fork.others, condition.isSettled := by
          intro condition inside
          rcases List.mem_append.mp inside with part | other
          · exact Formula.isSettled_of_mem_conjuncts held part
          · exact settled.others condition other
        simp only [same, ih parts]

/-- Whether settled conditions are all true does not depend on what the store has counted. -/
theorem Selection.allHold_recounted (view : View) {conditions : List Formula}
    (fine : ∀ condition ∈ conditions, condition.isSettled) :
    allHold (view.recounted tally) conditions = allHold view conditions := by
  -- The test ends with the first condition that does not hold, on both sides.
  induction conditions with
  | nil => rfl
  | cons first rest ih =>
    have here := view.satisfies_recounted tally (fine first (by simp))
    have others := ih fun condition member => fine condition (by simp [member])
    simp only [allHold, here, others]

/-- The rows on which settled conditions are true do not depend on what the store has counted. -/
theorem Selection.satisfying_recounted {conditions : List Formula}
    (fine : ∀ condition ∈ conditions, condition.isSettled) (wanted : Option Nat)
    (rows : List Row) :
    satisfying relation (supply.recounted tally) conditions wanted rows =
      satisfying relation supply conditions wanted rows := by
  -- The induction is on the rows; the number that is wanted goes down with each hit.
  have same (row : Row) : allHold ((supply.recounted tally).on relation row) conditions =
      allHold (supply.on relation row) conditions :=
    allHold_recounted tally (supply.on relation row) fine
  induction rows generalizing wanted with
  | nil => simp only [satisfying]
  | cons row rest ih =>
    rcases wanted with none | ⟨_ | more⟩
    · simp only [satisfying, same, ih]
    · simp only [satisfying]
    · simp only [satisfying, same, ih]

/-- The values of settled formulas on rows do not depend on what the store has counted. -/
theorem Selection.withValues_recounted {formulas : List Formula}
    (settled : Formula.areSettled formulas) (rows : List Row) :
    withValues relation (supply.recounted tally) formulas rows =
      withValues relation supply formulas rows := by
  -- Rows are valued one after the other.
  induction rows with
  | nil => rfl
  | cons row rest ih =>
    have here : ((supply.recounted tally).on relation row).all formulas =
        (supply.on relation row).all formulas :=
      (supply.on relation row).all_recounted tally settled
    simp only [withValues, here, ih]

end Rows

namespace Selection

/-- All formulas of a selection are settled by a row. -/
structure IsSettled (selection : Selection) : Prop where
  columns : ∀ column ∈ selection.columns, column.1.isSettled
  condition : ∀ condition ∈ selection.condition, condition.isSettled
  order : ∀ term ∈ selection.order, term.formula.isSettled
  limit : ∀ limit ∈ selection.limit, limit.isSettled
  offset : ∀ offset ∈ selection.offset, offset.isSettled

instance (selection : Selection) : Decidable selection.IsSettled :=
  decidable_of_iff
    ((∀ column ∈ selection.columns, column.1.isSettled) ∧
      (∀ condition ∈ selection.condition, condition.isSettled) ∧
      (∀ term ∈ selection.order, term.formula.isSettled) ∧
      (∀ limit ∈ selection.limit, limit.isSettled) ∧ ∀ offset ∈ selection.offset, offset.isSettled)
    ⟨fun ⟨columns, condition, order, limit, offset⟩ => ⟨columns, condition, order, limit, offset⟩,
      fun settled => ⟨settled.columns, settled.condition, settled.order, settled.limit,
        settled.offset⟩⟩

namespace IsSettled

variable {selection : Selection} (settled : selection.IsSettled)

include settled

/-- A settled selection stays settled with the outcomes of what need not be asked. -/
theorem answered (scope : Scope) : (selection.answered scope).IsSettled := by
  -- Limits are looked at without a table, all else within it.
  have changed (scope : Scope) (formula : Formula) (fine : formula.isSettled) :
      (formula.changed (Formula.answered scope)).isSettled :=
    Formula.isSettled_changed (Formula.keepsSettled_answered scope) formula fine
  constructor
  -- Column by column, and so for each part of the selection.
  · intro column member
    obtain ⟨before, given, rfl⟩ := List.mem_map.mp member
    exact changed scope before.1 (settled.columns before given)
  · intro condition member
    obtain ⟨before, given, rfl⟩ := Option.map_eq_some_iff.mp member
    exact changed scope before (settled.condition before given)
  · intro term member
    obtain ⟨before, given, rfl⟩ := List.mem_map.mp member
    exact changed scope before.formula (settled.order before given)
  · intro limit member
    obtain ⟨before, given, rfl⟩ := Option.map_eq_some_iff.mp member
    exact changed none before (settled.limit before given)
  · intro offset member
    obtain ⟨before, given, rfl⟩ := Option.map_eq_some_iff.mp member
    exact changed none before (settled.offset before given)

/-- The conditions that a settled selection tests are settled. -/
theorem tests (scope : Scope) :
    (∀ condition ∈ (selection.tests scope).constant, condition.isSettled) ∧
      ∀ condition ∈ (selection.tests scope).varying, condition.isSettled := by
  -- They are parts of its condition, with constants in place of columns.
  have conditions : ∀ condition ∈
      Formula.sliced ((propagated scope selection.condition).1.flatMap Formula.conjuncts),
      condition.isSettled := by
    intro condition member
    refine Formula.isSettled_of_mem_sliced ?_ member
    intro part inside
    obtain ⟨whole, given, here⟩ := List.mem_flatMap.mp inside
    exact Formula.isSettled_of_mem_conjuncts (isSettled_of_mem_propagated scope
      (Formula.isSettled?_iff.mpr settled.condition) whole given) here
  unfold Selection.tests
  simp only [List.partition_eq_filter_filter]
  exact ⟨fun condition member => conditions condition (List.mem_filter.mp member).1,
    fun condition member => conditions condition (List.mem_filter.mp member).1⟩

/-- The conditions on each row are settled in the order in which they are tested. -/
theorem ordered (scope : Scope) :
    ∀ condition ∈ (selection.tests scope).ordered scope, condition.isSettled := by
  -- Putting the bounding conditions first adds none.
  intro condition member
  unfold Tests.ordered at member
  simp only [List.partition_eq_filter_filter] at member
  rcases List.mem_append.mp member with bounding | other
  · exact (settled.tests scope).2 condition (List.mem_filter.mp bounding).1
  · exact (settled.tests scope).2 condition (List.mem_filter.mp other).1

/-- The columns of a settled selection are settled. -/
theorem areSettled_columns : Formula.areSettled (selection.columns.map Prod.fst) := by
  -- The list asks for each of its formulas to be settled.
  rw [Formula.areSettled_iff, List.forall_mem_map]
  exact settled.columns

/-- What sort terms stand for is settled. -/
theorem sortFormula {term : SortTerm} (member : term ∈ selection.order) :
    (selection.sortFormula term.formula).isSettled := by
  -- A term stands for itself unless it is a number.
  unfold Selection.sortFormula
  split
  · exact settled.order term member
  · rename_i place _
    -- A term may give a column by its place.
    cases found : selection.columns[(place - 1).toNat]? with
    | none => exact settled.order term member
    | some column => exact settled.columns column (List.mem_of_getElem? found)

end IsSettled

/-- Stages that put settled formulas aside do so one after the other. -/
theorem areSettled_staged {stages : List Coder} (each : ∀ stage ∈ stages, stage.IsSettled)
    {coding final : Coding} (held : Formula.areSettled coding.aside)
    (ended : staged coding stages = .ok final) : Formula.areSettled final.aside := by
  -- The induction is on the stages, which end with the first fault.
  induction stages generalizing coding with
  | nil =>
    cases ended
    exact held
  | cons stage rest ih =>
    rw [staged] at ended
    split at ended
    · cases ended
    · exact ih (fun other member => each other (by simp [member]))
        (each stage (by simp) coding held) ended

/-- Values of settled formulas put settled formulas aside only. -/
theorem isSettled_values (scope : Scope) {formulas : List Formula}
    (fine : Formula.areSettled formulas) (part : Coders → Coder)
    (settled : ∀ coders : Coders, coders.AreSettled → (part coders).IsSettled) :
    (Coding.inOrder ((Formula.codersAll scope formulas).map part)).IsSettled := by
  -- Each formula gives its own coders, all of which put settled formulas aside.
  apply Coding.isSettled_mapped
  intro coders known
  exact settled coders (Formula.areSettled_codersAll scope formulas fine coders known)

/-- The limits of a settled selection are settled. -/
theorem IsSettled.limits {selection : Selection} (settled : selection.IsSettled) :
    Formula.areSettled (selection.limit.toList ++ selection.offset.toList) := by
  -- The two limits are given or not, each by itself.
  rw [Formula.areSettled_iff, List.forall_mem_append]
  simp only [Option.mem_toList]
  exact ⟨settled.limit, settled.offset⟩

/-- The results of a settled selection and its sort terms are settled. -/
theorem IsSettled.results {selection : Selection} (settled : selection.IsSettled) :
    Formula.areSettled (selection.columns.map Prod.fst ++
      selection.order.map SortTerm.formula) := by
  -- Either the formula is a result or it is what rows are sorted by.
  rw [Formula.areSettled_iff, List.forall_mem_append, List.forall_mem_map, List.forall_mem_map]
  exact ⟨settled.columns, settled.order⟩

/-- What a settled selection puts aside is settled. -/
theorem IsSettled.coded {selection : Selection} (settled : selection.IsSettled)
    {relation : Relation} {coding : Coding} (ended : selection.coded relation = .ok coding) :
    Formula.areSettled coding.aside := by
  obtain ⟨constant, varying⟩ := settled.tests (some relation)
  -- The four stages are limits, constants, conditions with results, and what was put aside.
  refine areSettled_staged ?_ ?_ ended
  · intro stage member
    simp only [List.mem_cons, List.not_mem_nil, or_false] at member
    rcases member with rfl | rfl | rfl | rfl
    -- First come the collations, the limits and what is exchanged in the terms.
    · apply Coding.isSettled_inOrder
      intro coder here
      simp only [List.mem_cons, List.not_mem_nil, or_false] at here
      rcases here with rfl | rfl | rfl
      · exact Coding.isSettled_mapped fun _ _ => Coding.isSettled_collation _
      · exact isSettled_values _ settled.limits _ fun _ each => each.value
      · exact Coding.isSettled_mapped fun _ _ => Formula.isSettled_exchanged _ _ _
    -- The constants are computed as conditions.
    · exact isSettled_values _ (Formula.areSettled_iff.mpr constant) _ fun _ each => each.condition
    -- The varying conditions come before the results, and ranges ask for their bounds.
    · apply Coders.isSettled_pair
      · apply Coding.isSettled_inOrder
        intro coder inside
        obtain ⟨index, bound, rfl⟩ := List.mem_mapIdx.mp inside
        have fine := varying _ (List.getElem_mem bound)
        split
        · exact isSettled_values _ (Formula.areSettled_bounds fine) _ fun _ each => each.operand
        · exact (Formula.areSettled_coders _ _ fine).condition
      · exact isSettled_values _ settled.results _ fun _ each => each.value
    -- What was put aside comes last, in its place.
    · intro before held
      have unmoved := isSettled_values (some relation) held _
        fun _ each => Coding.isSettled_unmoved each.value
      exact unmoved before held
  · rfl

section Run

variable {selection : Selection} (settled : selection.IsSettled) (relation : Relation)
  (supply : Supply) (tally : Tally)

/-- The value of a settled limit does not depend on what the store has counted. -/
theorem limitValue_recounted {limit : Option Formula}
    (fine : ∀ formula ∈ limit, formula.isSettled) :
    limitValue (supply.recounted tally) limit = limitValue supply limit := by
  -- A limit is computed without a row, from the counts and the values alone.
  cases limit with
  | none => rfl
  | some formula =>
    have same : (supply.recounted tally).alone.value formula = supply.alone.value formula :=
      supply.alone.value_recounted tally (fine formula rfl)
    simp only [limitValue, same]

include settled

/-- The rows that a settled selection reads do not depend on what the store has counted. -/
theorem filtered_recounted (wanted : Option Nat) :
    selection.filtered relation (supply.recounted tally) wanted =
      selection.filtered relation supply wanted := by
  -- Constants are tested once, rows are read in their order, and conditions on each.
  obtain ⟨constant, varying⟩ := settled.tests (some relation)
  have before : allHold ((supply.recounted tally).on relation ⟨0, []⟩)
      (selection.tests (some relation)).constant =
      allHold (supply.on relation ⟨0, []⟩) (selection.tests (some relation)).constant :=
    allHold_recounted tally (supply.on relation ⟨0, []⟩) constant
  have order : readingOrder relation (supply.recounted tally)
      (selection.tests (some relation)).varying =
      readingOrder relation supply (selection.tests (some relation)).varying :=
    arranged_recounted relation supply tally _ varying relation.scan
  simp only [filtered, before, order,
    satisfying_recounted relation supply tally (settled.ordered (some relation))]

/-- The order of rows in a settled selection does not depend on what the store has counted. -/
theorem sorted_recounted (rows : List Row) :
    selection.sorted relation (supply.recounted tally) rows =
      selection.sorted relation supply rows := by
  -- Rows are sorted by values, which are the same.
  have terms : Formula.areSettled
      (selection.order.map fun term => selection.sortFormula term.formula) := by
    rw [Formula.areSettled_iff, List.forall_mem_map]
    exact fun term => settled.sortFormula
  simp only [sorted, withValues_recounted relation supply tally terms]

/-- What a settled selection gives does not depend on what the store has counted. -/
theorem run_recounted {aside : List Formula} (constants : Formula.areSettled aside) :
    selection.run relation (supply.recounted tally) aside =
      selection.run relation supply aside := by
  -- The parts are run in this order: constants, limits, rows, their order, their values.
  have first : ((supply.recounted tally).on relation ⟨0, []⟩).all aside =
      (supply.on relation ⟨0, []⟩).all aside :=
    (supply.on relation ⟨0, []⟩).all_recounted tally constants
  simp only [run, first, limitValue_recounted supply tally settled.limit,
    limitValue_recounted supply tally settled.offset,
    filtered_recounted settled relation supply tally,
    sorted_recounted settled relation supply tally,
    withValues_recounted relation supply tally settled.areSettled_columns]

end Run

end Selection

/-- A settled selection from the same table can be seen to be the same on two stores. -/
theorem Selection.prepare_seen {selection : Selection} (settled : selection.IsSettled)
    {one other : Store} (same : one.readable? selection.table = other.readable? selection.table)
    (rest : List Char) (parameters : List Cell) :
    (selection.prepare one rest parameters).map Prepared.seen =
      (selection.prepare other rest parameters).map Prepared.seen := by
  unfold Selection.prepare
  rw [same]
  -- From the same table both find the same faults, and the same things to put aside.
  cases other.readable? selection.table with
  | none => rfl
  | some relation =>
    dsimp only
    cases selection.nameFault? relation with
    | some fault => rfl
    | none =>
      simp only [bind, Except.bind]
      cases coded : (selection.answered (some relation)).coded relation with
      | error fault => rfl
      | ok coding =>
        -- Only the counts tell the two stores apart, and they do not matter here.
        have answer (cells : List Cell) :
            (selection.answered (some relation)).run relation ⟨cells, one.tally⟩ coding.aside =
              (selection.answered (some relation)).run relation ⟨cells, other.tally⟩
                coding.aside :=
          Selection.run_recounted (settled.answered (some relation)) relation
            ⟨cells, other.tally⟩ one.tally ((settled.answered (some relation)).coded coded)
        dsimp only
        split
        · rfl
        · simp only [Except.map, pure, Except.pure, Prepared.seen, answer, Except.ok.injEq,
            Prod.mk.injEq, true_and]
          funext cells
          -- Rows leave the stores as they are, and a fault leaves no store.
          cases (selection.answered (some relation)).run relation ⟨cells, other.tally⟩
            coding.aside <;> rfl

/-- A question that is not open can be seen to be the same, whatever the engines. -/
theorem prepareSelect_seen {question : Question} {one other : Store} (here there : Engine)
    (closed : ¬ question.isOpen)
    (near : ∀ selection, Selection.ofTokens question.tokens.1 = .ok selection →
      selection.IsSettled ∧ one.readable? selection.table = other.readable? selection.table)
    (parameters : List Cell) :
    (one.prepareSelect here question parameters).map Prepared.seen =
      (other.prepareSelect there question parameters).map Prepared.seen := by
  -- Reading comes first, and it does not look at the store.
  simp only [prepareSelect, bind, Except.bind]
  rw [Question.isOpen_iff] at closed
  rcases read : question.selection? with fault | _ | selection
  · rfl
  · exact absurd read closed
  · obtain ⟨settled, same⟩ := near selection (Question.selection?_eq_some.mp read).1
    exact Selection.prepare_seen settled same question.tokens.2 parameters

end PageServer.Store

namespace PageServer

/-- A query that reads its own table, with formulas that are settled by a row. -/
def Query.IsSettled (query : Query) : Prop :=
  ∀ tail ∈ (Storage.tail query).toOption, ¬ (query.question tail).isOpen ∧
    ∀ selection ∈ (Store.Selection.ofTokens (query.question tail).tokens.1).toOption,
      selection.table = Store.bareName query.table ∧ selection.IsSettled

instance (query : Query) : Decidable query.IsSettled :=
  inferInstanceAs (Decidable (∀ tail ∈ (Storage.tail query).toOption,
    ¬ (query.question tail).isOpen ∧
      ∀ selection ∈ (Store.Selection.ofTokens (query.question tail).tokens.1).toOption,
        selection.table = Store.bareName query.table ∧ selection.IsSettled))

/-- A settled query stays within the language. -/
theorem Query.IsSettled.isLaidDown {query : Query} (settled : query.IsSettled) :
    query.IsLaidDown := fun tail member => (settled tail member).1

/-- A query that reads its own table with settled formulas is answered from that table. -/
theorem Query.IsSettled.isLocal {query : Query} (settled : query.IsSettled)
    (engines : Nat → Store.Engine) : query.IsLocal engines := by
  intro tail followed parameters one other here there same
  obtain ⟨closed, own⟩ := settled tail (by rw [followed]; rfl)
  -- The table that the selection reads is the one that is the same in both stores.
  apply Store.prepareSelect_seen (engines here) (engines there) closed
  intro selection read
  obtain ⟨named, fine⟩ := own selection (by rw [read]; rfl)
  exact ⟨fine, named ▸ same⟩

end PageServer
