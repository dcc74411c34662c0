import PageServer.Proofs.Engine

/-!
Statements on two stores that differ only in tables they do not use.

Such a statement is prepared alike, gives the same answer, and leaves the stores as they were to each
other. Only a number that does not fit can tell two connections apart: where one is bound, what is
said of it is the fault that is pending there, if there is one.
-/

namespace PageServer

namespace Store

/-- A name that is none of the names, as the store tells them apart. -/
def Apart (name : String) (names : List String) : Prop := ∀ other ∈ names, ¬ sameName name other

instance (name : String) (names : List String) : Decidable (Apart name names) :=
  inferInstanceAs (Decidable (∀ other ∈ names, ¬ sameName name other))

/-- A table that goes by a name goes by none of the names that are not the same. -/
theorem Apart.not_isAmong {name : String} {names : List String} (apart : Apart name names)
    {relation : Relation} (named : sameName relation.name name) : ¬ relation.IsAmong names := by
  -- Names are the same if they are when folded, so sameness is passed on.
  rintro ⟨other, member, hit⟩
  apply apart other member
  simp only [sameName, beq_iff_eq] at named hit ⊢
  exact named.symm.trans hit

/-- Items that are related in turn give the same list if the function does not tell them apart. -/
theorem mapIdx_eq_of_forall₂ {α β : Type} {related : α → α → Prop} {before after : List α}
    (alike : List.Forall₂ related before after) {f : Nat → α → β}
    (same : ∀ index a b, related a b → f index b = f index a) :
    after.mapIdx f = before.mapIdx f := by
  -- The function moves on by one index with each item, and so must be general.
  induction alike generalizing f with
  | nil => rfl
  | cons here _ ih =>
    rw [List.mapIdx_cons, List.mapIdx_cons, same 0 _ _ here]
    exact congrArg _ (ih fun index => same (index + 1))

namespace GrowsAmong

variable {names : List String} {before after : Store} {name : String}

/-- The table of a name that is none of the names is the same in both stores. -/
theorem relation?_eq (grown : before.GrowsAmong names after) (apart : Apart name names) :
    after.relation? name = before.relation? name := by
  -- The search passes the tables in pairs, and a hit is on a table that has not grown.
  unfold GrowsAmong at grown
  unfold relation?
  generalize before.relations = old at grown
  generalize after.relations = new at grown
  induction grown with
  | nil => rfl
  | @cons first second _ _ here _ ih =>
    rw [List.find?_cons, List.find?_cons, here.grows.name]
    by_cases hit : sameName first.name name
    · simp only [hit, here.same (apart.not_isAmong hit)]
    · simp only [hit]
      exact ih

/-- The record of the tables does not tell how many rows they have. -/
theorem catalogue_eq (grown : before.GrowsAmong names after) :
    after.relations.mapIdx catalogueRow = before.relations.mapIdx catalogueRow := by
  -- A record names the table, its page and its declaration.
  apply mapIdx_eq_of_forall₂ grown
  intro index old new here
  simp only [catalogueRow, here.grows.name, here.grows.page, here.grows.declaration]

/-- The store's own tables are the same in both stores. -/
theorem ownRelation?_eq (grown : before.GrowsAmong names after) (name : String) :
    after.ownRelation? name = before.ownRelation? name := by
  -- Only the record of the tables is made from the store.
  unfold ownRelation?
  rw [grown.catalogue_eq]

/-- What can be read under a name that is none of the names is the same in both stores. -/
theorem readable?_eq (grown : before.GrowsAmong names after) (apart : Apart name names) :
    after.readable? name = before.readable? name := by
  unfold readable?
  -- What is read under a name is a table that was made, or else one of the store's own.
  rw [grown.relation?_eq apart, grown.ownRelation?_eq]

/-- The same row added to both stores, under a name that is none of the names, changes nothing. -/
theorem append_both (grown : before.GrowsAmong names after) (apart : Apart name names) (row : Row) :
    (before.append name row).GrowsAmong names (after.append name row) := by
  -- The stores are walked in step, and the row goes to the same place in both.
  unfold GrowsAmong Store.append
  rw [List.forall₂_map_left_iff, List.forall₂_map_right_iff]
  refine List.Forall₂.imp ?_ grown
  intro old new here
  rw [here.grows.name]
  by_cases hit : sameName old.name name
  · -- The table that takes the row is one that has not grown.
    obtain rfl := here.same (apart.not_isAmong hit)
    simp only [hit, if_true]
    exact ⟨.refl _, fun _ => rfl⟩
  · simp only [hit]
    exact here

end GrowsAmong

/-! Statements -/

/-- What can be seen of a prepared statement: the values it binds, and its answers. -/
def Prepared.seen {α : Type} (statement : Prepared α) :
    List (Except Fault Cell) × (List Cell → Option (Except Fault α)) :=
  (statement.bindings, fun cells => (statement.step cells).map fun ended => ended.map Prod.snd)

/-- Both steps end with one fault, or with one answer and stores that are alike. -/
inductive StepAlike {α : Type} (alike : Store → Store → Prop) :
    Option (Except Fault (Store × α)) → Option (Except Fault (Store × α)) → Prop where
  | fault (fault : Fault) : StepAlike alike (some (.error fault)) (some (.error fault))
  | answer {a b : Store} (answer : α) : alike a b →
    StepAlike alike (some (.ok (a, answer))) (some (.ok (b, answer)))

/-- Both statements are refused with one fault, or bind the same values and step alike. -/
inductive PreparedAlike {α : Type} (alike : Store → Store → Prop) :
    Except Fault (Prepared α) → Except Fault (Prepared α) → Prop where
  | refused (fault : Fault) : PreparedAlike alike (.error fault) (.error fault)
  | accepted {one other : Prepared α} : one.bindings = other.bindings →
    (∀ cells, StepAlike alike (one.step cells) (other.step cells)) →
    PreparedAlike alike (.ok one) (.ok other)

end Store

/--
A query that is answered from the table it names: where that is the same, so is the answer.

Whatever the query leaves to an engine is answered from that table too, and by each engine alike.
-/
def Query.IsLocal (engines : Nat → Store.Engine) (query : Query) : Prop :=
  ∀ tail, Storage.tail query = .ok tail →
    ∀ (parameters : List Store.Cell) (one other : Store) (here there : Nat),
    one.readable? (Store.bareName query.table) = other.readable? (Store.bareName query.table) →
    (one.prepareSelect (engines here) (query.question tail) parameters).map Store.Prepared.seen =
      (other.prepareSelect (engines there) (query.question tail) parameters).map
        Store.Prepared.seen

namespace Store

variable {names : List String} {before after : Store}

/-- Steps with the same answers that hand their stores on leave stores that are alike. -/
theorem stepAlike_of_answer {α : Type} {alike : Store → Store → Prop}
    (together : alike before after) {one other : Option (Except Fault (Store × α))}
    (same : one.map (Except.map Prod.snd) = other.map (Except.map Prod.snd))
    (ended : one ≠ none)
    (left : ∀ store answer, one = some (.ok (store, answer)) → store = before)
    (right : ∀ store answer, other = some (.ok (store, answer)) → store = after) :
    StepAlike alike one other := by
  -- Where one step gives an answer, so does the other, and the same one.
  rcases one with _ | fault | ⟨store, answer⟩
  · exact absurd rfl ended
  · rcases other with _ | second | second <;> cases same
    exact .fault fault
  · rcases other with _ | second | ⟨next, answered⟩ <;> cases same
    rw [left _ _ rfl, right _ _ rfl]
    exact .answer answer together

/-- A local query of a table that is none of the names is prepared alike. -/
theorem prepareSelect_alike {query : Query} {tail : Tail} {engines : Nat → Engine}
    (near : query.IsLocal engines) (answered : query.IsAnswered engines)
    (followed : Storage.tail query = .ok tail) (apart : Apart (bareName query.table) names)
    (parameters : List Cell) (grown : before.GrowsAmong names after) (here there : Nat) :
    PreparedAlike (GrowsAmong names)
      (before.prepareSelect (engines here) (query.question tail) parameters)
      (after.prepareSelect (engines there) (query.question tail) parameters) := by
  -- What is seen of both preparations is the same, which leaves two cases.
  have same := near tail followed parameters before after here there
    (grown.readable?_eq apart).symm
  cases first : before.prepareSelect (engines here) (query.question tail) parameters with
  | error fault =>
    cases second : after.prepareSelect (engines there) (query.question tail) parameters with
    | error other =>
      rw [first, second] at same
      cases same
      exact .refused fault
    | ok other =>
      -- One refuses and the other accepts, which what is seen of them tells apart.
      rw [first, second] at same
      cases same
  | ok one =>
    cases second : after.prepareSelect (engines there) (query.question tail) parameters with
    | error other =>
      rw [first, second] at same
      cases same
    | ok other =>
      rw [first, second] at same
      have seen : one.seen = other.seen := Except.ok.inj same
      refine .accepted (congrArg Prod.fst seen) fun cells => ?_
      -- An accepted query ends, whatever is bound to it, because it is answered.
      have ends : one.step cells ≠ none :=
        prepareSelect_answers (fun beyond => answered before tail followed beyond here)
          first cells
      exact stepAlike_of_answer grown (congrFun (congrArg Prod.snd seen) cells) ends
        (fun _ _ stepped => prepareSelect_step first stepped)
        (fun _ _ stepped => prepareSelect_step second stepped)

/-- An insertion into a table that is none of the names is prepared alike. -/
theorem prepareInsert_alike {table : String} (apart : Apart (bareName table) names)
    (columns : List String) (supplied : List (String × Cell))
    (grown : before.GrowsAmong names after) :
    PreparedAlike (GrowsAmong names) (before.prepareInsert table columns supplied)
      (after.prepareInsert table columns supplied) := by
  -- The names are read before the store is looked at.
  unfold prepareInsert
  cases read : readName table with
  | error fault => exact .refused fault
  | ok name =>
    obtain ⟨_, rfl⟩ := readName_eq_ok.mp read
    cases named : readNames columns with
    | error fault => exact .refused fault
    | ok places =>
      -- Both stores have the same table of this name, so both refuse or accept.
      simp only [bind, Except.bind, grown.relation?_eq apart, grown.ownRelation?_eq]
      cases found : before.relation? (bareName table) with
      | none =>
        cases own : before.ownRelation? (bareName table) with
        | none => exact .refused _
        | some relation => exact .refused _
      | some relation =>
        dsimp only
        cases required : requireColumns (bareName table) relation places with
        | error fault => exact .refused fault
        | ok _ =>
          refine .accepted rfl fun cells => ?_
          dsimp only
          -- The numbers come from the one table, so they agree, and each store takes the row.
          cases relation.number (places.zip cells) with
          | error fault => exact .fault fault
          | ok number => exact .answer () (grown.append_both apart _)

/-! Connections -/

/--
Refusals on two connections, where at most these faults are pending.

They are the same, unless a number that does not fit was bound on both: then each tells at most what
is pending on its own connection.
-/
def Refusal.Agree (one other : Option Fault) (first second : Refusal) : Prop :=
  first = second ∨ ∃ here there, first = .tooWide here ∧ second = .tooWide there ∧
    (∀ fault ∈ here, fault ∈ one) ∧ ∀ fault ∈ there, fault ∈ other

namespace Connection

/-- Whether binding ends at a value: it is not there, or it does not fit. -/
def stops : Except Fault Cell → Bool
  | .ok cell => cell.overflows
  | .error _ => true

/-- A number is refused for its width exactly if it is the first value that cannot be bound. -/
theorem bind_tooWide {failed : Option Fault} {bindings : List (Except Fault Cell)} :
    (∃ pending, (bind failed bindings).1 = .error (.tooWide pending)) ↔
      ∃ cell, bindings.find? stops = some (.ok cell) := by
  -- The induction is on the values; one that is bound leaves the rest with nothing pending.
  induction bindings generalizing failed with
  | nil => simp [bind]
  | cons binding rest ih =>
    cases binding with
    | error fault => simp [bind, stops]
    -- A value that is bound is not the one searched for, and clears what was pending.
    | ok cell =>
      by_cases large : cell.overflows
      · simp [bind, stops, large]
      · simp only [List.find?_cons, stops, large, ← @ih none, bind]
        cases (bind none rest).1 <;> simp [Except.map]

/-- Both runs give one answer and leave nothing pending, or are refused. -/
inductive Agree {α : Type} (alike : Store → Store → Prop) (one other : Option Fault) :
    Option (Except Refusal α) × Connection → Option (Except Refusal α) × Connection → Prop where
  | answer {a b : Connection} (answer : α) : alike a.store b.store → a.failed = none →
    b.failed = none → Agree alike one other (some (.ok answer), a) (some (.ok answer), b)
  | refused {a b : Connection} {first second : Refusal} : alike a.store b.store →
    first.Agree one other second →
    Agree alike one other (some (.error first), a) (some (.error second), b)

/-- Binding depends on what is pending only in what is told of a number that does not fit. -/
theorem bind_cases (one other : Option Fault) (bindings : List (Except Fault Cell)) :
    (bind one bindings).1 = (bind other bindings).1 ∨
      (bind one bindings).1 = .error (.tooWide one) ∧
        (bind other bindings).1 = .error (.tooWide other) := by
  -- What is pending is forgotten with the first value that is bound.
  cases bindings with
  | nil => exact Or.inl rfl
  | cons binding rest =>
    cases binding with
    | error fault => exact Or.inl rfl
    | ok cell =>
      by_cases large : cell.overflows
      · right
        simp only [bind, large, if_true, and_self]
      -- From the second value on, both bind with nothing pending.
      · left
        simp only [bind, large]
        rfl

variable {α : Type} {alike : Store → Store → Prop}

/-- Statements that are alike run alike. -/
theorem execute_agree {a b : Connection} {one other : Prepared α} (together : alike a.store b.store)
    (bindings : one.bindings = other.bindings)
    (steps : ∀ cells, StepAlike alike (one.step cells) (other.step cells)) :
    Agree alike a.failed b.failed (a.execute one) (b.execute other) := by
  -- Binding comes first; the step depends on what was bound.
  unfold execute
  rw [← bindings]
  have bound := bind_cases a.failed b.failed one.bindings
  generalize bind a.failed one.bindings = left at bound
  generalize bind b.failed one.bindings = right at bound
  obtain ⟨left, pending⟩ := left
  obtain ⟨right, remaining⟩ := right
  dsimp only at bound
  rcases bound with rfl | ⟨rfl, rfl⟩
  · cases left with
    | error refusal => exact .refused together (Or.inl rfl)
    | ok cells =>
      -- The values are the same, and so the steps go the same way.
      dsimp only
      have stepped := steps cells
      generalize one.step cells = here at stepped
      generalize other.step cells = there at stepped
      cases stepped with
      | fault fault => exact .refused together (Or.inl rfl)
      | answer answer still => exact .answer answer still rfl rfl
  · exact .refused together (Or.inr ⟨_, _, rfl, rfl, fun _ told => told, fun _ told => told⟩)

/-- What is pending at most is all that can be told of a number. -/
theorem Agree.mono {one other wide wider : Option Fault}
    {left right : Option (Except Refusal α) × Connection}
    (agree : Agree alike one other left right) (first : ∀ fault ∈ one, fault ∈ wide)
    (second : ∀ fault ∈ other, fault ∈ wider) : Agree alike wide wider left right := by
  -- Only a refusal depends on what is pending.
  cases agree with
  | answer answer together none none' => exact .answer answer together none none'
  | refused together refusals =>
    refine .refused together (refusals.imp_right ?_)
    rintro ⟨here, there, rfl, rfl, told, alsoTold⟩
    exact ⟨here, there, rfl, rfl, fun fault member => first fault (told fault member),
      fun fault member => second fault (alsoTold fault member)⟩

/-- What is pending when a statement starts has been pending before. -/
theorem mem_of_mem_pending {connection : Connection} {text : String} {fault : Fault}
    (pending : fault ∈ if connection.prepared.contains text then connection.failed else none) :
    fault ∈ connection.failed := by
  -- A kept statement leaves the fault pending, a new one forgets it.
  split at pending
  · exact pending
  · cases pending

/-- A statement that is prepared alike on both sides runs alike. -/
theorem run_agree {a b : Connection} (text : String)
    {prepare again : Store → Except Fault (Prepared α)} (together : alike a.store b.store)
    (prepared : PreparedAlike alike (prepare a.store) (again b.store)) :
    Agree alike a.failed b.failed (a.run text prepare) (b.run text again) := by
  -- A null character is refused before anything is prepared.
  unfold run
  split
  · exact .refused together (Or.inl rfl)
  · generalize prepare a.store = left at prepared
    generalize again b.store = right at prepared
    cases prepared with
    | refused fault => exact .refused together (Or.inl rfl)
    | accepted bindings steps =>
      dsimp only
      -- A statement that is prepared anew forgets what is pending.
      exact Agree.mono (execute_agree together bindings steps) (fun _ => mem_of_mem_pending)
        (fun _ => mem_of_mem_pending)

end Connection

end Store

end PageServer
