import PageServer.Proofs.Identity

/-!
Equality of values is a partial equivalence that does not see the order of fields.

Some values cannot be compared at all, and for others the answer depends on which difference is met
first. But wherever the answer is yes, every comparison that it rests on is answered with yes too.
-/

namespace PageServer

/-- Entries with the same names in turn are paired with each other. -/
theorem Fields.exists_paired {α : Type} {fields others : Fields α} (keys : fields.keys = others.keys)
    {entry : String × α} (member : entry ∈ fields) :
    ∃ other, (entry, other) ∈ fields.zip others ∧ other.1 = entry.1 := by
  -- Both lists are walked at once; neither can end before the other.
  induction fields generalizing others with
  | nil => cases member
  | cons first rest ih =>
    cases others with
    | nil => cases keys
    | cons second more =>
      obtain ⟨same, later⟩ := List.cons.inj keys
      rcases List.mem_cons.mp member with rfl | inside
      -- The entry is the first on either side.
      · exact ⟨second, by simp, same.symm⟩
      · obtain ⟨other, paired, named⟩ := ih later inside
        exact ⟨other, by simp [paired], named⟩

namespace Value

/-- Two values that are equal, as a relation: they can be compared, and the answer is yes. -/
abbrev Equal (a b : Value) : Prop := a.equal b = .ok true

/-- Values that are compared as a whole: atoms, responses and markup. -/
def isWhole : Value → Bool
  | text _ | int _ | bool _ | response _ => true
  | other => other.isMarkup

/-- Records that have the same names, and equal values under each of them. -/
def EqualFields (as bs : Fields Value) : Prop :=
  (∀ name, name ∈ as.keys ↔ name ∈ bs.keys) ∧
    ∀ entry ∈ as, ∃ found, bs.get? entry.1 = some found ∧ Equal entry.2 found

/-! What equality rests on -/

/-- Two questions that are asked in turn are answered with yes if each of them is. -/
theorem both_eq_true {first second : Except Fault Bool} :
    (do if ← first then second else return false) = .ok true ↔ first = .ok true ∧ second = .ok true := by
  -- After a no, or a fault, the second question is not asked.
  rcases first with fault | (_ | _)
  · simp [Bind.bind, Except.bind]
  · simp [Bind.bind, Except.bind, Pure.pure, Except.pure]
  · simp [Bind.bind, Except.bind]

/-- Lists of one length are found equal exactly if their items are equal in turn. -/
theorem equalAll_iff {as bs : List Value} (length : as.length = bs.length) :
    equalAll as bs = .ok true ↔ List.Forall₂ Equal as bs := by
  -- Lists of one length end at the same place, so no item is left without a partner.
  induction as generalizing bs with
  | nil =>
    cases bs with
    | nil => simp [equalAll]
    | cons b bs => cases length
  | cons a as ih =>
    cases bs with
    | nil => cases length
    | cons b bs => rw [equalAll, both_eq_true, List.forall₂_cons, ih (Nat.succ.inj length)]

/-- Fields are found equal exactly if each has its equal under its own name in the other record. -/
theorem equalFields_iff {as bs : Fields Value} :
    equalFields as bs = .ok true ↔
      ∀ entry ∈ as, ∃ found, bs.get? entry.1 = some found ∧ Equal entry.2 found := by
  -- The fields of the first record are gone through, the second is only looked into.
  induction as with
  | nil => simp [equalFields]
  | cons entry rest ih =>
    obtain ⟨name, a⟩ := entry
    rw [equalFields, List.forall_mem_cons, ← ih]
    cases bs.get? name with
    | none => simp
    | some b => simp only [both_eq_true, Option.some.injEq, exists_eq_left']

/-- Records have the same keys exactly if every name is a key of both or of neither. -/
theorem sameKeys_iff {as bs : Fields Value} :
    sameKeys as bs = true ↔ ∀ name, name ∈ as.keys ↔ name ∈ bs.keys := by
  -- The check is made of the two inclusions.
  simp [sameKeys, iff_iff_implies_and_implies, forall_and]

/-- A list is equal to the lists of equal items in turn. -/
theorem equal_list_iff {as : List Value} {b : Value} :
    Equal (.list as) b ↔ ∃ bs, b = .list bs ∧ List.Forall₂ Equal as bs := by
  -- Lists of different lengths are told apart before any item is looked at.
  cases b with
  | list bs =>
    simp only [Equal, equal, list.injEq, exists_eq_left']
    split
    · rename_i length
      exact equalAll_iff length
    · rename_i differs
      simp only [Except.ok.injEq, Bool.false_eq_true, false_iff]
      exact fun all => differs all.length_eq
  | _ => simp [Equal, equal, isMarkup]

/-- A record is equal to the records of the same names and equal values, in any order. -/
theorem equal_record_iff {as : Fields Value} {b : Value} :
    Equal (.record as) b ↔ ∃ bs, b = .record bs ∧ EqualFields as bs := by
  -- Records with different names are told apart before any value is looked at.
  cases b with
  | record bs =>
    simp only [Equal, equal, record.injEq, exists_eq_left', EqualFields, ← sameKeys_iff]
    split
    · rename_i named
      simp [named, equalFields_iff]
    · rename_i differ
      simp [differ]
  | _ => simp [Equal, equal, isMarkup]

/-- Markup is compared as a whole. -/
theorem isWhole_of_isMarkup {value : Value} (markup : value.isMarkup = true) :
    value.isWhole = true := by
  -- The four kinds of markup are named; all other values are none.
  cases value with
  | raw | tag | tagWith | bareMarkup => rfl
  | _ => cases markup

/-- Things that are compared as a whole are equal if they are the same. -/
theorem equal_of_identical {a b : Value} (whole : a.isWhole = true) (same : Identical a b) :
    Equal a b := by
  -- Two tags with attributes are the only such things that have parts.
  cases identical_iff.mp same with
  | itself =>
    cases a with
    | text | int | bool | response => simp [Equal, equal]
    | raw | tag | tagWith | bareMarkup => simp [Equal, equal, isMarkup, same]
    | _ => cases whole
  | attributes => simp [Equal, equal, isMarkup, same]
  | identity | query | items | fields => cases whole

/-- What is no list and no record is equal only to what it is the same thing as. -/
theorem identical_of_equal {a b : Value} (noList : ∀ items, a ≠ .list items)
    (noRecord : ∀ fields, a ≠ .record fields) (same : Equal a b) :
    a.isWhole = true ∧ b.isWhole = true ∧ Identical a b := by
  -- The comparison is taken apart along its kinds; the last of them is markup with markup.
  unfold Equal equal at same
  split at same
  case h_4 items _ => exact absurd rfl (noList items)
  case h_5 fields _ => exact absurd rfl (noRecord fields)
  case h_7 =>
    split at same
    · rename_i markup
      rw [Bool.and_eq_true] at markup
      exact ⟨isWhole_of_isMarkup markup.1, isWhole_of_isMarkup markup.2, Except.ok.inj same⟩
    · cases same
  -- Texts, numbers and truth values are compared by what they hold.
  all_goals
    obtain rfl := eq_of_beq (Except.ok.inj same)
    exact ⟨rfl, rfl, identical_refl _⟩

/-! The laws of equality -/

/-- What is reached from a value through lists and records, the value itself first of all. -/
inductive Reaches : Value → Value → Prop where
  | self (value : Value) : Reaches value value
  | item {items : List Value} {item part : Value} :
    item ∈ items → Reaches item part → Reaches (.list items) part
  | field {fields : Fields Value} {entry : String × Value} {part : Value} :
    entry ∈ fields → Reaches entry.2 part → Reaches (.record fields) part

/-- Every record that is reached has distinct names. -/
def HasDistinctNames (value : Value) : Prop :=
  ∀ fields : Fields Value, Reaches value (.record fields) → fields.keys.Nodup

/-- Whatever is reached is a list, a record, or compared as a whole. -/
def IsComparable (value : Value) : Prop :=
  ∀ part, Reaches value part → (∃ items, part = .list items) ∨ (∃ fields, part = .record fields) ∨
    part.isWhole = true

/-- A value, and one with the fields of its records in other orders, as far as they are reached. -/
inductive Reordered : Value → Value → Prop where
  | same (value : Value) : Reordered value value
  | list {items others : List Value} : items.length = others.length →
    (∀ pair ∈ items.zip others, Reordered pair.1 pair.2) → Reordered (.list items) (.list others)
  | record {fields changed moved : Fields Value} : fields.keys = changed.keys →
    (∀ pair ∈ fields.zip changed, Reordered pair.1.2 pair.2.2) → changed.Perm moved →
    Reordered (.record fields) (.record moved)

/-- A list has distinct names exactly if its items have. -/
theorem hasDistinctNames_list {items : List Value} :
    HasDistinctNames (.list items) ↔ ∀ item ∈ items, item.HasDistinctNames := by
  -- All records within a list are within one of its items.
  constructor
  · exact fun distinct item member fields reached => distinct fields (.item member reached)
  · intro each fields reached
    cases reached with
    | item member reached => exact each _ member fields reached

/-- A record has distinct names exactly if its own are distinct and its values have such. -/
theorem hasDistinctNames_record {fields : Fields Value} :
    HasDistinctNames (.record fields) ↔
      fields.keys.Nodup ∧ ∀ entry ∈ fields, entry.2.HasDistinctNames := by
  -- A record is within itself, and all else within it is within one of its fields.
  constructor
  · intro distinct
    refine ⟨distinct fields (.self _), ?_⟩
    exact fun entry member inner reached => distinct inner (.field member reached)
  · rintro ⟨nodup, each⟩ inner reached
    cases reached with
    | self => exact nodup
    | field member reached => exact each _ member inner reached

/-- What is compared as a whole has no names within it. -/
theorem hasDistinctNames_whole (value : Value) (whole : value.isWhole = true) :
    value.HasDistinctNames := by
  intro fields reached
  cases reached <;> cases whole

/-- A list can be compared exactly if its items can. -/
theorem isComparable_list {items : List Value} :
    IsComparable (.list items) ↔ ∀ item ∈ items, item.IsComparable := by
  -- What is reached within the list is the list itself, or is reached within an item.
  constructor
  · exact fun comparable item member part reached => comparable part (.item member reached)
  · intro each part reached
    cases reached with
    | self => exact .inl ⟨items, rfl⟩
    | item member reached => exact each _ member part reached

/-- A record can be compared exactly if its values can. -/
theorem isComparable_record {fields : Fields Value} :
    IsComparable (.record fields) ↔ ∀ entry ∈ fields, entry.2.IsComparable := by
  -- What is reached within the record is the record itself, or is reached within a field.
  constructor
  · exact fun comparable entry member part reached => comparable part (.field member reached)
  · intro each part reached
    cases reached with
    | self => exact .inr (.inl ⟨fields, rfl⟩)
    | field member reached => exact each _ member part reached

/-- What is compared as a whole can be compared. -/
theorem isComparable_whole (value : Value) (whole : value.isWhole = true) : value.IsComparable := by
  intro part reached
  cases reached with
  | self => exact .inr (.inr whole)
  | item _ _ | field _ _ => cases whole

/-- What can be compared is equal to itself. -/
theorem equal_refl {value : Value} (distinct : value.HasDistinctNames)
    (comparable : value.IsComparable) : Equal value value := by
  -- The induction is on what is right inside a value, and both conditions go down to it.
  induction value using byParts with
  | step value ih =>
    rcases comparable value (.self value) with ⟨items, rfl⟩ | ⟨fields, rfl⟩ | whole
    · rw [hasDistinctNames_list] at distinct
      rw [isComparable_list] at comparable
      refine equal_list_iff.mpr ⟨items, rfl, List.forall₂_same.mpr fun item member => ?_⟩
      exact ih item member (distinct item member) (comparable item member)
    · rw [hasDistinctNames_record] at distinct
      rw [isComparable_record] at comparable
      refine equal_record_iff.mpr ⟨fields, rfl, fun _ => Iff.rfl, fun entry member => ?_⟩
      -- As names are distinct, the look-up finds the field that was looked for.
      have found := Fields.get?_of_mem distinct.1 member
      have part : entry.2 ∈ parts (.record fields) := List.mem_map_of_mem member
      exact ⟨entry.2, found, ih entry.2 part (distinct.2 entry member) (comparable entry member)⟩
    · exact equal_of_identical whole (identical_refl value)

/-- Equality goes both ways. -/
theorem equal_symm {value other : Value} (distinct : other.HasDistinctNames)
    (equal : Equal value other) : Equal other value := by
  -- The other value is of the same kind, and its parts are met with those of the first.
  induction value using byParts generalizing other with
  | step value ih =>
    cases value with
    | list items =>
      obtain ⟨others, rfl, both⟩ := equal_list_iff.mp equal
      rw [hasDistinctNames_list] at distinct
      refine equal_list_iff.mpr ⟨items, rfl, forall₂_flip (fun item member found known => ?_) both⟩
      exact ih item member (distinct found known)
    | record fields =>
      obtain ⟨others, rfl, names, held⟩ := equal_record_iff.mp equal
      rw [hasDistinctNames_record] at distinct
      refine equal_record_iff.mpr ⟨fields, rfl, fun name => (names name).symm, ?_⟩
      intro entry member
      -- The name is in both records, so the first of them was looked up there.
      have named : entry.1 ∈ Fields.keys fields := (names entry.1).mpr (List.mem_map_of_mem member)
      obtain ⟨found, located, inside⟩ := Fields.get?_of_mem_keys named
      obtain ⟨back, again, here⟩ := held _ inside
      -- As the names of the second are distinct, the look-up found this very field.
      rw [Fields.get?_of_mem distinct.1 member] at again
      cases again
      have part : found ∈ parts (.record fields) := List.mem_map_of_mem inside
      exact ⟨found, located, ih found part (distinct.2 entry member) here⟩
    | _ =>
      obtain ⟨_, also, same⟩ := identical_of_equal (by simp) (by simp) equal
      exact equal_of_identical also (identical_symm _ _ same)

/-- Values that are equal to one value are equal. -/
theorem equal_trans (value : Value) : TransitiveAt Equal value := by
  -- What was found under a name in the second value is looked up again in the third.
  induction value using byParts with
  | step value ih =>
    intro other third first second
    cases value with
    | list items =>
      -- Lists pass equality on item by item.
      obtain ⟨others, rfl, both⟩ := equal_list_iff.mp first
      obtain ⟨thirds, rfl, more⟩ := equal_list_iff.mp second
      exact equal_list_iff.mpr ⟨thirds, rfl, transitiveAt_forall₂ ih others thirds both more⟩
    | record fields =>
      -- A name of the first record is one of the second and of the third.
      obtain ⟨others, rfl, names, held⟩ := equal_record_iff.mp first
      obtain ⟨thirds, rfl, further, more⟩ := equal_record_iff.mp second
      refine equal_record_iff.mpr
        ⟨thirds, rfl, fun name => (names name).trans (further name), fun entry member => ?_⟩
      obtain ⟨found, located, here⟩ := held entry member
      obtain ⟨last, reached, there⟩ := more _ (Fields.mem_of_get? located)
      have part : entry.2 ∈ parts (.record fields) := List.mem_map_of_mem member
      exact ⟨last, reached, ih entry.2 part found last here there⟩
    | _ =>
      obtain ⟨whole, also, same⟩ := identical_of_equal (by simp) (by simp) first
      -- The second value is compared as a whole too, so it is no list and no record.
      have noList : ∀ items, other ≠ .list items := by
        rintro items rfl
        cases also
      have noRecord : ∀ fields, other ≠ .record fields := by
        rintro fields rfl
        cases also
      obtain ⟨_, _, further⟩ := identical_of_equal noList noRecord second
      exact equal_of_identical whole (identical_trans _ _ _ same further)

/-- Fields in other orders make no difference. -/
theorem equal_reordered {value moved : Value} (reordered : Reordered value moved)
    (distinct : value.HasDistinctNames) (comparable : value.IsComparable) : Equal value moved := by
  -- The induction follows the reordering, which goes down to a record and moves its fields.
  induction reordered with
  | same value => exact equal_refl distinct comparable
  | @list items others length _ ih =>
    rw [hasDistinctNames_list] at distinct
    rw [isComparable_list] at comparable
    refine equal_list_iff.mpr ⟨others, rfl, List.forall₂_iff_zip.mpr ⟨length, fun member => ?_⟩⟩
    have inside := (List.of_mem_zip member).1
    exact ih _ member (distinct _ inside) (comparable _ inside)
  | @record fields changed moved keys _ perm ih =>
    rw [hasDistinctNames_record] at distinct
    rw [isComparable_record] at comparable
    -- Reordering keeps the names, so they are distinct still.
    have names : fields.keys.Perm moved.keys := keys ▸ perm.map Prod.fst
    refine equal_record_iff.mpr ⟨moved, rfl, fun name => names.mem_iff, fun entry member => ?_⟩
    -- The field was first changed in its place, and then moved to where it is found.
    obtain ⟨found, paired, same⟩ := Fields.exists_paired keys member
    have inside := perm.mem_iff.mp (List.of_mem_zip paired).2
    have located := Fields.get?_of_mem (names.nodup_iff.mp distinct.1) inside
    exact ⟨found.2, same ▸ located, ih _ paired (distinct.2 entry member) (comparable entry member)⟩

/--
Equality is a partial equivalence that does not see the order of fields.

Values whose records have distinct names are equal to themselves, if they can be compared, and to what
they become when fields are reordered. Equality goes both ways, and two answers never contradict each
other. What is equal to one value is equal.
-/
theorem equal_partialEquivalence {a b : Value} (c : Value) (distinct : a.HasDistinctNames)
    (also : b.HasDistinctNames) :
    (a.IsComparable → a.equal a = .ok true) ∧
    (a.equal b = .ok true → b.equal a = .ok true) ∧
    (∀ answer other, a.equal b = .ok answer → b.equal a = .ok other → answer = other) ∧
    (a.equal b = .ok true → b.equal c = .ok true → a.equal c = .ok true) ∧
    (a.IsComparable → ∀ moved, Reordered a moved → a.equal moved = .ok true) := by
  refine ⟨equal_refl distinct, equal_symm also, ?_, equal_trans a b c, ?_⟩
  · intro answer other forth back
    -- If one of the answers is yes, so is the other.
    cases answer with
    | true => exact (Except.ok.inj ((equal_symm also forth).symm.trans back))
    | false =>
      cases other with
      | false => rfl
      | true => exact (Except.ok.inj ((equal_symm distinct back).symm.trans forth)).symm
  · exact fun comparable moved reordered => equal_reordered reordered distinct comparable

/-- A record within a record. -/
def guest : Value :=
  .record [("name", .text "ann"), ("home", .record [("street", .text "elm"), ("number", .int 4)])]

/-- The same with the fields of both records the other way round. -/
def guestTurned : Value :=
  .record [("home", .record [("number", .int 4), ("street", .text "elm")]), ("name", .text "ann")]

/-- Fields may be reordered at every depth at once. -/
theorem equal_partialEquivalence_guest :
    guest.HasDistinctNames ∧ guestTurned.HasDistinctNames ∧ guest.IsComparable ∧
      Reordered guest guestTurned ∧ guest.equal guestTurned = .ok true ∧
      guestTurned.equal guest = .ok true ∧ guest.equal guest = .ok true := by
  -- No name is written twice in a record, nor is there a function in one.
  have distinct : guest.HasDistinctNames := by
    simp [guest, hasDistinctNames_record, Fields.keys, hasDistinctNames_whole (.text _) rfl,
      hasDistinctNames_whole (.int _) rfl]
  have also : guestTurned.HasDistinctNames := by
    simp [guestTurned, hasDistinctNames_record, Fields.keys, hasDistinctNames_whole (.text _) rfl,
      hasDistinctNames_whole (.int _) rfl]
  have comparable : guest.IsComparable := by
    simp [guest, isComparable_record, isComparable_whole (.text _) rfl,
      isComparable_whole (.int _) rfl]
  -- The inner record is reordered in its place, and then the outer one.
  have inner : Reordered (.record [("street", .text "elm"), ("number", .int 4)])
      (.record [("number", .int 4), ("street", .text "elm")]) :=
    .record rfl (by simp [Reordered.same]) (.swap _ _ _)
  let changed : Fields Value :=
    [("name", .text "ann"), ("home", .record [("number", .int 4), ("street", .text "elm")])]
  have reordered : Reordered guest guestTurned :=
    @Reordered.record _ changed _ rfl (by simp [changed, Reordered.same, inner]) (.swap _ _ _)
  -- Of the five parts, all but the agreement of the answers are used here.
  obtain ⟨self, both, _, _, moved⟩ := equal_partialEquivalence guest distinct also
  have equal := moved comparable guestTurned reordered
  exact ⟨distinct, also, comparable, reordered, equal, both equal, self comparable⟩

end Value

end PageServer
