import Mathlib.Data.List.Forall2
import Mathlib.Data.Rat.Cast.Order
import PageServer.Equality
import PageServer.Proofs.Basic

/-!
Comparing parts with parts is an equivalence.

Loose data, types, queries and values are compared part by part wherever markup is compared with markup.
Numbers among loose data are compared by their exact values, whatever their kind, and maps and sets in
any order; functions are compared by their identity.
-/

namespace PageServer

/-! Relations that hold part by part -/

section Parts

variable {α : Type} {related : α → α → Prop}

/-- Whatever a thing is related to is related to it. -/
def SymmetricAt (related : α → α → Prop) (one : α) : Prop :=
  ∀ other, related one other → related other one

/-- Whatever a thing is related to passes its own relations on. -/
def TransitiveAt (related : α → α → Prop) (one : α) : Prop :=
  ∀ other third, related one other → related other third → related one third

/-- Each thing of either list is related to one of the other list. -/
def Matched (related : α → α → Prop) (ones others : List α) : Prop :=
  (∀ one ∈ ones, ∃ other ∈ others, related one other) ∧
    ∀ other ∈ others, ∃ one ∈ ones, related one other

/-- Things under one name that are related. -/
def Named (related : α → α → Prop) (one other : String × α) : Prop :=
  one.1 = other.1 ∧ related one.2 other.2

/-- Lists that are related in step are so the other way round, if each pair is. -/
theorem forall₂_flip {ones others : List α}
    (each : ∀ one ∈ ones, ∀ other ∈ others, related one other → related other one)
    (all : List.Forall₂ related ones others) : List.Forall₂ related others ones := by
  -- Only pairs that stand in the lists are turned.
  induction all with
  | nil => exact .nil
  | cons here _ ih =>
    refine .cons (each _ (by simp) _ (by simp) here) (ih fun one member other found => ?_)
    exact each one (by simp [member]) other (by simp [found])

/-- What each item is related to is related to it, and so it is for lists in step. -/
theorem symmetricAt_forall₂ {ones : List α} (each : ∀ one ∈ ones, SymmetricAt related one) :
    SymmetricAt (List.Forall₂ related) ones :=
  -- The item of the first list is enough to turn a pair.
  fun _ all => forall₂_flip (fun one member other _ => each one member other) all

/-- Relations of items that can be passed on can be passed on for lists in step. -/
theorem transitiveAt_forall₂ {ones : List α} (each : ∀ one ∈ ones, TransitiveAt related one) :
    TransitiveAt (List.Forall₂ related) ones := by
  intro others thirds all more
  -- The three lists are walked at once, and the third has to be as long as the others.
  induction all generalizing thirds with
  | nil => exact more
  | cons here _ ih =>
    obtain ⟨first, rest⟩ := List.forall_mem_cons.mp each
    cases more with
    | cons there later => exact .cons (first _ _ here there) (ih rest _ later)

/-- Fields are related to themselves, name by name, if their values are. -/
theorem named_refl {fields : Fields α} (each : ∀ value ∈ fields.map Prod.snd, related value value) :
    List.Forall₂ (Named related) fields fields :=
  List.forall₂_same.mpr fun _ member => ⟨rfl, each _ (List.mem_map_of_mem member)⟩

/-- Fields that are related name by name are so the other way round, if their values are. -/
theorem symmetricAt_named {fields : Fields α}
    (each : ∀ value ∈ fields.map Prod.snd, SymmetricAt related value) :
    SymmetricAt (List.Forall₂ (Named related)) fields :=
  -- The name is compared for equality, which goes both ways.
  symmetricAt_forall₂ fun _ member _ both =>
    ⟨both.1.symm, each _ (List.mem_map_of_mem member) _ both.2⟩

/-- Relations of fields name by name can be passed on, if those of their values can. -/
theorem transitiveAt_named {fields : Fields α}
    (each : ∀ value ∈ fields.map Prod.snd, TransitiveAt related value) :
    TransitiveAt (List.Forall₂ (Named related)) fields :=
  -- Two names that are equal to a third are equal.
  transitiveAt_forall₂ fun _ member _ _ first second =>
    ⟨first.1.trans second.1, each _ (List.mem_map_of_mem member) _ _ first.2 second.2⟩

/-- Things match themselves if each is related to itself. -/
theorem matched_refl {ones : List α} (each : ∀ one ∈ ones, related one one) :
    Matched related ones ones :=
  -- Each thing is its own partner, in either half.
  ⟨fun one member => ⟨one, member, each one member⟩, fun one member => ⟨one, member, each one member⟩⟩

/-- Things that match others are matched by them, if each relation goes both ways. -/
theorem symmetricAt_matched {ones : List α} (each : ∀ one ∈ ones, SymmetricAt related one) :
    SymmetricAt (Matched related) ones := by
  rintro others ⟨forth, back⟩
  -- The two halves change places, and each relation in them is turned.
  constructor
  · intro other member
    obtain ⟨one, known, here⟩ := back other member
    exact ⟨one, known, each one known other here⟩
  · intro one member
    obtain ⟨other, known, here⟩ := forth one member
    exact ⟨other, known, each one member other here⟩

/-- Things that match others match what these match, if each relation can be passed on. -/
theorem transitiveAt_matched {ones : List α} (each : ∀ one ∈ ones, TransitiveAt related one) :
    TransitiveAt (Matched related) ones := by
  rintro others thirds ⟨forth, back⟩ ⟨further, backward⟩
  -- A partner in the third list is a partner of the partner in the second.
  constructor
  -- Forth, from the first list to the third.
  · intro one member
    obtain ⟨other, known, here⟩ := forth one member
    obtain ⟨third, also, there⟩ := further other known
    exact ⟨third, also, each one member other third here there⟩
  -- And back, from the third to the first.
  · intro third member
    obtain ⟨other, known, there⟩ := backward third member
    obtain ⟨one, also, here⟩ := back other known
    exact ⟨one, also, each one also other third here there⟩

end Parts

/-! Numbers -/

namespace Decimal.Binary

/-- The place of a double on the number line: its exact value, between the infinities. -/
def place : Binary → Int × ℚ
  | finite negative mantissa exponent =>
    let (top, bottom) := ratio mantissa exponent
    (0, ((if negative then -(top : Int) else top : Int) : ℚ) / bottom)
  | infinite negative => (if negative then -1 else 1, 0)
  | undefined => (2, 0)

/-- What an exact value is divided by is never zero. -/
theorem ratio_bottom_ne_zero (mantissa : Nat) (exponent : Int) :
    ((ratio mantissa exponent).2 : ℚ) ≠ 0 := by
  -- It is one, or a power of two.
  rw [Nat.cast_ne_zero]
  unfold ratio scaleRatio
  split
  · exact Nat.one_ne_zero
  · exact Nat.mul_ne_zero Nat.one_ne_zero (Nat.pow_pos (by decide)).ne'

/-- Two doubles tie exactly if they have one place. -/
theorem compare_eq_iff (x y : Binary) : x.compare y = .eq ↔ x.place = y.place := by
  -- Only two finite doubles have to be computed with; the others have places of their own.
  cases x with
  | undefined =>
    cases y with
    | undefined => simp [compare]
    | infinite negative => cases negative <;> simp [compare, place]
    | finite => simp [compare, place]
  | infinite negative =>
    cases y with
    | undefined => cases negative <;> simp [compare, place]
    | infinite other => cases negative <;> cases other <;> simp [compare, place]
    | finite => cases negative <;> simp [compare, place]
  | finite negative mantissa exponent =>
    cases y with
    | undefined => simp [compare, place]
    | infinite other => cases other <;> simp [compare, place]
    | finite negative' mantissa' exponent' =>
      -- Both fractions are compared over the product of what they are divided by.
      simp only [compare, place, compare_eq_iff_eq, Prod.mk.injEq, true_and]
      rw [div_eq_div_iff (ratio_bottom_ne_zero _ _) (ratio_bottom_ne_zero _ _)]
      norm_cast

/-- A whole number ties with a double exactly if the double has its place. -/
theorem compareInt_eq_iff (n : Int) (y : Binary) : compareInt n y = .eq ↔ y.place = (0, (n : ℚ)) := by
  cases y with
  | undefined => simp [compareInt, place]
  | infinite negative => cases negative <;> simp [compareInt, place]
  | finite negative mantissa exponent =>
    simp only [compareInt, place, compare_eq_iff_eq, Prod.mk.injEq, true_and]
    -- The whole number is multiplied by what the fraction is divided by.
    rw [div_eq_iff (ratio_bottom_ne_zero _ _)]
    norm_cast
    exact eq_comm

end Decimal.Binary

/-! Loose data -/

namespace Datum

/-- The place of a number or truth value on the number line. -/
def place? : Datum → Option (Int × ℚ)
  | bool value => some (0, ((if value then 1 else 0 : Int) : ℚ))
  | int value => some (0, value)
  | real value => some value.place
  | _ => none

/-- Two data tie as numbers exactly if they have one place. -/
theorem orderNumbers_eq_iff (a b : Datum) :
    a.orderNumbers b = some .eq ↔ a.place?.isSome ∧ a.place? = b.place? := by
  -- A number is a whole one or a double.
  have split : ∀ datum : Datum, (∃ n : Int, datum.whole? = some n ∧ datum.place? = some (0, (n : ℚ))) ∨
      (∃ x, datum.whole? = none ∧ datum.double? = some x ∧ datum.place? = some x.place) ∨
      (datum.whole? = none ∧ datum.double? = none ∧ datum.place? = none) := by
    intro datum
    cases datum <;> simp [whole?, double?, place?]
  -- So there are nine cases, and whoever is no number ties with nothing.
  unfold orderNumbers
  rcases split a with ⟨m, first, here⟩ | ⟨x, first, also, here⟩ | ⟨first, also, here⟩ <;>
    rcases split b with ⟨n, second, there⟩ | ⟨y, second, too, there⟩ | ⟨second, too, there⟩ <;>
    simp [*, Decimal.Binary.compareInt_eq_iff, Decimal.Binary.compare_eq_iff]
  exact eq_comm

/-- The data right inside a collection. -/
def parts : Datum → List Datum
  | list items | set items => items
  | map entries => entries.flatMap fun entry => [entry.1, entry.2]
  | _ => []

/-- What holds of a datum if it holds of its parts holds of every datum. -/
theorem byParts {holds : Datum → Prop}
    (step : ∀ datum, (∀ part ∈ datum.parts, holds part) → holds datum) (datum : Datum) :
    holds datum := by
  -- A part is smaller than the collection it is in, also where it is the key of an entry.
  apply step
  intro part member
  have smaller : sizeOf part < sizeOf datum := by
    cases datum with
    | list items | set items =>
      have := List.sizeOf_lt_of_mem (show part ∈ items from member)
      simp
      omega
    | map entries =>
      obtain ⟨⟨key, value⟩, entered, inside⟩ := List.mem_flatMap.mp member
      have := List.sizeOf_lt_of_mem entered
      simp only [Prod.mk.sizeOf_spec] at this
      simp only [List.mem_cons, List.not_mem_nil, or_false] at inside
      rcases inside with rfl | rfl <;> simp <;> omega
    | _ => cases member
  exact byParts step part
termination_by sizeOf datum

/-- Two data that are the same, as a relation. -/
abbrev Same (a b : Datum) : Prop := a.same b = true

/-- Two entries that are the same, key and value. -/
def SameEntry (a b : Datum × Datum) : Prop := Same a.1 b.1 ∧ Same a.2 b.2

/-- Lists of data are the same if their items are, in step. -/
theorem sameAll_iff {as bs : List Datum} : sameAll as bs = true ↔ List.Forall₂ Same as bs := by
  induction as generalizing bs with
  | nil => cases bs <;> simp [sameAll]
  | cons a as ih => cases bs <;> simp [sameAll, ih]

/-- Sets of data are the same if each item of either has its like in the other. -/
theorem matched_items {as bs : List Datum} :
    (itemsAmong as bs && bs.all (hasItem as)) = true ↔ Matched Same as bs := by
  -- Each of the two searches is one half of the matching.
  have among : itemsAmong as bs = true ↔ ∀ a ∈ as, ∃ b ∈ bs, Same a b := by
    induction as with
    | nil => simp [itemsAmong]
    | cons a as ih => simp [itemsAmong, ih]
  have held : ∀ b, hasItem as b = true ↔ ∃ a ∈ as, Same a b := by
    intro b
    clear among
    induction as with
    | nil => simp [hasItem]
    | cons a as ih => simp [hasItem, ih]
  simp only [Bool.and_eq_true, among, List.all_eq_true, held, Matched]

/-- Maps are the same if each entry of either has its like in the other. -/
theorem matched_entries {as bs : List (Datum × Datum)} :
    (entriesAmong as bs && bs.all (hasEntry as)) = true ↔ Matched SameEntry as bs := by
  -- As for items, but a key and its value are searched for together.
  have among : entriesAmong as bs = true ↔ ∀ a ∈ as, ∃ b ∈ bs, SameEntry a b := by
    induction as with
    | nil => simp [entriesAmong]
    | cons a as ih =>
      obtain ⟨key, value⟩ := a
      simp [entriesAmong, ih, SameEntry]
  have held : ∀ b, hasEntry as b = true ↔ ∃ a ∈ as, SameEntry a b := by
    intro b
    clear among
    induction as with
    | nil => simp [hasEntry]
    | cons a as ih =>
      obtain ⟨key, value⟩ := a
      simp [hasEntry, ih, SameEntry]
  simp only [Bool.and_eq_true, among, List.all_eq_true, held, Matched]

/-- Data that are the same only as themselves: no numbers, no moments and no collections. -/
def isPlain : Datum → Bool
  | null | text _ | bytes _ | date _ | again _ => true
  | _ => false

/-- What two data are the same by. -/
inductive SameBy : Datum → Datum → Prop where
  | itself {datum : Datum} : datum.isPlain = true → SameBy datum datum
  | place {a b : Datum} {place : Int × ℚ} :
    a.place? = some place → b.place? = some place → SameBy a b
  | instant {a b : Moment} :
    a.zone.isSome = b.zone.isSome → a.instant = b.instant → SameBy (.moment a) (.moment b)
  | items {as bs : List Datum} : List.Forall₂ Same as bs → SameBy (.list as) (.list bs)
  | entries {as bs : List (Datum × Datum)} : Matched SameEntry as bs → SameBy (.map as) (.map bs)
  | members {as bs : List Datum} : Matched Same as bs → SameBy (.set as) (.set bs)

/-- Data are the same exactly if there is something that they are the same by. -/
theorem same_iff {a b : Datum} : Same a b ↔ SameBy a b := by
  -- One way the comparison is taken apart along its kinds, the other way each of them is computed.
  constructor
  · intro same
    unfold Same Datum.same at same
    split at same
    · exact .itself rfl
    · exact eq_of_beq same ▸ .itself rfl
    · exact eq_of_beq same ▸ .itself rfl
    · exact eq_of_beq same ▸ .itself rfl
    · simp only [Moment.comparable, Bool.and_eq_true, beq_iff_eq] at same
      exact .instant same.1 same.2
    · exact .items (sameAll_iff.mp same)
    · exact .entries (matched_entries.mp same)
    · exact .members (matched_items.mp same)
    · exact eq_of_beq same ▸ .itself rfl
    · -- What is left are numbers, if they tie at all.
      obtain ⟨some, one⟩ := (orderNumbers_eq_iff _ _).mp (eq_of_beq same)
      obtain ⟨place, here⟩ := Option.isSome_iff_exists.mp some
      exact .place here (one ▸ here)
  · intro held
    cases held with
    | itself plain =>
      cases a with
      | null | text | bytes | date | again => simp [Same, same]
      | _ => cases plain
    | place here there =>
      -- A number is of none of the kinds that are compared first.
      have tie := (orderNumbers_eq_iff a b).mpr ⟨by simp [here], here.trans there.symm⟩
      cases a with
      | bool | int | real => simp [Same, same, tie]
      | _ => cases here
    | instant zone instant => simp [Same, same, Moment.comparable, zone, instant]
    | items both =>
      rw [Same, same]
      exact sameAll_iff.mpr both
    | entries both =>
      rw [Same, same]
      exact matched_entries.mpr both
    | members both =>
      rw [Same, same]
      exact matched_items.mpr both

/-- The key and the value of an entry are parts of the map. -/
theorem entry_parts {entries : List (Datum × Datum)} {entry : Datum × Datum}
    (member : entry ∈ entries) : entry.1 ∈ (map entries).parts ∧ entry.2 ∈ (map entries).parts := by
  constructor <;> exact List.mem_flatMap.mpr ⟨entry, member, by simp⟩

/-- Every datum is the same as itself. -/
theorem same_refl (datum : Datum) : Same datum datum := by
  -- The induction is on what is right inside a datum.
  induction datum using byParts with
  | step datum ih =>
    rw [same_iff]
    cases datum with
    | list items => exact .items (List.forall₂_same.mpr ih)
    | map entries =>
      refine .entries (matched_refl fun entry member => ?_)
      exact ⟨ih _ (entry_parts member).1, ih _ (entry_parts member).2⟩
    | set items => exact .members (matched_refl ih)
    | bool | int | real => exact .place rfl rfl
    | moment => exact .instant rfl rfl
    | null | text | bytes | date | again => exact .itself rfl

/-- Sameness of data goes both ways. -/
theorem same_symm (datum : Datum) : SymmetricAt Same datum := by
  -- What two data are the same by can be read from either side.
  induction datum using byParts with
  | step datum ih =>
    intro other same
    rw [same_iff] at same ⊢
    cases same with
    | itself plain => exact .itself plain
    | place here there => exact .place there here
    | instant zone instant => exact .instant zone.symm instant.symm
    | items both => exact .items (symmetricAt_forall₂ ih _ both)
    | @entries entries _ both =>
      have each : ∀ entry ∈ entries, SymmetricAt SameEntry entry := by
        rintro entry member found ⟨key, value⟩
        exact ⟨ih _ (entry_parts member).1 _ key, ih _ (entry_parts member).2 _ value⟩
      exact .entries (symmetricAt_matched each _ both)
    | members both => exact .members (symmetricAt_matched ih _ both)

/-- Data that are the same as one datum are the same. -/
theorem same_trans (datum : Datum) : TransitiveAt Same datum := by
  -- The datum in the middle can be the same as the others by one thing only.
  induction datum using byParts with
  | step datum ih =>
    intro other third first second
    rw [same_iff] at first second ⊢
    cases first with
    | itself => exact second
    | place here there =>
      cases second with
      | itself plain => exact .place here there
      | place there' beyond =>
        obtain rfl := Option.some.inj (there.symm.trans there')
        exact .place here beyond
      | instant | items | entries | members => cases there
    | instant zone instant =>
      cases second with
      | instant zone' instant' => exact .instant (zone.trans zone') (instant.trans instant')
      | itself plain => cases plain
      | place there => cases there
    | items both =>
      cases second with
      | items more => exact .items (transitiveAt_forall₂ ih _ _ both more)
      | itself plain => cases plain
      | place there => cases there
    | @entries entries _ both =>
      cases second with
      | entries more =>
        have each : ∀ entry ∈ entries, TransitiveAt SameEntry entry := by
          rintro entry member found next ⟨key, value⟩ ⟨nextKey, nextValue⟩
          exact ⟨ih _ (entry_parts member).1 _ _ key nextKey,
            ih _ (entry_parts member).2 _ _ value nextValue⟩
        exact .entries (transitiveAt_matched each _ _ both more)
      | itself plain => cases plain
      | place there => cases there
    | members both =>
      cases second with
      | members more => exact .members (transitiveAt_matched ih _ _ both more)
      | itself plain => cases plain
      | place there => cases there

end Datum

/-! Types and queries -/

namespace Ty

mutual

/-- Types that are written the same way are the same. -/
theorem eq_of_same : ∀ {a b : Ty}, same a b = true → a = b
  -- The two types are written by the same rule, and their parts are compared in turn.
  | .absent, b, found => by cases b <;> simp_all [same]
  | .primitive a, b, found => by cases b <;> simp_all [same]
  | .list a, b, found => by
    cases b <;> simp only [same, Bool.false_eq_true] at found
    rw [eq_of_same found]
  | .record as, b, found => by
    cases b <;> simp only [same, Bool.false_eq_true] at found
    rw [eq_of_sameFields found]
  | .function p r, b, found => by
    cases b <;> simp only [same, Bool.and_eq_true, Bool.false_eq_true] at found
    rw [eq_of_same found.1, eq_of_same found.2]
  | .query as, b, found => by
    cases b <;> simp only [same, Bool.false_eq_true] at found
    rw [eq_of_sameFields found]

/-- Field lists that agree are the same. -/
theorem eq_of_sameFields : ∀ {as bs : List (String × Ty)}, sameFields as bs = true → as = bs
  | [], bs, found => by cases bs <;> simp_all [sameFields]
  | (name, type) :: as, bs, found => by
    cases bs with
    | nil => simp [sameFields] at found
    | cons b bs =>
      obtain ⟨other, found'⟩ := b
      simp only [sameFields, Bool.and_eq_true, beq_iff_eq] at found
      rw [found.1.1, eq_of_same found.1.2, eq_of_sameFields found.2]

end

mutual

/-- Every type is the same as itself. -/
theorem same_refl : ∀ type : Ty, same type type = true
  | .absent => rfl
  | .primitive _ => by simp [same]
  | .list item => by simp [same, same_refl item]
  | .record fields | .query fields => by simp [same, sameFields_refl fields]
  | .function param result => by simp [same, same_refl param, same_refl result]

/-- Every list of fields agrees with itself. -/
theorem sameFields_refl : ∀ fields : List (String × Ty), sameFields fields fields = true
  | [] => rfl
  | (name, type) :: rest => by simp [sameFields, same_refl type, sameFields_refl rest]

end

/-- Field lists agree exactly if they are the same. -/
theorem sameFields_iff {as bs : Fields Ty} : sameFields as bs = true ↔ as = bs :=
  ⟨eq_of_sameFields, fun same => same ▸ sameFields_refl as⟩

end Ty

namespace Query

/-- Two queries that agree, as a relation. -/
abbrev Same (a b : Query) : Prop := a.same b = true

/-- Sort terms agree if their names and their data do, in step. -/
theorem sameOrder_iff {as bs : Fields Datum} :
    sameOrder as bs = true ↔ List.Forall₂ (Named Datum.Same) as bs := by
  induction as generalizing bs with
  | nil => cases bs <;> simp [sameOrder]
  | cons a as ih =>
    obtain ⟨name, datum⟩ := a
    cases bs <;> simp [sameOrder, ih, Named]

/-- Queries agree if their written parts are the same, and their loose data as data are. -/
theorem same_iff {a b : Query} :
    Same a b ↔ a.table = b.table ∧ a.columns = b.columns ∧ a.conditions = b.conditions ∧
      List.Forall₂ (Named Datum.Same) a.order b.order ∧ a.limit.Same b.limit := by
  -- Equality of tables and conditions, and of types, is equality itself.
  simp [Same, same, Ty.sameFields_iff, sameOrder_iff, and_assoc]

/-- Every query agrees with itself. -/
theorem same_refl (query : Query) : Same query query := by
  exact same_iff.mpr ⟨rfl, rfl, rfl, named_refl fun datum _ => datum.same_refl, query.limit.same_refl⟩

/-- Agreement of queries goes both ways. -/
theorem same_symm (query : Query) : SymmetricAt Same query := by
  -- Whatever is compared by equality can be turned, and data can be turned as data.
  intro other same
  obtain ⟨table, columns, conditions, order, limit⟩ := same_iff.mp same
  exact same_iff.mpr ⟨table.symm, columns.symm, conditions.symm,
    symmetricAt_named (fun datum _ => datum.same_symm) other.order order,
    query.limit.same_symm other.limit limit⟩

/-- Queries that agree with one query agree. -/
theorem same_trans (query : Query) : TransitiveAt Same query := by
  -- Each of the five parts passes its own comparison on.
  intro other third first second
  obtain ⟨table, columns, conditions, order, limit⟩ := same_iff.mp first
  obtain ⟨table', columns', conditions', order', limit'⟩ := same_iff.mp second
  exact same_iff.mpr ⟨table.trans table', columns.trans columns', conditions.trans conditions',
    transitiveAt_named (fun datum _ => datum.same_trans) other.order third.order order order',
    query.limit.same_trans other.limit third.limit limit limit'⟩

end Query

/-! Values -/

namespace Value

/-- What is right inside a value: the items of a list, the values of fields and of attributes. -/
def parts : Value → List Value
  | list items => items
  | record fields | tagWith _ fields => fields.map Prod.snd
  | _ => []

/-- What holds of a value if it holds of its parts holds of every value. -/
theorem byParts {holds : Value → Prop}
    (step : ∀ value, (∀ part ∈ value.parts, holds part) → holds value) (value : Value) :
    holds value := by
  -- A part is smaller than what it is in, and what a function has captured is no part of it.
  apply step
  intro part member
  have smaller : sizeOf part < sizeOf value := by
    cases value with
    | list items =>
      have := List.sizeOf_lt_of_mem (show part ∈ items from member)
      simp
      omega
    | record fields | tagWith _ fields =>
      obtain ⟨⟨name, held⟩, entered, rfl⟩ := List.mem_map.mp member
      have := List.sizeOf_lt_of_mem entered
      simp only [Prod.mk.sizeOf_spec] at this
      simp
      omega
    | _ => cases member
  exact byParts step part
termination_by sizeOf value

/-- Two values that are the same thing, as a relation. -/
abbrev Identical (a b : Value) : Prop := a.identical b = true

/-- Lists of values are identical if their items are, in step. -/
theorem identicalAll_iff {as bs : List Value} :
    identicalAll as bs = true ↔ List.Forall₂ Identical as bs := by
  induction as generalizing bs with
  | nil => cases bs <;> simp [identicalAll]
  | cons a as ih => cases bs <;> simp [identicalAll, ih]

/-- Fields of values are identical if their names and values are, in step. -/
theorem identicalFields_iff {as bs : Fields Value} :
    identicalFields as bs = true ↔ List.Forall₂ (Named Identical) as bs := by
  induction as generalizing bs with
  | nil => cases bs <;> simp [identicalFields]
  | cons a as ih =>
    obtain ⟨name, value⟩ := a
    cases bs <;> simp [identicalFields, ih, Named]

/-- Values that are the same thing only as themselves. -/
def isPlain : Value → Bool
  | closure _ _ _ _ | query _ | list _ | record _ | tagWith _ _ => false
  | _ => true

/-- What two values are the same thing by. -/
inductive IdenticalBy : Value → Value → Prop where
  | itself {value : Value} : value.isPlain = true → IdenticalBy value value
  | identity {identity : Nat} {scope scope' : Environment} {param param' : String} {body body' : Expr} :
    IdenticalBy (.closure identity scope param body) (.closure identity scope' param' body')
  | query {a b : Query} : a.Same b → IdenticalBy (.query a) (.query b)
  | items {as bs : List Value} : List.Forall₂ Identical as bs → IdenticalBy (.list as) (.list bs)
  | fields {as bs : Fields Value} :
    List.Forall₂ (Named Identical) as bs → IdenticalBy (.record as) (.record bs)
  | attributes {name : String} {as bs : Fields Value} :
    List.Forall₂ (Named Identical) as bs → IdenticalBy (.tagWith name as) (.tagWith name bs)

/-- Values are the same thing exactly if there is something that they are the same thing by. -/
theorem identical_iff {a b : Value} : Identical a b ↔ IdenticalBy a b := by
  -- The kinds that are more than themselves are named; the others are compared by what they hold.
  constructor
  · intro same
    unfold Identical identical at same
    split at same
    case h_4 => exact .items (identicalAll_iff.mp same)
    case h_5 => exact .fields (identicalFields_iff.mp same)
    case h_6 =>
      obtain rfl := eq_of_beq same
      exact .identity
    case h_9 => exact .query same
    case h_12 =>
      rw [Bool.and_eq_true, beq_iff_eq] at same
      obtain ⟨rfl, both⟩ := same
      exact .attributes (identicalFields_iff.mp both)
    case h_16 => cases same
    all_goals exact eq_of_beq same ▸ .itself rfl
  · intro held
    cases held with
    | itself plain =>
      cases a with
      | closure | query | list | record | tagWith => cases plain
      | _ => simp [Identical, identical]
    | identity => simp [Identical, identical]
    | query agree =>
      rw [Identical, identical]
      exact agree
    | items both =>
      rw [Identical, identical]
      exact identicalAll_iff.mpr both
    | fields both =>
      rw [Identical, identical]
      exact identicalFields_iff.mpr both
    | attributes both =>
      rw [Identical, identical, beq_self_eq_true, Bool.true_and]
      exact identicalFields_iff.mpr both

/-- Every value is the same thing as itself. -/
theorem identical_refl (value : Value) : Identical value value := by
  -- Each kind of value is identical to itself by what it is compared by.
  induction value using byParts with
  | step value ih =>
    rw [identical_iff]
    cases value with
    | list items => exact .items (List.forall₂_same.mpr ih)
    | record fields => exact .fields (named_refl ih)
    | tagWith name fields => exact .attributes (named_refl ih)
    | query query => exact .query query.same_refl
    | closure => exact .identity
    | _ => exact .itself rfl

/-- Being the same thing goes both ways. -/
theorem identical_symm (value : Value) : SymmetricAt Identical value := by
  -- What two values are identical by can be read from either side.
  induction value using byParts with
  | step value ih =>
    intro other same
    rw [identical_iff] at same ⊢
    cases same with
    | itself plain => exact .itself plain
    | identity => exact .identity
    | query agree => exact .query (Query.same_symm _ _ agree)
    | items both => exact .items (symmetricAt_forall₂ ih _ both)
    | fields both => exact .fields (symmetricAt_named ih _ both)
    | attributes both => exact .attributes (symmetricAt_named ih _ both)

/-- Values that are the same thing as one value are the same thing. -/
theorem identical_trans (value : Value) : TransitiveAt Identical value := by
  -- The value in the middle is of one kind, which both of the others have.
  induction value using byParts with
  | step value ih =>
    intro other third first second
    rw [identical_iff] at first second ⊢
    cases first with
    | itself => exact second
    | identity =>
      cases second with
      | identity => exact .identity
      | itself plain => cases plain
    | query agree =>
      cases second with
      | query further => exact .query (Query.same_trans _ _ _ agree further)
      | itself plain => cases plain
    | items both =>
      cases second with
      | items more => exact .items (transitiveAt_forall₂ ih _ _ both more)
      | itself plain => cases plain
    | fields both =>
      cases second with
      | fields more => exact .fields (transitiveAt_named ih _ _ both more)
      | itself plain => cases plain
    | attributes both =>
      cases second with
      | attributes more => exact .attributes (transitiveAt_named ih _ _ both more)
      | itself plain => cases plain

end Value

end PageServer
