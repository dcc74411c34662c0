import PageServer.Proofs.Basic

/-!
Merging is canonical.

Of pairs that are merged, the names count at their first places and the values at their last. What was
merged before can be merged again, alone or behind other pairs, and nothing changes.
-/

namespace PageServer.Fields

universe u

variable {α : Type u}

/-- The last value that is paired with a name. -/
def last? (pairs : Fields α) (name : String) : Option α :=
  ((pairs.filter fun entry => entry.1 == name).getLast?).map Prod.snd

/-- Under a name that is paired more than once, the last value is found. -/
theorem get?_ofPairs_eq_last? (pairs : Fields α) (name : String) :
    (ofPairs pairs).get? name = pairs.last? name :=
  get?_ofPairs pairs name

/-- There is no last value exactly where there is no such name. -/
theorem last?_eq_none_iff {pairs : Fields α} {name : String} :
    pairs.last? name = none ↔ name ∉ pairs.keys := by
  -- A value is found exactly under the names that there are.
  rw [← get?_ofPairs_eq_last?, get?_eq_none_iff, mem_keys_ofPairs]

/-- The last value of a name is that of the later pairs, if they have one. -/
theorem last?_append (pairs more : Fields α) (name : String) :
    (pairs ++ more).last? name = (more.last? name).or (pairs.last? name) := by
  -- The pairs of a name are those among the first and then those among the later.
  simp only [last?, List.filter_append, List.getLast?_append]
  cases (more.filter fun entry => entry.1 == name).getLast? <;> rfl

/-- Of things that are named, the last of a name has its value. -/
theorem last?_map {β : Type} (items : List β) (nameOf : β → String) (valueOf : β → α)
    (name : String) :
    last? (items.map fun item => (nameOf item, valueOf item)) name =
      ((items.filter fun item => nameOf item == name).getLast?).map valueOf := by
  -- Only the things of the name count, on either side.
  simp only [last?, List.filter_map, List.getLast?_map, Option.map_map, Function.comp_def]

/-- Where each name has one value of its own, that is found under it. -/
theorem get?_ofPairs_named (names : List String) (valueOf : String → α) (name : String) :
    (ofPairs (names.map fun other => (other, valueOf other))).get? name =
      if name ∈ names then some (valueOf name) else none := by
  by_cases known : name ∈ names
  · rw [if_pos known]
    have member : (name, valueOf name) ∈ names.map fun other => (other, valueOf other) :=
      List.mem_map_of_mem known
    apply get?_ofPairs_of_mem member
    -- Whatever has this name has this value.
    intro entry listed same
    obtain ⟨other, _, rfl⟩ := List.mem_map.mp listed
    exact congrArg valueOf same
  · rw [if_neg known, get?_eq_none_iff, mem_keys_ofPairs]
    simpa [keys] using known

/-- Further pairs are put on top of what the pairs before them have left. -/
theorem ofPairs_append (pairs more : Fields α) : ofPairs (pairs ++ more) = (ofPairs pairs).merge more := by
  simp [ofPairs, merge]

/-- Merging twice is merging once. -/
theorem ofPairs_ofPairs (pairs : Fields α) : ofPairs (ofPairs pairs) = ofPairs pairs :=
  ofPairs_of_nodup (nodup_keys_ofPairs pairs)

/-- Where names are distinct, the last value of a name is the only one. -/
theorem last?_of_nodup {fields : Fields α} (distinct : fields.keys.Nodup) (name : String) :
    fields.last? name = fields.get? name := by
  -- There is nothing that merging could leave out.
  rw [← get?_ofPairs_eq_last?, ofPairs_of_nodup distinct]

/-- Entries with the same distinct names in turn, and the same value under each, are the same. -/
theorem eq_of_get? {fields others : Fields α} (keys : fields.keys = others.keys)
    (distinct : fields.keys.Nodup) (held : ∀ name, fields.get? name = others.get? name) :
    fields = others := by
  -- The first entries agree, and as their name is not met again, so do the look-ups in the rest.
  induction fields generalizing others with
  | nil => exact (List.map_eq_nil_iff.mp keys.symm).symm
  | cons entry rest ih =>
    cases others with
    | nil => cases keys
    | cons other more =>
      obtain ⟨name, value⟩ := entry
      obtain ⟨same, found⟩ := other
      obtain ⟨rfl, later⟩ : name = same ∧ Fields.keys rest = Fields.keys more := List.cons.inj keys
      obtain ⟨fresh, others⟩ := List.nodup_cons.mp distinct
      -- The first name is the same on both sides, and stands for the first values.
      have here : value = found := by simpa [get?] using held name
      have rests : rest = more := by
        apply ih later others
        intro wanted
        by_cases first : name = wanted
        · subst first
          rw [get?_eq_none_iff.mpr fresh, get?_eq_none_iff.mpr (later ▸ fresh)]
        · simpa [get?, first] using held wanted
      rw [here, rests]

/-- Names that are repeated behind others may be dropped before or after those are put in front. -/
theorem eraseDups_append_eraseDups (names more : List String) :
    (names ++ more.eraseDups).eraseDups = (names ++ more).eraseDups := by
  -- A name at the end is kept if it was not met before, and dropping repeated names loses none.
  induction more using List.reverseRecOn with
  | nil => rfl
  | append_singleton more name ih =>
    rw [← List.append_assoc, eraseDups_concat (names ++ more), eraseDups_concat more, ← ih]
    by_cases known : name ∈ more
    · simp [known]
    · rw [if_neg known, ← List.append_assoc, eraseDups_concat]
      simp [known]

/-- What stands behind other pairs may be merged before it is merged with them. -/
theorem ofPairs_append_ofPairs (pairs more : Fields α) :
    ofPairs (pairs ++ ofPairs more) = ofPairs (pairs ++ more) := by
  -- Both have the same names in turn, and the same last value under each.
  apply eq_of_get?
  · have split : ∀ further : Fields α, keys (pairs ++ further) = keys pairs ++ keys further := by
      simp [keys]
    rw [keys_ofPairs, keys_ofPairs, split, split, keys_ofPairs, eraseDups_append_eraseDups]
  · exact nodup_keys_ofPairs _
  · intro name
    have last : (ofPairs more).last? name = more.last? name := by
      rw [← get?_ofPairs_eq_last?, ofPairs_ofPairs, get?_ofPairs_eq_last?]
    rw [get?_ofPairs_eq_last?, get?_ofPairs_eq_last?, last?_append, last?_append, last]

end PageServer.Fields
