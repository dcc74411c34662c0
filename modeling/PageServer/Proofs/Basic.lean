import Mathlib.Data.List.Induction
import PageServer.Fields

/-! Results that may be faults; the names of merged entries, and where entries come from. -/

namespace PageServer

universe u

/-- A sequence of two results has a value exactly when both have, the second from the first. -/
theorem bind_eq_ok {ε α β : Type} {first : Except ε α} {next : α → Except ε β} {value : β} :
    (first >>= next) = .ok value ↔ ∃ found, first = .ok found ∧ next found = .ok value := by
  -- A fault in the first result leaves nothing for the second one to do.
  cases first with
  | error fault => simp [Bind.bind, Except.bind]
  | ok found => simp [Bind.bind, Except.bind]

/-- A sequence of two results is a fault exactly when one of them is. -/
theorem bind_eq_error {ε α β : Type} {first : Except ε α} {next : α → Except ε β} {fault : ε} :
    (first >>= next) = .error fault ↔
      first = .error fault ∨ ∃ found, first = .ok found ∧ next found = .error fault := by
  -- The first result decides whether the second computation is run at all.
  cases first with
  | error other => simp [Bind.bind, Except.bind]
  | ok found => simp [Bind.bind, Except.bind]

/-- A result that is changed has a value exactly when it had one before. -/
theorem map_eq_ok {ε α β : Type} {result : Except ε α} {change : α → β} {value : β} :
    result.map change = .ok value ↔ ∃ found, result = .ok found ∧ change found = value := by
  cases result with
  | error fault => simp [Except.map]
  | ok found => simp [Except.map]

/-- A computation that a condition ends with a fault has a value if the condition fails. -/
theorem guard_eq_ok {ε α : Type} {refused : Prop} [Decidable refused] {fault : ε}
    {next : Unit → Except ε α} {value : α} :
    (if refused then throw fault >>= next else next ()) = .ok value ↔
      ¬ refused ∧ next () = .ok value := by
  -- A fault that is thrown has no value, so only the other branch is left.
  by_cases refused
  · simp [*, throw, throwThe, MonadExceptOf.throw, bind, Except.bind]
  · simp [*]

namespace Fields

variable {α : Type u}

/-- Putting under a known name keeps the names; a new name goes to the end. -/
theorem keys_put (fields : Fields α) (name : String) (value : α) :
    (fields.put name value).keys =
      if name ∈ fields.keys then fields.keys else fields.keys ++ [name] := by
  -- The name is either met on the way, which ends the walk, or added at the end.
  induction fields with
  | nil => simp [put, keys]
  | cons entry rest ih =>
    by_cases same : entry.1 = name
    · simp [put, keys, same]
    · simp only [keys] at ih
      by_cases known : name ∈ rest.map Prod.fst
      · simp [put, keys, same, ih, known]
      · simp [put, keys, same, Ne.symm same, ih, known]

/-- A new name is put at the end. -/
theorem put_new {fields : Fields α} {name : String} (new : name ∉ fields.keys) (value : α) :
    fields.put name value = fields ++ [(name, value)] := by
  -- The search passes every entry, as none has the name.
  induction fields with
  | nil => rfl
  | cons entry rest ih =>
    simp only [keys, List.map_cons, List.mem_cons, not_or] at new
    simp [put, Ne.symm new.1, ih new.2]

/-- An entry of the result is the one that was put, or was there before. -/
theorem mem_put {fields : Fields α} {name : String} {value : α} {entry : String × α}
    (member : entry ∈ fields.put name value) : entry = (name, value) ∨ entry ∈ fields := by
  -- The induction follows the walk of `put` through the entries.
  induction fields with
  | nil => simpa [put] using member
  | cons first rest ih =>
    by_cases same : first.1 = name
    · -- The walk ends here, and what follows is as it was.
      simp only [put, same, if_true, List.mem_cons] at member
      rcases member with here | later
      · exact Or.inl here
      · exact Or.inr (List.mem_cons_of_mem first later)
    · simp only [put, same, if_false, List.mem_cons] at member
      rcases member with here | later
      · exact Or.inr (by simp [here])
      · rcases ih later with put | known
        · exact Or.inl put
        · exact Or.inr (List.mem_cons_of_mem first known)

/-- A further pair is put on top of what the pairs before it have left. -/
theorem ofPairs_concat (pairs : Fields α) (entry : String × α) :
    ofPairs (pairs ++ [entry]) = (ofPairs pairs).put entry.1 entry.2 := by
  -- Merging is a fold, which takes the last pair last.
  simp [ofPairs, merge]

/-- Of distinct names in the order of their first occurrence, a further one comes last or is known. -/
theorem eraseDups_concat (names : List String) (name : String) :
    (names ++ [name]).eraseDups = if name ∈ names then names.eraseDups else names.eraseDups ++ [name] := by
  -- The further name is dropped only if one of the names before it is the same.
  rw [List.eraseDups_append]
  by_cases known : name ∈ names
  · simp [known, List.removeAll]
  · simp [known, List.removeAll, List.eraseDups_cons]

/-- The names of merged pairs are the distinct names in the order of their first occurrence. -/
theorem keys_ofPairs (pairs : Fields α) : (ofPairs pairs).keys = pairs.keys.eraseDups := by
  -- Pairs are put one after the other, so the induction takes the last one off.
  induction pairs using List.reverseRecOn with
  | nil => rfl
  | append_singleton pairs entry ih =>
    have split : keys (pairs ++ [entry]) = keys pairs ++ [entry.1] := by simp [keys]
    rw [ofPairs_concat, keys_put, ih, split, eraseDups_concat]
    simp only [List.mem_eraseDups]

/-- Merged pairs have each name once. -/
theorem nodup_keys_ofPairs (pairs : Fields α) : (ofPairs pairs).keys.Nodup := by
  -- A pair that is put changes the value of a known name, or adds a name that is new.
  induction pairs using List.reverseRecOn with
  | nil => exact List.nodup_nil
  | append_singleton pairs entry ih =>
    rw [ofPairs_concat, keys_put]
    split
    · exact ih
    · rename_i new
      rw [List.nodup_append]
      refine ⟨ih, List.pairwise_singleton _ _, ?_⟩
      intro name member other single
      rw [List.mem_singleton.mp single]
      exact fun same => new (same ▸ member)

/-- Pairs with distinct names are merged already. -/
theorem ofPairs_of_nodup {pairs : Fields α} (distinct : pairs.keys.Nodup) : ofPairs pairs = pairs := by
  -- Each pair in turn has a new name, so it is put at the end.
  induction pairs using List.reverseRecOn with
  | nil => rfl
  | append_singleton pairs entry ih =>
    have split : keys (pairs ++ [entry]) = keys pairs ++ [entry.1] := by simp [keys]
    rw [split, List.nodup_append] at distinct
    obtain ⟨before, _, apart⟩ := distinct
    have new : entry.1 ∉ keys pairs := fun known => apart _ known _ (List.mem_singleton.mpr rfl) rfl
    rw [ofPairs_concat, ih before, put_new new]

/-- Merging takes its entries from the pairs. -/
theorem mem_of_mem_ofPairs {pairs : Fields α} {entry : String × α}
    (member : entry ∈ ofPairs pairs) : entry ∈ pairs := by
  -- As for the names, the last pair is taken off.
  induction pairs using List.reverseRecOn with
  | nil => simp [ofPairs, merge] at member
  | append_singleton pairs last ih =>
    rw [ofPairs_concat] at member
    rcases mem_put member with same | earlier
    · simp [same]
    · exact List.mem_append_left _ (ih earlier)

/-- What a look-up finds is held under the name that was looked for. -/
theorem mem_of_get? {fields : Fields α} {name : String} {value : α}
    (found : fields.get? name = some value) : (name, value) ∈ fields := by
  -- The look-up stops at the first entry of the name.
  induction fields with
  | nil => simp [get?] at found
  | cons entry rest ih =>
    by_cases same : entry.1 = name
    · simp only [get?, same, if_true, Option.some.injEq] at found
      simp [← same, ← found]
    · simp only [get?, same, if_false] at found
      exact List.mem_cons_of_mem entry (ih found)

/-- A name that entries have is looked up. -/
theorem get?_of_mem_keys {fields : Fields α} {name : String} (member : name ∈ fields.keys) :
    ∃ value, fields.get? name = some value ∧ (name, value) ∈ fields := by
  -- The induction is on the fields, of which the first of the name is found.
  have found : ∃ value, fields.get? name = some value := by
    induction fields with
    | nil => cases member
    | cons entry rest ih =>
      by_cases same : entry.1 = name
      · exact ⟨entry.2, by simp [get?, same]⟩
      · obtain ⟨value, found⟩ := ih ((List.mem_cons.mp member).resolve_left (Ne.symm same))
        exact ⟨value, by simp [get?, same, found]⟩
  obtain ⟨value, found⟩ := found
  exact ⟨value, found, mem_of_get? found⟩

/-- Where names are distinct, an entry is what a look-up of its name finds. -/
theorem get?_of_mem {fields : Fields α} (distinct : fields.keys.Nodup) {entry : String × α}
    (member : entry ∈ fields) : fields.get? entry.1 = some entry.2 := by
  -- A look-up takes the first entry of a name, so the entries before must have other names.
  induction fields with
  | nil => cases member
  | cons first rest ih =>
    obtain ⟨fresh, others⟩ := List.nodup_cons.mp distinct
    rcases List.mem_cons.mp member with rfl | later
    · simp [get?]
    · have passed : first.1 ≠ entry.1 := by
        intro same
        exact fresh (same ▸ List.mem_map_of_mem later)
      simp [get?, passed, ih others later]

/-- A look-up finds nothing exactly where there is no such name. -/
theorem get?_eq_none_iff {fields : Fields α} {name : String} :
    fields.get? name = none ↔ name ∉ fields.keys := by
  -- What is found stands among the fields, and a name among them is found.
  constructor
  · intro absent member
    obtain ⟨value, found, _⟩ := get?_of_mem_keys member
    cases found.symm.trans absent
  · intro absent
    rw [Option.eq_none_iff_forall_ne_some]
    exact fun value found => absent (List.mem_map_of_mem (mem_of_get? found))

/-- Merged pairs have the names of the pairs, and no others. -/
theorem mem_keys_ofPairs {pairs : Fields α} {name : String} :
    name ∈ (ofPairs pairs).keys ↔ name ∈ pairs.keys := by
  rw [keys_ofPairs, List.mem_eraseDups]

/-- Under a name, merged pairs hold the last value that was paired with it. -/
theorem get?_ofPairs (pairs : Fields α) (name : String) :
    (ofPairs pairs).get? name =
      ((pairs.filter fun entry => entry.1 == name).getLast?).map Prod.snd := by
  -- The last pair is taken off: it is of the name and decides, or it is passed over.
  induction pairs using List.reverseRecOn with
  | nil => rfl
  | append_singleton pairs last ih =>
    rw [ofPairs_concat, List.filter_append]
    by_cases same : last.1 = name
    · subst same
      simp [get?_put_self]
    · rw [get?_put_other _ _ (Ne.symm same), ih]
      simp [same]

/-- Where all pairs of a name agree, merged pairs hold what they agree on. -/
theorem get?_ofPairs_of_mem {pairs : Fields α} {name : String} {value : α}
    (member : (name, value) ∈ pairs) (agree : ∀ entry ∈ pairs, entry.1 = name → entry.2 = value) :
    (ofPairs pairs).get? name = some value := by
  -- The last pair of the name counts, and it agrees with the given one.
  have among : (name, value) ∈ pairs.filter fun entry => entry.1 == name := by
    simp [member]
  obtain ⟨last, found⟩ : ∃ last, (pairs.filter fun entry => entry.1 == name).getLast? = some last :=
    ⟨_, List.getLast?_eq_some_getLast (List.ne_nil_of_mem among)⟩
  obtain ⟨here, same⟩ := List.mem_filter.mp (List.mem_of_getLast? found)
  rw [get?_ofPairs, found, Option.map_some, agree last here (by simpa using same)]

end Fields

end PageServer
