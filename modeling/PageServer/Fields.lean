/-! Named entries kept in order, and the merge that fills them. -/

namespace PageServer

/-- A list of named entries, in order. -/
abbrev Fields (α : Type u) := List (String × α)

namespace Fields

variable {α : Type u}

/-- The names, in order. -/
def keys (fields : Fields α) : List String := fields.map Prod.fst

/-- The first entry under a name. -/
def get? : Fields α → String → Option α
  | [], _ => none
  | (key, value) :: rest, name => if key = name then some value else get? rest name

/-- Sets a name to a value: a known name keeps its place, a new one goes to the end. -/
def put : Fields α → String → α → Fields α
  | [], name, value => [(name, value)]
  | (key, held) :: rest, name, value =>
    if key = name then (key, value) :: rest else (key, held) :: put rest name value

/-- Puts every update in turn, so the last value of a name wins. -/
def merge (fields updates : Fields α) : Fields α :=
  updates.foldl (fun merged entry => merged.put entry.1 entry.2) fields

/-- The distinct names of a list of pairs at their first places, each with its last value. -/
def ofPairs (pairs : Fields α) : Fields α := merge [] pairs

/-- Putting under a name is what a later look-up of that name finds. -/
theorem get?_put_self (fields : Fields α) (name : String) (value : α) :
    (fields.put name value).get? name = some value := by
  -- The name is either met on the way or added at the end.
  induction fields with
  | nil => simp [put, get?]
  | cons entry rest ih =>
    by_cases same : entry.1 = name <;> simp [put, get?, same, ih]

/-- Putting under one name leaves every other name as it was. -/
theorem get?_put_other (fields : Fields α) {name other : String} (value : α)
    (differ : other ≠ name) : (fields.put name value).get? other = fields.get? other := by
  -- Only the entry under the put name changes, and the look-up passes it by.
  induction fields with
  | nil => simp [put, get?, Ne.symm differ]
  | cons entry rest ih =>
    by_cases same : entry.1 = name
    · have passed : entry.1 ≠ other := fun equal => differ (equal.symm.trans same)
      simp [put, get?, same, Ne.symm differ]
    · simp [put, get?, same, ih]

end Fields

end PageServer
