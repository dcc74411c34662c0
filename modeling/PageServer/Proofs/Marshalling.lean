import PageServer.Proofs.Merging
import PageServer.Proofs.Reports

/-!
Forms are marshalled exactly.

Of a form, nothing counts but the last value under each declared name. The record that is made of it has
the declared names in the order of their declaration, and the first of them that is not there is the one
that is asked for. So two forms that agree under the declared names are served alike.
-/

namespace PageServer

namespace Form

/-- Some declared field was not submitted exactly if one is asked for. -/
theorem record_fails_iff {fields : Fields Ty} {form : Fields String} :
    (∃ missing, record fields form = .error missing) ↔
      ∃ name ∈ fields.keys, name ∉ form.keys := by
  -- Asking for a field means that it is declared and was not found.
  simp only [record_eq_error, ← Option.isSome_iff_exists, List.find?_isSome]
  simp

/-- A form that has every declared field makes the record of their last values. -/
theorem record_exact {fields : Fields Ty} {form : Fields String}
    (submitted : ∀ name ∈ fields.keys, name ∈ form.keys) :
    ∃ held, record fields form = .ok held ∧ held.keys = fields.keys.eraseDups ∧
      ∀ name ∈ fields.keys, held.get? name = (form.last? name).map Value.text := by
  cases marshalled : record fields form with
  | error missing =>
    -- Only for a field that was not submitted is one asked for.
    obtain ⟨name, declared, absent⟩ := record_fails_iff.mp ⟨missing, marshalled⟩
    exact absurd (submitted name declared) absent
  | ok held =>
    have made := marshalled
    simp only [record, bind_eq_ok] at made
    obtain ⟨picked, found, built⟩ := made
    cases built
    obtain ⟨keys, texts⟩ := pick_texts found
    refine ⟨_, rfl, by rw [Fields.keys_ofPairs, keys], fun name declared => ?_⟩
    -- Every pair that was picked under the name holds the last value that was submitted.
    rw [← keys] at declared
    obtain ⟨entry, member, rfl⟩ := List.mem_map.mp declared
    obtain ⟨text, last, same⟩ := texts entry member
    rw [Fields.get?_ofPairs_eq_last?] at last
    rw [last, Option.map_some]
    apply Fields.get?_ofPairs_of_mem
    · rw [← same]
      exact member
    · intro other also named
      obtain ⟨found, again, held⟩ := texts other also
      rw [Fields.get?_ofPairs_eq_last?, named, last] at again
      rw [held, Option.some.inj again]

/-- Picking looks at nothing but what is held under the wanted names. -/
theorem pick_congr {submitted others : Fields String} {names : List String}
    (same : ∀ name ∈ names, submitted.get? name = others.get? name) :
    pick submitted names = pick others names := by
  -- The induction is on the wanted names, as the picking is.
  induction names with
  | nil => rfl
  | cons name rest ih =>
    obtain ⟨here, later⟩ := List.forall_mem_cons.mp same
    simp only [pick, here, ih later]

/-- Forms with the same last values under the declared names make the same record, or lack the same. -/
theorem record_congr {fields : Fields Ty} {form other : Fields String}
    (same : ∀ name ∈ fields.keys, form.last? name = other.last? name) :
    record fields form = record fields other := by
  have held : ∀ name ∈ fields.keys,
      (Fields.ofPairs form).get? name = (Fields.ofPairs other).get? name := by
    -- Merging a form leaves the last value under each name.
    intro name declared
    rw [Fields.get?_ofPairs_eq_last?, Fields.get?_ofPairs_eq_last?, same name declared]
  rw [record, record, pick_congr held]

end Form

namespace Endpoint

variable (depth : Nat) (tables : List Table) {endpoint : Endpoint} (pathVars : Fields String)
  {form other : Fields String}

/-- Forms that agree under the declared names, if there are any, are answered alike. -/
theorem answer_congr (same : ∀ fields, Form.fields? endpoint = some fields →
      ∀ name ∈ fields.keys, form.last? name = other.last? name) :
    endpoint.answer depth tables pathVars form = endpoint.answer depth tables pathVars other := by
  -- The form is looked at once, where the record is made of it.
  unfold answer
  cases declared : Form.fields? endpoint with
  | none => rfl
  | some fields => simp only [Form.record_congr (same fields declared)]

/-- So they are served alike: the end, the machine and its log are the same. -/
theorem run_congr (same : ∀ fields, Form.fields? endpoint = some fields →
      ∀ name ∈ fields.keys, form.last? name = other.last? name) (machine : Machine) :
    endpoint.run depth tables pathVars form machine =
      endpoint.run depth tables pathVars other machine := by
  -- Both runs start alike and have the same argument.
  rw [run_eq, run_eq, answer_congr depth tables pathVars same]

end Endpoint

namespace Form

/--
Forms are marshalled exactly.

A record is made unless some declared name was not submitted, and then the first such name is asked for.
It has each declared name once, in the order of declaration, with the last text that was submitted for it.
Forms that agree on these texts are served alike, and where no form is taken, all forms are.
-/
theorem marshalling_exact (fields : Fields Ty) (form other : Fields String) (depth : Nat)
    (tables : List Table) (endpoint : Endpoint) (pathVars : Fields String) (machine : Machine) :
    ((∃ missing, record fields form = .error missing) ↔ ∃ name ∈ fields.keys, name ∉ form.keys) ∧
    (∀ missing, record fields form = .error missing →
      (fields.keys.find? fun name => !form.keys.contains name) = some missing) ∧
    ((∀ name ∈ fields.keys, name ∈ form.keys) →
      ∃ held, record fields form = .ok held ∧ held.keys = fields.keys.eraseDups ∧
        ∀ name ∈ fields.keys, held.get? name = (form.last? name).map Value.text) ∧
    (∀ declared result, endpoint.type = .function (.record declared) result →
      (∀ name ∈ Fields.keys declared, form.last? name = other.last? name) →
      endpoint.run depth tables pathVars form machine =
        endpoint.run depth tables pathVars other machine) ∧
    ((endpoint.method ≠ "POST" ∨ ∀ declared result, endpoint.type ≠ .function (.record declared) result) →
      endpoint.run depth tables pathVars form machine =
        endpoint.run depth tables pathVars other machine) := by
  -- The first three parts are about the record alone, the others about a whole run.
  refine ⟨record_fails_iff, fun _ => record_eq_error.mp, record_exact, ?_, ?_⟩
  · intro declared result type same
    apply Endpoint.run_congr
    -- The fields that are taken are those of the type, if the endpoint is posted to.
    intro taken found
    obtain ⟨_, _, also⟩ := fields?_eq_some_iff.mp found
    cases type.symm.trans also
    exact same
  · intro untaken
    -- Without a post, or without a declared record, no fields are taken at all.
    apply Endpoint.run_congr
    intro taken found
    obtain ⟨posted, result, type⟩ := fields?_eq_some_iff.mp found
    rcases untaken with other | other
    · exact absurd posted other
    · exact absurd type (other taken result)

/-- An endpoint that is posted a name and greets with it. -/
def greeter : Endpoint where
  method := "POST"
  path := ⟨[]⟩
  body := .abs "form" (.dot (.var "form") "name")
  type := .function (.record [("name", .text)]) (.primitive "html")

/-- The last submission under a declared name counts, other names do not, and none where nothing is posted. -/
theorem marshalling_exact_greeter :
    (∃ held, record [("name", .text), ("age", .int), ("name", .text)]
        [("name", "ann"), ("age", "7"), ("name", "bea")] = .ok held ∧
      held.keys = ["name", "age"] ∧ held.get? "name" = some (.text "bea")) ∧
    (∃ missing, record [("name", .text), ("age", .int)] [("age", "7")] = .error missing) ∧
    greeter.run 3 [] [] [("name", "ann"), ("name", "bea")] { clock := fun _ => 0 } =
      greeter.run 3 [] [] [("name", "bea"), ("zip", "1")] { clock := fun _ => 0 } ∧
    Endpoint.run 3 [] { greeter with method := "GET" } [] [("name", "ann")] { clock := fun _ => 0 } =
      Endpoint.run 3 [] { greeter with method := "GET" } [] [] { clock := fun _ => 0 } := by
  -- The theorem is taken once for each form that is compared.
  obtain ⟨_, _, made, _⟩ := marshalling_exact [("name", .text), ("age", .int), ("name", .text)]
    [("name", "ann"), ("age", "7"), ("name", "bea")] [] 0 [] greeter [] { clock := fun _ => 0 }
  obtain ⟨fails, _⟩ := marshalling_exact [("name", .text), ("age", .int)] [("age", "7")] [] 0 []
    greeter [] { clock := fun _ => 0 }
  obtain ⟨_, _, _, served, _⟩ := marshalling_exact [] [("name", "ann"), ("name", "bea")]
    [("name", "bea"), ("zip", "1")] 3 [] greeter [] { clock := fun _ => 0 }
  obtain ⟨_, _, _, _, unread⟩ := marshalling_exact [] [("name", "ann")] [] 3 []
    { greeter with method := "GET" } [] { clock := fun _ => 0 }
  obtain ⟨held, marshalled, keys, texts⟩ := made (by decide)
  exact ⟨⟨held, marshalled, keys, texts "name" (by decide)⟩, fails.mpr ⟨"name", by decide, by decide⟩,
    served _ _ rfl (by decide), unread (.inl (by decide))⟩

end Form

end PageServer
