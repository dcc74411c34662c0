import PageServer.Eval
import PageServer.Proofs.Identity

/-!
Rendering goes leaf by leaf.

A value is opened down to what is no list, and its markup is that of these leaves in order. The first
leaf that has no markup decides on the fault. Nothing depends on whether a part was rendered before, or
is rendered with the rest.
-/

namespace PageServer

/-! Leaves -/

namespace Value

mutual

/-- What is left of a value when its lists are opened, from left to right. -/
def leaves : Value → List Value
  | .list items => leavesAll items
  | other => [other]

/-- The leaves of values one after the other. -/
def leavesAll : List Value → List Value
  | [] => []
  | item :: rest => leaves item ++ leavesAll rest

end

/-- Whether a number has few enough digits to be written. -/
def IsWritable (n : Int) : Prop := (Nat.toDigits 10 n.natAbs).length ≤ Text.digitLimit

instance (n : Int) : Decidable (IsWritable n) := inferInstanceAs (Decidable (_ ≤ _))

/-- What is wrong with a value as an attribute. -/
def attributeFault? : Value → Option Fault
  | .text _ => none
  | .int n => if IsWritable n then none else some .tooManyDigits
  | other => some (.wrongKind "html attribute" "text" other.kind)

/-- What is wrong with a leaf; for an element, with its first attribute of which something is. -/
def leafFault? : Value → Option Fault
  | .text _ | .raw _ | .tag _ => none
  | .int n => if IsWritable n then none else some .tooManyDigits
  | .tagWith _ fields => fields.findSome? fun entry => entry.2.attributeFault?
  | .bareMarkup _ => some (.wrongKind "html emission" "html fragment" "html")
  | other => some (.wrongKind "html emission" "html, text, int or list" other.kind)

/-- Values with a text as attributes: texts, and numbers that can be written. -/
def HasText : Value → Prop
  | .text _ => True
  | .int n => IsWritable n
  | _ => False

/-- Leaves with markup: texts, markup, elements whose attributes have texts, and short numbers. -/
def HasMarkup : Value → Prop
  | .text _ | .raw _ | .tag _ => True
  | .int n => IsWritable n
  | .tagWith _ fields => ∀ entry ∈ fields, entry.2.HasText
  | _ => False

/-- A value has a text exactly if an attribute can have it. -/
theorem hasText_iff (value : Value) : value.HasText ↔ value.attributeFault? = none := by
  cases value <;> simp [HasText, attributeFault?]

/-- A value has markup exactly if it is a leaf without fault. -/
theorem hasMarkup_iff (value : Value) : value.HasMarkup ↔ value.leafFault? = none := by
  cases value <;> simp [HasMarkup, leafFault?, hasText_iff]

/-- The leaves of several values are those of each in turn. -/
theorem leavesAll_eq (items : List Value) : leavesAll items = items.flatMap leaves := by
  -- The recursion goes along the list.
  induction items with
  | nil => rfl
  | cons item rest ih => simp [leavesAll, ih]

/-- A leaf is no list. -/
theorem ne_list_of_mem_leaves {value leaf : Value} (member : leaf ∈ value.leaves)
    (items : List Value) : leaf ≠ .list items := by
  -- A list is opened until something else is met, and that is the leaf.
  induction value using byParts with
  | step value ih =>
    cases value with
    | list held =>
      simp only [leaves, leavesAll_eq, List.mem_flatMap] at member
      obtain ⟨item, inside, found⟩ := member
      exact ih item inside found
    | _ =>
      obtain rfl := List.mem_singleton.mp member
      simp

end Value

/-! Faults -/

/-- The fault of a result, if it is one. -/
def fault? {α : Type} : Except Fault α → Option Fault
  | .ok _ => none
  | .error fault => some fault

/-- The fault of a result is there exactly if the result is that fault. -/
theorem fault?_eq_some {α : Type} {result : Except Fault α} {fault : Fault} :
    fault? result = some fault ↔ result = .error fault := by
  cases result <;> simp [fault?]

/-- A result has no fault exactly if it is a value. -/
theorem fault?_eq_none {α : Type} {result : Except Fault α} :
    fault? result = none ↔ ∃ value, result = .ok value := by
  cases result <;> simp [fault?]

/-- A sequence has the fault of its first part, or else that of its second. -/
theorem fault?_bind {α β : Type} {second : Option Fault} (first : Except Fault α)
    {next : α → Except Fault β} (later : ∀ value, fault? (next value) = second) :
    fault? (first >>= next) = (fault? first).or second := by
  -- What comes second has its fault whatever it is handed, so none need be computed.
  cases first with
  | error fault => rfl
  | ok value => exact later value

/-- What is only built from a result has no fault of its own. -/
theorem fault?_built {α β : Type} (first : Except Fault α) (build : α → β) :
    fault? (first >>= fun value => pure (build value)) = fault? first := by
  -- A fault is passed on, and a value leads to one.
  cases first <;> rfl

/-- A search finds the same under conditions that agree on what is searched. -/
theorem findSome?_congr {α β : Type} {items : List α} {one other : α → Option β}
    (same : ∀ item ∈ items, one item = other item) : items.findSome? one = items.findSome? other := by
  -- The search goes along the list and asks each item once.
  induction items with
  | nil => rfl
  | cons item rest ih =>
    obtain ⟨here, later⟩ := List.forall_mem_cons.mp same
    simp [List.findSome?_cons, here, ih later]

namespace Markup

/-- A number is within the limit of digits exactly if it can be written. -/
theorem withinLimit_iff (n : Int) : Text.withinLimit n = true ↔ Value.IsWritable n := by
  have positive : 0 < Text.digitLimit := by decide
  unfold Text.withinLimit Value.IsWritable
  -- The power is not to be computed, so the limit is taken as any.
  generalize Text.digitLimit = limit at positive ⊢
  rw [decide_eq_true_iff]
  exact (Nat.length_toDigits_le_iff (by decide) positive).symm

/-- A number has a fault as a text exactly if it is too long. -/
theorem fault?_numberText (n : Int) :
    fault? (numberText n) = if Value.IsWritable n then none else some .tooManyDigits := by
  -- The bound by which numbers are refused is the one on their digits.
  unfold numberText
  simp only [withinLimit_iff]
  split <;> rfl

/-- The fault of an attribute is the one that is told of its value. -/
theorem fault?_attributeText (value : Value) :
    fault? (attributeText value) = value.attributeFault? := by
  -- Only of a number is it not told at once.
  cases value with
  | int n => exact fault?_numberText n
  | _ => rfl

/-- Attributes have the fault of the first of them that has one. -/
theorem fault?_attributeList (fields : Fields Value) :
    fault? (attributeList fields) = fields.findSome? fun entry => entry.2.attributeFault? := by
  -- Writing stops at the first attribute without a text, as the search does.
  induction fields with
  | nil => rfl
  | cons entry rest ih =>
    -- The first attribute is written before the others are looked at.
    have here : fault? (attributePair entry.1 entry.2) = entry.2.attributeFault? := by
      rw [attributePair, fault?_built, fault?_attributeText]
    have whole : fault? (attributeList (entry :: rest)) =
        (fault? (attributePair entry.1 entry.2)).or (fault? (attributeList rest)) :=
      fault?_bind _ fun first => fault?_built _ (first :: ·)
    rw [whole, here, ih, List.findSome?_cons]
    cases entry.2.attributeFault? <;> rfl

/-- An element has the fault of its first attribute that has one, whatever its body. -/
theorem fault?_element (name body : String) (fields : Fields Value) :
    fault? (element name body fields) = fields.findSome? fun entry => entry.2.attributeFault? := by
  -- Nothing but the attributes can fail: the name and the body are taken as they are.
  unfold element
  split
  · rename_i bare
    rw [List.isEmpty_iff.mp bare]
    rfl
  · rw [fault?_built, attributes, fault?_built, fault?_attributeList]

/-- A leaf that is rendered has the fault that is told of it. -/
theorem fault?_render_leaf {leaf : Value} (noList : ∀ items, leaf ≠ .list items) :
    fault? (render leaf) = leaf.leafFault? := by
  -- A leaf is rendered by what it is, without looking further.
  cases leaf with
  | list items => exact absurd rfl (noList items)
  | int n => exact fault?_numberText n
  | tagWith name fields => exact fault?_element name "" fields
  | _ => rfl

/-! Rendering -/

/-- Values in a row render as some of them, and then the others. -/
theorem renderAll_append (items others : List Value) :
    renderAll (items ++ others) = (do return (← renderAll items) ++ (← renderAll others)) := by
  -- A fault on the way is the fault of the whole, wherever the row is cut.
  induction items with
  | nil =>
    simp only [List.nil_append, renderAll]
    cases renderAll others <;> simp [Bind.bind, Except.bind, Pure.pure, Except.pure]
  | cons item rest ih =>
    simp only [List.cons_append, renderAll, ih]
    cases render item <;> cases renderAll rest <;> cases renderAll others <;>
      simp [Bind.bind, Except.bind, Pure.pure, Except.pure, String.append_assoc]

/-- One value by itself is rendered as it is in a row. -/
theorem renderAll_single (value : Value) : renderAll [value] = render value := by
  -- There is nothing to join the markup with.
  simp only [renderAll]
  cases render value <;> simp [Bind.bind, Except.bind, Pure.pure, Except.pure]

/-- Items that each render as their leaves do so in a row. -/
theorem renderAll_leavesAll {items : List Value}
    (each : ∀ item ∈ items, renderAll item.leaves = render item) :
    renderAll (Value.leavesAll items) = renderAll items := by
  -- The leaves of the first item come before those of the others.
  induction items with
  | nil => rfl
  | cons item rest ih =>
    obtain ⟨here, later⟩ := List.forall_mem_cons.mp each
    rw [Value.leavesAll, renderAll_append, here, ih later, renderAll]

/-- The leaves of a value render, in a row, as the value does. -/
theorem renderAll_leaves (value : Value) : renderAll value.leaves = render value := by
  -- Only a list is opened, and its items are smaller.
  induction value using Value.byParts with
  | step value ih =>
    cases value with
    | list items => exact renderAll_leavesAll ih
    | _ => exact renderAll_single _

/-- A row of values has the fault of the first of them that has one. -/
theorem fault?_renderAll (items : List Value) :
    fault? (renderAll items) = items.findSome? fun item => fault? (render item) := by
  -- An item is rendered before those behind it, so its fault is the first to be met.
  induction items with
  | nil => rfl
  | cons item rest ih =>
    have whole : fault? (renderAll (item :: rest)) =
        (fault? (render item)).or (fault? (renderAll rest)) :=
      fault?_bind _ fun first => fault?_built _ (first ++ ·)
    rw [whole, ih, List.findSome?_cons]
    cases fault? (render item) <;> rfl

/-- A value has the fault of its first leaf that has one. -/
theorem fault?_render (value : Value) :
    fault? (render value) = value.leaves.findSome? Value.leafFault? := by
  rw [← renderAll_leaves, fault?_renderAll]
  -- What is rendered one by one are leaves.
  have each : ∀ leaf ∈ value.leaves, fault? (render leaf) = leaf.leafFault? := by
    intro leaf member
    exact fault?_render_leaf (Value.ne_list_of_mem_leaves member)
  exact findSome?_congr each

/-- A row of values that has markup has that of each of them, joined. -/
theorem renderAll_eq_ok {items : List Value} {markup : String} (rendered : renderAll items = .ok markup) :
    ∃ pieces, List.Forall₂ (fun item piece => render item = .ok piece) items pieces ∧
      markup = String.join pieces := by
  -- Each item that is rendered leaves its piece, and no item is passed over.
  induction items generalizing markup with
  | nil =>
    cases rendered
    exact ⟨[], .nil, rfl⟩
  | cons item rest ih =>
    -- A row is rendered first item first, and the rest is joined to it.
    simp only [renderAll, bind_eq_ok] at rendered
    obtain ⟨first, here, others, later, built⟩ := rendered
    cases built
    obtain ⟨pieces, each, rfl⟩ := ih later
    exact ⟨first :: pieces, .cons here each, by simp⟩

/-! Parts rendered before -/

/-- A value, and one with some item of its lists, at any depth, or itself replaced by another. -/
inductive Replaces (old new : Value) : Value → Value → Prop where
  | whole : Replaces old new old new
  | item {before after : List Value} {item changed : Value} : Replaces old new item changed →
    Replaces old new (.list (before ++ item :: after)) (.list (before ++ changed :: after))

/-- What renders alike can be replaced. -/
theorem Replaces.render_eq {old new value changed : Value} (replaced : Replaces old new value changed)
    (same : render old = render new) : render value = render changed := by
  -- The induction goes up from what is replaced, list by list.
  induction replaced with
  | whole => exact same
  | item _ ih => simp only [render, renderAll_append, renderAll, ih]

/-- An element that waits for a body renders as it does around nothing. -/
theorem render_applied (depth : Nat) {value : Value}
    (waits : (∃ name, value = .tag name) ∨ ∃ name fields, value = .tagWith name fields) :
    (do Run.lift (render (← apply depth value (.list [])))) = Run.lift (render value) := by
  -- Nothing renders as nothing, and what was made of it renders as it stands.
  rcases waits with ⟨name, rfl⟩ | ⟨name, fields, rfl⟩
  · rfl
  · have made : apply depth (.tagWith name fields) (.list []) =
        Run.lift (do return .raw (← element name "" fields)) := rfl
    simp only [made, render]
    cases element name "" fields <;> rfl

/--
Rendering is compositional, and fails exactly at leaves that have no markup.

A value has markup if each of its leaves has, and then it is the markup of these joined; otherwise it has
the fault of the first leaf that has one. A part that was rendered before makes no difference, and an
element that waits for a body renders as it does around nothing.
-/
theorem render_compositional (value : Value) :
    ((∃ markup, render value = .ok markup) ↔ ∀ leaf ∈ value.leaves, leaf.HasMarkup) ∧
    (∀ markup, render value = .ok markup →
      ∃ pieces, List.Forall₂ (fun leaf piece => render leaf = .ok piece) value.leaves pieces ∧
        markup = String.join pieces) ∧
    (∀ fault, render value = .error fault ↔ value.leaves.findSome? Value.leafFault? = some fault) ∧
    (∀ item markup changed, render item = .ok markup → Replaces item (.raw markup) value changed →
      render changed = render value) ∧
    (∀ depth, ((∃ name, value = .tag name) ∨ ∃ name fields, value = .tagWith name fields) →
      (do Run.lift (render (← apply depth value (.list [])))) = Run.lift (render value)) := by
  refine ⟨?_, ?_, ?_, ?_, fun depth => render_applied depth⟩
  · -- There is markup exactly if no leaf has a fault.
    rw [← fault?_eq_none, fault?_render, List.findSome?_eq_none_iff]
    simp only [Value.hasMarkup_iff]
  · -- The leaves in a row render as the value does, and a row renders piece by piece.
    intro markup rendered
    rw [← renderAll_leaves] at rendered
    exact renderAll_eq_ok rendered
  · intro fault
    rw [← fault?_eq_some, fault?_render]
  · -- Markup renders as itself, and so as that of which it is the markup.
    intro item markup changed rendered replaced
    exact (replaced.render_eq rendered).symm

/-- An element that waits for a body, and a text. -/
def remark : Value := .list [.tagWith "em" [("title", .text "\"")], .text "<"]

/-- A list within a list may be rendered first, and an element may be given nothing. -/
theorem render_compositional_remark :
    render remark = .ok "<em title=\"&quot;\"></em>&lt;" ∧
      render (.list [.text "&", .raw "<em title=\"&quot;\"></em>&lt;"]) =
        render (.list [.text "&", remark]) ∧
      (do Run.lift (render (← apply 0 (.tag "br") (.list [])))) = Run.lift (render (.tag "br")) := by
  -- The element is rendered with its mark escaped.
  have rendered : render remark = .ok "<em title=\"&quot;\"></em>&lt;" := by rfl
  have replaced : Replaces remark (.raw "<em title=\"&quot;\"></em>&lt;")
      (.list ([.text "&"] ++ remark :: []))
      (.list ([.text "&"] ++ .raw "<em title=\"&quot;\"></em>&lt;" :: [])) := .item .whole
  obtain ⟨_, _, _, item, _⟩ := render_compositional (.list [.text "&", remark])
  obtain ⟨_, _, _, _, given⟩ := render_compositional (.tag "br")
  exact ⟨rendered, item remark _ _ rendered replaced, given 0 (.inl ⟨"br", rfl⟩)⟩

end Markup

end PageServer
