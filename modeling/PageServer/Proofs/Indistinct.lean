import PageServer.Endpoint
import PageServer.Proofs.Alike

/-!
Nothing that is done with finished values tells alike values apart.

They render as the same markup, become the same response, are stored as the same cells, and compare in
the same way with alike values; operators have the same value at them.
-/

namespace PageServer

namespace Value.Alike

variable {value other : Value}

/-- Alike values read as the same text. -/
theorem asText_eq (alike : Value.Alike value other) (site : String) :
    value.asText site = other.asText site := by
  -- Only texts are read as one, and alike texts are equal.
  cases alike <;> rfl

/-- Alike values read as the same number. -/
theorem asInt_eq (alike : Value.Alike value other) (site : String) :
    value.asInt site = other.asInt site := by
  cases alike <;> rfl

/-- Alike values read as the same truth value. -/
theorem asBool_eq (alike : Value.Alike value other) (site : String) :
    value.asBool site = other.asBool site := by
  cases alike <;> rfl

/-- Alike values are bound to placeholders as the same cell. -/
theorem encode_eq (alike : Value.Alike value other) :
    Storage.encode value = Storage.encode other := by
  -- Alike atoms are equal, and anything else is refused by its kind.
  cases alike <;> rfl

/-- Alike values have the same text as attributes. -/
theorem attributeText_eq (alike : Value.Alike value other) :
    Markup.attributeText value = Markup.attributeText other := by
  cases alike <;> rfl

/-- Alike values send the client to the same place. -/
theorem redirect_eq (alike : Value.Alike value other) :
    Eval.redirect value = Eval.redirect other := by
  unfold Eval.redirect
  rw [alike.asText_eq]

end Value.Alike

/-- Entries with the same names and texts in turn are written as the same attributes. -/
theorem Markup.attributeList_congr {fields others : Fields Value}
    (same : List.Forall₂ (fun field other => field.1 = other.1 ∧
      Markup.attributeText field.2 = Markup.attributeText other.2) fields others) :
    Markup.attributeList fields = Markup.attributeList others := by
  -- Attributes are written in turn, each from its name and its text.
  induction same with
  | nil => rfl
  | @cons first second _ _ here _ ih =>
    obtain ⟨name, value⟩ := first
    obtain ⟨named, found⟩ := second
    obtain ⟨rfl, texts⟩ := here
    simp only [Markup.attributeList, Markup.attributePair, texts, ih]

/-- Entries with the same names and texts in turn make the same element. -/
theorem Markup.element_congr {fields others : Fields Value}
    (same : List.Forall₂ (fun field other => field.1 = other.1 ∧
      Markup.attributeText field.2 = Markup.attributeText other.2) fields others)
    (name body : String) : Markup.element name body fields = Markup.element name body others := by
  -- An element without attributes is printed on its own, so emptiness matters, too.
  have none : fields.isEmpty = others.isEmpty := by
    cases same <;> rfl
  unfold Markup.element Markup.attributes
  rw [none, Markup.attributeList_congr same]

namespace Fields.Alike

variable {fields others : Fields Value}

/-- Alike entries have the same names. -/
theorem keys_eq (alike : Fields.Alike fields others) : fields.keys = others.keys :=
  (Fields.forall₂_iff.mp alike).1

/-- Alike entries have alike values under each name, or none. -/
theorem get? (alike : Fields.Alike fields others) (name : String) :
    Option.Rel Value.Alike (fields.get? name) (others.get? name) := by
  -- Both look-ups stop at the same place.
  induction alike with
  | nil => exact .none
  | @cons first second _ _ here _ ih =>
    obtain ⟨key, held⟩ := first
    obtain ⟨same, found⟩ := second
    obtain ⟨rfl, both⟩ := here
    simp only [Fields.get?]
    split
    · exact .some both
    · exact ih

/-- Alike values put under one name leave entries alike. -/
theorem put (alike : Fields.Alike fields others) (name : String) {value found : Value}
    (held : Value.Alike value found) :
    Fields.Alike (fields.put name value) (others.put name found) := by
  -- Both walks end at the same place.
  induction alike with
  | nil => exact .cons ⟨rfl, held⟩ .nil
  | @cons first second _ _ here rest ih =>
    obtain ⟨key, before⟩ := first
    obtain ⟨same, after⟩ := second
    obtain ⟨rfl, both⟩ := here
    simp only [Fields.put]
    -- The name is this one, or it is put further on.
    split
    · exact .cons ⟨rfl, held⟩ rest
    · exact .cons ⟨rfl, both⟩ ih

/-- Alike entries are merged into alike entries. -/
theorem merge {updates changes : Fields Value} (alike : Fields.Alike fields others)
    (further : Fields.Alike updates changes) :
    Fields.Alike (fields.merge updates) (others.merge changes) := by
  -- Updates are put one after the other.
  induction further generalizing fields others with
  | nil => exact alike
  | @cons first second _ _ here _ ih =>
    obtain ⟨name, value⟩ := first
    obtain ⟨same, found⟩ := second
    obtain ⟨rfl, both⟩ := here
    exact ih (alike.put name both)

/-- Alike entries make the same element. -/
theorem element_eq (alike : Fields.Alike fields others) (name body : String) :
    Markup.element name body fields = Markup.element name body others :=
  Markup.element_congr (alike.imp fun _ _ held => ⟨held.1, held.2.attributeText_eq⟩) name body

/-- Alike entries are bound to placeholders as the same cells. -/
theorem encodeFields_eq (alike : Fields.Alike fields others) :
    Storage.encodeFields fields = Storage.encodeFields others := by
  -- The induction is on the entries; a cell shows nothing of the scope of a function.
  induction alike with
  | nil => rfl
  | @cons first second _ _ here _ ih =>
    obtain ⟨name, value⟩ := first
    obtain ⟨same, found⟩ := second
    obtain ⟨rfl, both⟩ := here
    simp only [Storage.encodeFields, both.encode_eq, ih]

end Fields.Alike

/-- Alike arguments are bound to placeholders as the same cells. -/
theorem Storage.encodeAll_alike {arguments others : List Value}
    (alike : List.Forall₂ Value.Alike arguments others) :
    Storage.encodeAll arguments = Storage.encodeAll others := by
  -- The induction is on the arguments, which are bound in turn.
  induction alike with
  | nil => rfl
  | cons here _ ih => simp only [Storage.encodeAll, here.encode_eq, ih]

/-- What renders in turn as the same markup renders as the same markup in a row. -/
theorem Markup.renderAll_congr {items others : List Value}
    (same : List.Forall₂ (fun item other => Markup.render item = Markup.render other) items others) :
    Markup.renderAll items = Markup.renderAll others := by
  -- The induction is on the items, which are printed in turn.
  induction same with
  | nil => rfl
  | cons here _ ih => simp only [Markup.renderAll, here, ih]

namespace Value.Alike

variable {value other : Value}

/-- Alike values render as the same markup. -/
theorem render_eq (alike : Value.Alike value other) :
    Markup.render value = Markup.render other := by
  -- Only lists hold more to render, and only elements have attributes.
  induction alike with
  | list length _ ih =>
    simp only [Markup.render]
    exact Markup.renderAll_congr (List.forall₂_iff_zip.mpr ⟨length, fun member => ih _ member⟩)
  | tagWith name keys held _ =>
    simp only [Markup.render]
    exact (Fields.Alike.ofKeys keys held).element_eq name ""
  | text _ | int _ | bool _ | record _ _ _ | closure _ _ _ | builtin _ | deferred _ | query _
  | raw _ | tag _ | response _ | bare _ | bareMarkup _ => rfl

/-- Alike values become the same response. -/
theorem ofValue_eq (alike : Value.Alike value other) :
    Response.ofValue value = Response.ofValue other := by
  -- A response is passed on, and any other value is rendered.
  have rendered := alike.render_eq
  cases alike with
  | response response => rfl
  | text _ | int _ | bool _ | list _ _ | record _ _ | closure _ _ | builtin _ | deferred _
  | query _ | raw _ | tag _ | tagWith _ _ _ | bare _ | bareMarkup _ =>
    simp only [Response.ofValue, rendered]

end Value.Alike

/-! Comparing alike values -/

/-- Two values are told from alike values in the same way by a comparison. -/
abbrev Value.Indistinct {α : Type} (compare : Value → Value → α) (one other : Value) : Prop :=
  ∀ {first second : Value}, Value.Alike first second → compare one first = compare other second

section Congruence

variable {items others more rest : List Value} {fields entries further last : Fields Value}

/-- Items that compare in the same way in turn do so as lists. -/
theorem Value.identicalAll_congr
    (same : List.Forall₂ (Value.Indistinct Value.identical) items others)
    (alike : List.Forall₂ Value.Alike more rest) :
    Value.identicalAll items more = Value.identicalAll others rest := by
  -- All four lists are walked in step, and one side may end before the other.
  induction same generalizing more rest with
  | nil => cases alike <;> rfl
  | cons here _ ih =>
    cases alike with
    | nil => rfl
    | cons there later => simp only [Value.identicalAll, here there, ih later]

/-- Fields that compare in the same way in turn do so as records. -/
theorem Value.identicalFields_congr
    (same : List.Forall₂ (fun field entry =>
      field.1 = entry.1 ∧ Value.Indistinct Value.identical field.2 entry.2) fields entries)
    (alike : Fields.Alike further last) :
    Value.identicalFields fields further = Value.identicalFields entries last := by
  -- The induction is on the first two lists of fields; the others are met in step.
  induction same generalizing further last with
  | nil => cases alike <;> rfl
  | cons here _ ih =>
    cases alike with
    | nil => rfl
    | cons there later =>
      simp only [Value.identicalFields, here.1, there.1, here.2 there.2, ih later]

/-- Items that are equal in the same way in turn are so as lists. -/
theorem Value.equalAll_congr (same : List.Forall₂ (Value.Indistinct Value.equal) items others)
    (alike : List.Forall₂ Value.Alike more rest) :
    Value.equalAll items more = Value.equalAll others rest := by
  -- The induction is on the first two lists of items; the others are met in step.
  induction same generalizing more rest with
  | nil => cases alike <;> rfl
  | cons here _ ih =>
    cases alike with
    | nil => rfl
    | cons there later => simp only [Value.equalAll, here there, ih later]

/-- Fields that are equal in the same way in turn are so as records. -/
theorem Value.equalFields_congr
    (same : List.Forall₂ (fun field entry =>
      field.1 = entry.1 ∧ Value.Indistinct Value.equal field.2 entry.2) fields entries)
    (alike : Fields.Alike further last) :
    Value.equalFields fields further = Value.equalFields entries last := by
  -- The induction follows the fields that are walked through; the other record is looked up by
  -- name, and stays as it is.
  induction same with
  | nil => rfl
  | @cons field entry _ _ here _ ih =>
    obtain ⟨name, value⟩ := field
    obtain ⟨same, found⟩ := entry
    obtain ⟨rfl, both⟩ := here
    have located := alike.get? name
    -- A name that is missing ends the comparison on both sides.
    simp only [Value.equalFields]
    generalize further.get? name = first at located ⊢
    generalize last.get? name = second at located ⊢
    cases located with
    | none => rfl
    | some there => simp only [both there, ih]

/-- Items that are ordered in the same way in turn are so as lists. -/
theorem Value.orderAll_congr (same : List.Forall₂ (Value.Indistinct Value.order) items others)
    (alike : List.Forall₂ Value.Alike more rest) :
    Value.orderAll items more = Value.orderAll others rest := by
  -- The induction follows the first lists; where the other lists end, the order is decided.
  induction same generalizing more rest with
  | nil => cases alike <;> rfl
  | cons here _ ih =>
    cases alike with
    | nil => rfl
    | cons there later => simp only [Value.orderAll, here there, ih later]

end Congruence

namespace Value.Alike

variable {value other first second : Value}

/-- Alike values are the same things as alike values. -/
theorem identical_eq (alike : Value.Alike value other) :
    Value.Indistinct Value.identical value other := by
  -- Parts are compared with parts; a function is compared by its identity alone.
  induction alike with
  | list length _ ih =>
    intro first second against
    cases against with
    | list same held =>
      exact Value.identicalAll_congr (List.forall₂_iff_zip.mpr ⟨length, fun member => ih _ member⟩)
        (List.forall₂_iff_zip.mpr ⟨same, fun member => held _ member⟩)
    | _ => rfl
  | record keys _ ih =>
    intro first second against
    cases against with
    | record same held =>
      exact Value.identicalFields_congr
        (Fields.forall₂_iff.mpr ⟨keys, fun pair member => ih pair member⟩)
        (Fields.Alike.ofKeys same held)
    | _ => rfl
  | tagWith name keys _ ih =>
    intro first second against
    cases against with
    | tagWith called same held =>
      simp only [Value.identical, Value.identicalFields_congr
        (Fields.forall₂_iff.mpr ⟨keys, fun pair member => ih pair member⟩)
        (Fields.Alike.ofKeys same held)]
    | _ => rfl
  | closure _ _ _ | text _ | int _ | bool _ | builtin _ | deferred _ | query _ | raw _ | tag _
  | response _ | bare _ | bareMarkup _ =>
    intro first second against
    cases against <;> rfl

/-- Alike values are equal to alike values, or not comparable with them, in the same way. -/
theorem equal_eq (alike : Value.Alike value other) : Value.Indistinct Value.equal value other := by
  -- The induction goes into lists and records, which are compared by their parts.
  induction alike with
  | list length _ ih =>
    intro first second against
    cases against with
    | list same held =>
      simp only [Value.equal, length, same, Value.equalAll_congr
        (List.forall₂_iff_zip.mpr ⟨length, fun member => ih _ member⟩)
        (List.forall₂_iff_zip.mpr ⟨same, fun member => held _ member⟩)]
    | _ => rfl
  | @record fields others keys _ ih =>
    intro first second against
    cases against with
    | @record further last same held =>
      have known : Value.sameKeys fields further = Value.sameKeys others last := by
        unfold Value.sameKeys
        rw [keys, same]
      simp only [Value.equal, known, Value.equalFields_congr
        (Fields.forall₂_iff.mpr ⟨keys, fun pair member => ih pair member⟩)
        (Fields.Alike.ofKeys same held)]
    | _ => rfl
  | tagWith name keys held _ =>
    -- Markup is compared part by part.
    intro first second against
    have identical := identical_eq (.tagWith name keys held) against
    cases against with
    | tagWith called same parts => simp only [Value.equal, identical]; rfl
    | _ => rfl
  | closure _ _ _ | text _ | int _ | bool _ | builtin _ | deferred _ | query _ | raw _ | tag _
  | response _ | bare _ | bareMarkup _ =>
    intro first second against
    cases against <;> rfl

/-- Alike values come before alike values, or after them, in the same way. -/
theorem order_eq (alike : Value.Alike value other) : Value.Indistinct Value.order value other := by
  -- Only lists have parts to compare, and their parts are alike in turn.
  induction alike with
  | list length _ ih =>
    intro first second against
    cases against with
    | list same held =>
      exact Value.orderAll_congr (List.forall₂_iff_zip.mpr ⟨length, fun member => ih _ member⟩)
        (List.forall₂_iff_zip.mpr ⟨same, fun member => held _ member⟩)
    | _ => rfl
  | record _ _ _ | tagWith _ _ _ _ | closure _ _ _ | text _ | int _ | bool _ | builtin _
  | deferred _ | query _ | raw _ | tag _ | response _ | bare _ | bareMarkup _ =>
    intro first second against
    cases against <;> rfl

/-- Operators have the same value at alike values. -/
theorem operate_eq (left : Value.Alike value other) (right : Value.Alike first second)
    (operator : Operator) : Eval.operate operator value first = Eval.operate operator other second := by
  -- Operands are read, compared or ordered, and nothing else is done with them.
  cases operator <;> simp only [Eval.operate, Eval.arithmetic, Eval.logic, Eval.ordered,
    left.equal_eq right, left.order_eq right, left.asInt_eq, right.asInt_eq, left.asBool_eq,
    right.asBool_eq]

end Value.Alike

end PageServer
