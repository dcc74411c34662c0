import PageServer.Proofs.Atom
import PageServer.Proofs.Equality
import PageServer.Proofs.Indistinct
import PageServer.Proofs.Ordering
import PageServer.Proofs.Rendering

/-!
Equality agrees with the order of values and with their markup.

Lists are compared in three ways: equality looks at their lengths first, the order does so last, and
rendering goes through all items. Where two values are ordered they are equal exactly if they tie, and
where they are equal they cannot be told apart on a page.
-/

namespace PageServer

/-- Things are the same exactly if they tie, where the order tells all of them apart. -/
theorem beq_eq_compare {α : Type} [BEq α] [LawfulBEq α] [Ord α] [Std.LawfulEqOrd α] (a b : α) :
    (a == b) = (compare a b == .eq) := by
  rw [Bool.eq_iff_iff, beq_iff_eq, beq_iff_eq, Std.LawfulEqOrd.compare_eq_iff_eq]

namespace Value

/-! Equality and order -/

/-- Lists with equal first items are as equal as the rest of them. -/
theorem equal_cons_of_equal {a b : Value} (here : a.equal b = .ok true) (as bs : List Value) :
    equal (.list (a :: as)) (.list (b :: bs)) = equal (.list as) (.list bs) := by
  -- The first items decide nothing, so what is left is to compare the others.
  simp [equal, equalAll, here, Bind.bind, Except.bind]

/-- Lists with unequal first items are unequal, whatever follows. -/
theorem equal_cons_of_unequal {a b : Value} (here : a.equal b = .ok false) (as bs : List Value) :
    equal (.list (a :: as)) (.list (b :: bs)) = .ok false := by
  -- `all` stops at the first pair that is not equal, so later faults do not show.
  simp [equal, equalAll, here, Bind.bind, Except.bind, Pure.pure, Except.pure]

/-- Where two values are ordered, they can be compared, and are equal exactly if they tie. -/
theorem equal_of_order {a b : Value} {found : Ordering} (ordered : a.order b = .ok found) :
    a.equal b = .ok (found == .eq) := by
  -- The induction is that of the order: values, and lists of them.
  suffices all : (∀ a b : Value, ∀ found, a.order b = .ok found → a.equal b = .ok (found == .eq)) ∧
      ∀ as bs : List Value, ∀ found, orderAll as bs = .ok found →
        equal (.list as) (.list bs) = .ok (found == .eq) from all.1 a b found ordered
  apply Value.order.mutual_induct
  case case1 | case2 | case3 =>
    intro a b found ordered
    simp only [order, Except.ok.injEq] at ordered
    rw [equal, beq_eq_compare, ordered]
  case case4 =>
    intro as bs items found ordered
    simp only [order] at ordered
    exact items found ordered
  case case5 =>
    intro a b texts numbers truths lists found ordered
    exact absurd ordered (order_ne_ok texts numbers truths lists found)
  case case6 =>
    intro found ordered
    cases ordered
    rfl
  case case7 | case8 =>
    -- The order notices only now that one list is longer, and equality has done so at once.
    intro first rest found ordered
    cases ordered
    simp [equal]
  case case9 =>
    intro a as b bs here later found ordered
    rcases orderAll_cons.mp ordered with ⟨tie, rest⟩ | ⟨decided, differs⟩
    · rw [equal_cons_of_equal (here .eq tie)]
      exact later found rest
    · -- Behind a difference there may be items that cannot be compared, but none is looked at.
      have unequal : (found == .eq) = false := by simpa using differs
      have first : a.equal b = .ok false := by rw [here found decided, unequal]
      rw [equal_cons_of_unequal first, unequal]

/-- Items that tie in turn make lists that tie. -/
theorem orderAll_of_ties {as bs : List Value}
    (ties : List.Forall₂ (fun a b => a.order b = .ok .eq) as bs) : orderAll as bs = .ok .eq := by
  -- Each tie hands the decision on to the next pair; the induction is on the pairs.
  induction ties with
  | nil => rfl
  | cons here _ later => exact orderAll_cons.mpr (.inl ⟨here, later⟩)

/-- An atom ties with what it is equal to. -/
theorem order_of_equal_atom {a b : Value} {type : Ty.Storable} (atom : IsAtom type a)
    (equal : Equal a b) : a.order b = .ok .eq := by
  -- An atom is no list and no record, so equality goes by identity.
  have noList : ∀ items, a ≠ .list items := by
    rintro items rfl
    cases atom
  have noRecord : ∀ fields, a ≠ .record fields := by
    rintro fields rfl
    cases atom
  have same := identical_iff.mp (identical_of_equal noList noRecord equal).2.2
  -- An atom is the same thing only as itself.
  cases same with
  | itself =>
    cases atom <;> simp only [order, Except.ok.injEq] <;> exact Std.ReflOrd.compare_self
  | identity | query | items | fields | attributes => cases atom

/-- Equal values tie, if they are made of atoms and lists only. -/
theorem order_of_equal {a b : Value} (atoms : ∀ leaf ∈ a.leaves, ∃ type, IsAtom type leaf)
    (equal : Equal a b) : a.order b = .ok .eq := by
  -- A value is a list of smaller ones, or its own only leaf.
  induction a using byParts generalizing b with
  | step a ih =>
    cases a with
    | list items =>
      obtain ⟨others, rfl, both⟩ := equal_list_iff.mp equal
      simp only [leaves, leavesAll_eq, List.forall_mem_flatMap] at atoms
      rw [order]
      apply orderAll_of_ties
      rw [List.forall₂_iff_zip] at both ⊢
      refine ⟨both.1, fun {item other} member => ?_⟩
      have inside := (List.of_mem_zip member).1
      exact ih item inside (atoms item inside) (both.2 member)
    | _ =>
      obtain ⟨type, atom⟩ := atoms _ (List.mem_singleton.mpr rfl)
      exact order_of_equal_atom atom equal

/-! Equality and markup -/

/-- Things that are the same have the same text as attributes. -/
theorem attributeText_of_identical {a b : Value} (same : Identical a b) :
    Markup.attributeText a = Markup.attributeText b := by
  -- Where they may differ inside, they have no text, and are refused as things of one kind.
  cases identical_iff.mp same <;> rfl

/-- Things that are the same render as the same markup, unless they are lists. -/
theorem render_of_identical {a b : Value} (noList : ∀ items, a ≠ .list items)
    (same : Identical a b) : Markup.render a = Markup.render b := by
  cases identical_iff.mp same with
  | items => exact absurd rfl (noList _)
  | attributes both =>
    simp only [Markup.render]
    exact Markup.element_congr
      (both.imp fun _ _ held => ⟨held.1, attributeText_of_identical held.2⟩) _ ""
  | itself | identity | query | fields => rfl

/-- Equal values render as the same markup, or have the same fault. -/
theorem render_of_equal {a b : Value} (equal : Equal a b) : Markup.render a = Markup.render b := by
  induction a using byParts generalizing b with
  | step a ih =>
    cases a with
    -- Lists render item by item, and the items are equal in turn.
    | list items =>
      obtain ⟨others, rfl, both⟩ := equal_list_iff.mp equal
      simp only [Markup.render]
      apply Markup.renderAll_congr
      rw [List.forall₂_iff_zip] at both ⊢
      exact ⟨both.1, fun {item other} member => ih item (List.of_mem_zip member).1 (both.2 member)⟩
    | record fields =>
      -- Fields in another order are no difference: no record has markup.
      obtain ⟨others, rfl, _⟩ := equal_record_iff.mp equal
      rfl
    | _ =>
      -- Anything else is equal only to what is the same thing, so it prints the same.
      exact render_of_identical (by simp) (identical_of_equal (by simp) (by simp) equal).2.2

/-! The operators of the language -/

/-- Where two values are ordered, the operators that compare them ask for one of three answers. -/
theorem operate_of_order {a b : Value} {found : Ordering} (ordered : a.order b = .ok found) :
    Eval.operate .lt a b = .ok (.bool (found == .lt)) ∧
      Eval.operate .eq a b = .ok (.bool (found == .eq)) ∧
      Eval.operate .gt a b = .ok (.bool (found == .gt)) := by
  -- All three operators go through one comparison, whose result is known.
  simp [Eval.operate, Eval.ordered, ordered, equal_of_order ordered, Bind.bind, Except.bind,
    Pure.pure, Except.pure]

/--
Equality agrees with the order of values and with their markup.

Values that are ordered are equal exactly if they tie, so that one of them comes first, or they are equal.
Equal values tie if they are made of texts, numbers, truth values and lists, and all equal values render
as the same markup or have the same fault.
-/
theorem equal_agrees (a b : Value) :
    (∀ found, a.order b = .ok found →
      a.equal b = .ok (found == .eq) ∧
      ∃ below same above, Eval.operate .lt a b = .ok (.bool below) ∧
        Eval.operate .eq a b = .ok (.bool same) ∧ Eval.operate .gt a b = .ok (.bool above) ∧
        [below, same, above].count true = 1) ∧
    ((∀ leaf ∈ a.leaves, ∃ type, IsAtom type leaf) → a.equal b = .ok true →
      a.order b = .ok .eq) ∧
    (a.equal b = .ok true → Markup.render a = Markup.render b) := by
  -- The second and third parts are the lemmas above; the first one needs the count.
  refine ⟨fun found ordered => ⟨equal_of_order ordered, ?_⟩, order_of_equal, render_of_equal⟩
  obtain ⟨below, same, above⟩ := operate_of_order ordered
  refine ⟨_, _, _, below, same, above, ?_⟩
  -- An order is one of three things.
  cases found <;> rfl

/-- Lists that differ in kind behind the place that decides, and elements that are equal. -/
theorem equal_agrees_mixed :
    (Value.list [.int 1, .text "a"]).order (.list [.int 2, .bool true]) = .ok .lt ∧
      (Value.list [.int 1, .text "a"]).equal (.list [.int 2, .bool true]) = .ok false ∧
      (Value.list [.text "a", .list [.bool true]]).equal (.list [.text "a", .list [.bool true]]) =
        .ok true ∧
      (Value.list [.text "a", .list [.bool true]]).order (.list [.text "a", .list [.bool true]]) =
        .ok .eq ∧
      guest.equal guestTurned = .ok true ∧ Markup.render guest = Markup.render guestTurned := by
  -- The first pair decides, so the kinds behind it are never compared.
  have ordered : (Value.list [.int 1, .text "a"]).order (.list [.int 2, .bool true]) = .ok .lt := rfl
  have same : (Value.list [.text "a", .list [.bool true]]).equal
      (.list [.text "a", .list [.bool true]]) = .ok true := rfl
  -- The elements name their attributes in another order.
  have turned : guest.equal guestTurned = .ok true := rfl
  have atoms : ∀ leaf ∈ (Value.list [.text "a", .list [.bool true]]).leaves,
      ∃ type, IsAtom type leaf := by
    intro leaf member
    rcases List.mem_pair.mp member with rfl | rfl
    · exact ⟨_, .text "a"⟩
    · exact ⟨_, .bool true⟩
  obtain ⟨first, _, _⟩ := equal_agrees (.list [.int 1, .text "a"]) (.list [.int 2, .bool true])
  obtain ⟨_, tie, _⟩ := equal_agrees (.list [.text "a", .list [.bool true]])
    (.list [.text "a", .list [.bool true]])
  obtain ⟨_, _, rendered⟩ := equal_agrees guest guestTurned
  exact ⟨ordered, (first .lt ordered).1, same, tie atoms same, turned, rendered turned⟩

end Value

end PageServer
