import PageServer.Equality
import PageServer.Proofs.Basic

/-!
The order of values, wherever two values have one.

Texts, numbers and truth values are ordered among themselves, and lists by their first difference. Other
values have no order, and neither have values of different kinds; but these may stand in ordered lists,
behind the place that decides. What is ordered one way is ordered the other way too, and what is ordered
along a chain is ordered at its ends.
-/

namespace PageServer

/-- Where two comparisons do not descend, the first of them that rises decides the third. -/
theorem compare_chain {α : Type} [Ord α] [Std.TransOrd α] {a b c : α}
    (first : (compare a b).isLE) (second : (compare b c).isLE) :
    compare a c = (compare a b).then (compare b c) := by
  -- Neither comparison descends, so each of them is a tie or rises.
  cases here : compare a b with
  | gt => simp [here] at first
  | lt =>
    cases there : compare b c with
    | gt => simp [there] at second
    | lt => exact Std.TransCmp.lt_trans here there
    | eq => exact Std.TransCmp.lt_of_lt_of_eq here there
  | eq =>
    cases there : compare b c with
    | gt => simp [there] at second
    | lt => exact Std.TransCmp.lt_of_eq_of_lt here there
    | eq => exact Std.TransCmp.eq_trans here there

namespace Value

/-- Values that have an order are of one kind, and of one of four kinds. -/
theorem order_cases {a b : Value} {found : Ordering} (ordered : a.order b = .ok found) :
    (∃ x y, a = .text x ∧ b = .text y ∧ compare x y = found) ∨
    (∃ x y, a = .int x ∧ b = .int y ∧ compare x y = found) ∨
    (∃ x y, a = .bool x ∧ b = .bool y ∧ compare x y = found) ∨
    ∃ as bs, a = .list as ∧ b = .list bs ∧ orderAll as bs = .ok found := by
  -- The last case of the definition is the refusal.
  unfold order at ordered
  split at ordered
  · exact .inl ⟨_, _, rfl, rfl, Except.ok.inj ordered⟩
  · exact .inr (.inl ⟨_, _, rfl, rfl, Except.ok.inj ordered⟩)
  · exact .inr (.inr (.inl ⟨_, _, rfl, rfl, Except.ok.inj ordered⟩))
  · exact .inr (.inr (.inr ⟨_, _, rfl, rfl, ordered⟩))
  · cases ordered

/-- The first items of two lists decide, unless they tie; then the rest does. -/
theorem orderAll_cons {a b : Value} {as bs : List Value} {found : Ordering} :
    orderAll (a :: as) (b :: bs) = .ok found ↔
      (a.order b = .ok .eq ∧ orderAll as bs = .ok found) ∨ (a.order b = .ok found ∧ found ≠ .eq) := by
  -- The first items are compared in any case, and a difference between them is final.
  simp only [orderAll, bind_eq_ok]
  constructor
  -- A difference at the first items ends the comparison.
  · rintro ⟨first, here, decided⟩
    cases first with
    | eq => exact .inl ⟨here, decided⟩
    | lt | gt =>
      cases decided
      exact .inr ⟨here, nofun⟩
  · rintro (⟨tie, later⟩ | ⟨here, decides⟩)
    · exact ⟨.eq, tie, later⟩
    · refine ⟨found, here, ?_⟩
      cases found with
      | eq => exact absurd rfl decides
      | lt | gt => rfl

/-- Values of no common kind among the four have no order. -/
theorem order_ne_ok {a b : Value} (texts : ∀ x y, a = .text x → b = .text y → False)
    (numbers : ∀ x y, a = .int x → b = .int y → False)
    (truths : ∀ x y, a = .bool x → b = .bool y → False)
    (lists : ∀ as bs, a = .list as → b = .list bs → False) (found : Ordering) :
    a.order b ≠ .ok found := by
  -- An order is there only between two values of one of these four kinds.
  intro ordered
  rcases order_cases ordered with ⟨x, y, left, right, _⟩ | ⟨x, y, left, right, _⟩ |
    ⟨x, y, left, right, _⟩ | ⟨as, bs, left, right, _⟩
  · exact texts x y left right
  · exact numbers x y left right
  · exact truths x y left right
  · exact lists as bs left right

/-- What is ordered one way is ordered the other way. -/
theorem order_swap {a b : Value} {found : Ordering} (ordered : a.order b = .ok found) :
    b.order a = .ok found.swap := by
  -- The induction is that of the order itself: values, and lists of them.
  suffices all : (∀ a b : Value, ∀ found, a.order b = .ok found → b.order a = .ok found.swap) ∧
      ∀ as bs : List Value, ∀ found, orderAll as bs = .ok found → orderAll bs as = .ok found.swap from
    all.1 a b found ordered
  apply Value.order.mutual_induct
  -- Atoms of one kind are compared as such, and that comparison turns around.
  case case1 | case2 | case3 =>
    intro a b found ordered
    simp only [order, Except.ok.injEq] at ordered ⊢
    rw [← ordered]
    exact Std.OrientedCmp.eq_swap
  case case4 =>
    intro as bs items found ordered
    simp only [order] at ordered ⊢
    exact items found ordered
  -- Kinds that are not comparable have no order to turn around.
  case case5 =>
    intro a b texts numbers truths lists found ordered
    exact absurd ordered (order_ne_ok texts numbers truths lists found)
  -- Lists that end together tie, and else the shorter one comes first.
  case case6 =>
    intro found ordered
    cases ordered
    rfl
  case case7 | case8 =>
    intro first rest found ordered
    cases ordered
    rfl
  case case9 =>
    -- The items tie in both directions, or differ in both.
    intro a as b bs here later found ordered
    rcases orderAll_cons.mp ordered with ⟨tie, rest⟩ | ⟨decided, differs⟩
    · exact orderAll_cons.mpr (.inl ⟨here .eq tie, later found rest⟩)
    · exact orderAll_cons.mpr (.inr ⟨here found decided, by simpa using differs⟩)

/--
Along a chain that does not descend, the ends are ordered.

They are so even where one of the three lists could not be compared any further.
-/
theorem order_chain {a b c : Value} {found next : Ordering} (first : a.order b = .ok found)
    (second : b.order c = .ok next) (below : found.isLE) (under : next.isLE) :
    a.order c = .ok (found.then next) := by
  -- The induction follows the first comparison, with any third value behind it.
  suffices all : (∀ a b : Value, ∀ c found next, a.order b = .ok found → b.order c = .ok next →
        found.isLE → next.isLE → a.order c = .ok (found.then next)) ∧
      ∀ as bs : List Value, ∀ cs found next, orderAll as bs = .ok found → orderAll bs cs = .ok next →
        found.isLE → next.isLE → orderAll as cs = .ok (found.then next) from
    all.1 a b c found next first second below under
  apply Value.order.mutual_induct
  case case1 | case2 | case3 =>
    -- The third value is of the same kind as the second.
    intro a b c found next first second below under
    obtain ⟨_, _, same, rfl, rfl⟩ | ⟨_, _, same, rfl, rfl⟩ | ⟨_, _, same, rfl, rfl⟩ |
      ⟨_, _, same, rfl, _⟩ := order_cases second <;> cases same
    simp only [order, Except.ok.injEq] at first ⊢
    subst first
    exact compare_chain below under
  -- Lists are compared item by item, and the third value is a list, too.
  case case4 =>
    intro as bs items c found next first second below under
    obtain ⟨_, _, same, _⟩ | ⟨_, _, same, _⟩ | ⟨_, _, same, _⟩ | ⟨_, cs, same, rfl, later⟩ :=
      order_cases second <;> cases same
    simp only [order] at first ⊢
    exact items cs found next first later below under
  case case5 =>
    intro a b texts numbers truths lists c found next first
    exact absurd first (order_ne_ok texts numbers truths lists found)
  case case6 =>
    intro cs found next first second _ _
    cases first
    exact second
  case case7 =>
    -- The first list ends before the second, and so before the third.
    intro b bs cs found next first second _ under
    cases first
    cases cs with
    | nil =>
      cases second
      simp at under
    | cons c cs => rfl
  -- The first list is longer than the second, against what is given.
  case case8 =>
    intro a as cs found next first _ below
    cases first
    simp at below
  case case9 =>
    intro a as b bs here later cs found next first second below under
    cases cs with
    | nil =>
      cases second
      simp at under
    | cons c cs =>
      -- Each of the two comparisons is decided at these items, or ties there and goes on.
      rcases orderAll_cons.mp first with ⟨tie, rest⟩ | ⟨decided, differs⟩
      · rcases orderAll_cons.mp second with ⟨alsoTie, others⟩ | ⟨alsoDecided, alsoDiffers⟩
        · have ends := here c .eq .eq tie alsoTie rfl rfl
          exact orderAll_cons.mpr (.inl ⟨ends, later cs found next rest others below under⟩)
        · obtain rfl := (Ordering.isLE_iff_eq_lt_or_eq_eq.mp under).resolve_right alsoDiffers
          have ends := here c .eq .lt tie alsoDecided rfl rfl
          have whole : found.then .lt = .lt := by
            rw [Ordering.then_eq_lt]
            simpa using Ordering.isLE_iff_eq_lt_or_eq_eq.mp below
          rw [whole]
          exact orderAll_cons.mpr (.inr ⟨ends, nofun⟩)
      · obtain rfl := (Ordering.isLE_iff_eq_lt_or_eq_eq.mp below).resolve_right differs
        rcases orderAll_cons.mp second with ⟨tie, _⟩ | ⟨alsoDecided, _⟩
        · exact orderAll_cons.mpr (.inr ⟨here c .lt .eq decided tie rfl rfl, nofun⟩)
        · exact orderAll_cons.mpr (.inr ⟨here c .lt next decided alsoDecided rfl under, nofun⟩)

/--
The order of values is total wherever it is defined.

Two values are ordered both ways or neither way, and then in opposite ways. Along a chain that does not
descend the ends are ordered and do not descend, and they tie exactly if both links do.
-/
theorem order_total_where_defined (a b c : Value) :
    (∀ found, a.order b = .ok found ↔ b.order a = .ok found.swap) ∧
    ∀ found next, a.order b = .ok found → b.order c = .ok next → found.isLE → next.isLE →
      ∃ ends, a.order c = .ok ends ∧ ends.isLE ∧ (ends = .eq ↔ found = .eq ∧ next = .eq) := by
  -- Turning an order around twice gives it back.
  refine ⟨fun found => ⟨order_swap, fun ordered => ?_⟩, ?_⟩
  · simpa using order_swap ordered
  · intro found next first second below under
    refine ⟨found.then next, order_chain first second below under, ?_, Ordering.then_eq_eq⟩
    exact Ordering.isLE_then_iff_and.mpr ⟨below, .inr under⟩

/-- A chain of lists whose ends differ in kind where neither is looked at. -/
theorem order_total_where_defined_mixed :
    (Value.list [.int 1, .text "a"]).order (.list [.int 2]) = .ok .lt ∧
      (Value.list [.int 2]).order (.list [.int 2, .bool true]) = .ok .lt ∧
      ∃ ends, (Value.list [.int 1, .text "a"]).order (.list [.int 2, .bool true]) = .ok ends ∧
        ends.isLE ∧ (ends = .eq ↔ Ordering.lt = .eq ∧ Ordering.lt = .eq) := by
  have first : (Value.list [.int 1, .text "a"]).order (.list [.int 2]) = .ok .lt := by rfl
  have second : (Value.list [.int 2]).order (.list [.int 2, .bool true]) = .ok .lt := by rfl
  exact ⟨first, second, (order_total_where_defined _ _ _).2 .lt .lt first second rfl rfl⟩

end Value

end PageServer
