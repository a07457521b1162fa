import DocShape.Tree.Cursor
import DocShape.Proofs.Places

/-!
# Innermost nodes

Spans obey no law: they may overlap, touch, end before they start, or leave the node they stand in. So
a query at an offset goes down only through nodes that cover it. A node is reached if it and all that it
stands in cover the offset (`Node.Reaches`).

On every tree, the query for a node gives one that is reached and has no value or item that is, and the
query for what is expected gives the slot of a node that is reached and filled, with nothing filled
reached below it (`innermost_on_every_tree`). Both take the first answer among the values and items of a
node (`Node.innermost?_eq`, `Node.expectedUnder?_eq`), but they need not go the same way: the first value
may cover the offset and have nothing filled. Where no node has two values or items that cover the
offset there is one way only, and what is expected is found on it, in the nearest slot that is filled.
-/

namespace DocShape

/-- Where one element alone meets a condition, and no other has an answer, the first answer is that of
the one. -/
theorem findSome?_eq_of_alone {α β : Type} {P : α → Prop} {f : α → Option β} {xs : List α} {x : α}
    (halone : xs.Pairwise fun y z => ¬ (P y ∧ P z)) (hnone : ∀ y ∈ xs, ¬ P y → f y = none)
    (hx : x ∈ xs) (hP : P x) : xs.findSome? f = f x := by
  induction xs with
  | nil => cases hx
  | cons y ys ih =>
    obtain ⟨hhead, htail⟩ := List.pairwise_cons.mp halone
    have hnone' : ∀ z ∈ ys, ¬ P z → f z = none := fun z hz => hnone z (List.mem_cons_of_mem y hz)
    rw [List.findSome?_cons]
    rcases List.mem_cons.mp hx with rfl | hx
    · have hrest : ys.findSome? f = none := by
        rw [List.findSome?_eq_none_iff]
        intro z hz
        exact hnone' z hz fun hPz => hhead z hz ⟨hP, hPz⟩
      cases hanswer : f x <;> simp [hrest]
    · have hy : f y = none := hnone y List.mem_cons_self fun hPy => hhead x hx ⟨hPy, hP⟩
      rw [hy]
      exact ih htail hnone' hx

namespace Node

/-! ### Values -/

/-- The nodes that stand in a node: the values of an object's members, or the items of an array. -/
def values (t : Node) : List Node :=
  match t.body with
  | .object members => members.filterMap (·.value)
  | .array items => items
  | _ => []

/-- The value of a member stands in the object. -/
theorem mem_values_of_members {span : Span} {expectation : Option (List Expectation)} {u : Node}
    {members : List (Member Node)} {m : Member Node} (hm : m ∈ members) (hu : m.value = some u) :
    u ∈ (⟨span, expectation, .object members⟩ : Node).values :=
  List.mem_filterMap.mpr ⟨m, hm, hu⟩

/-- They are the nodes one step down. -/
theorem mem_values_iff {t u : Node} : u ∈ t.values ↔ ∃ step, t.child? step = some u := by
  constructor
  · intro hu
    obtain ⟨span, expectation, body⟩ := t
    cases body with
    | object members =>
      obtain ⟨m, hm, hvalue⟩ := List.mem_filterMap.mp hu
      exact child?_of_mem_members rfl hm hvalue
    | array items => exact child?_of_mem_items rfl hu
    | string _ | number _ | boolean _ | null => cases hu
  · rintro ⟨step, hstep⟩
    rcases mem_of_child? hstep with ⟨members, hmembers, m, hm, hvalue⟩ | ⟨items, hitems, hu⟩
    · obtain ⟨span, expectation, body⟩ := t
      cases body with
      | object members' =>
        cases hmembers
        exact mem_values_of_members hm hvalue
      | array _ | string _ | number _ | boolean _ | null => cases hmembers
    · obtain ⟨span, expectation, body⟩ := t
      cases body with
      | array items' =>
        cases hitems
        exact hu
      | object _ | string _ | number _ | boolean _ | null => cases hitems

theorem holds_of_mem_values {t u : Node} (h : u ∈ t.values) : t.Holds u := by
  obtain ⟨step, hstep⟩ := mem_values_iff.mp h
  exact holds_child hstep

/-- What holds of a node as soon as it holds of the nodes in it holds of every node. -/
theorem induction_values {motive : Node → Prop}
    (step : ∀ t : Node, (∀ u ∈ t.values, motive u) → motive t) (t : Node) : motive t := by
  induction t using Node.induction with
  | object span expectation members ih =>
    apply step
    intro u hu
    obtain ⟨m, hm, hvalue⟩ := List.mem_filterMap.mp hu
    exact ih m hm u hvalue
  | array span expectation items ih => exact step _ ih
  | leaf t hmembers hitems =>
    apply step
    intro u hu
    obtain ⟨_, hstep⟩ := mem_values_iff.mp hu
    rcases mem_of_child? hstep with ⟨members, h, -⟩ | ⟨items, h, -⟩
    · cases hmembers.symm.trans h
    · cases hitems.symm.trans h

/-! ### Queries, one level unfolded -/

section First

variable {β : Type} {answer : Node → Option β}

/-- A function that goes through items for the first answer. -/
theorem eq_findSome?_of_items {first : List Node → Option β} (hnil : first [] = none)
    (hcons : ∀ u items, first (u :: items) = (answer u).or (first items)) (items : List Node) :
    first items = items.findSome? answer := by
  induction items with
  | nil => exact hnil
  | cons u items ih =>
    rw [hcons, ih, List.findSome?_cons]
    cases answer u <;> rfl

/-- A function that goes through the values of members for the first answer. -/
theorem eq_findSome?_of_members {first : List (Member Node) → Option β} (hnil : first [] = none)
    (hnone : ∀ key members, first (⟨key, none⟩ :: members) = first members)
    (hsome : ∀ key u members, first (⟨key, some u⟩ :: members) = (answer u).or (first members))
    (members : List (Member Node)) :
    first members = (members.filterMap (·.value)).findSome? answer := by
  induction members with
  | nil => exact hnil
  | cons m members ih =>
    obtain ⟨key, _ | u⟩ := m
    · rw [hnone, ih]
      rfl
    · rw [hsome, ih]
      show _ = (u :: members.filterMap (·.value)).findSome? answer
      rw [List.findSome?_cons]
      cases answer u <;> rfl

end First

section Level

variable (offset : Nat) (t : Node)

/-- A node that covers the offset has the first answer of the nodes in it, or answers with itself. -/
theorem innermost?_eq : t.innermost? offset =
    if t.span.Covers offset then some ((t.values.findSome? (innermost? offset)).getD t) else none := by
  obtain ⟨span, expectation, body⟩ := t
  cases body with
  | object members =>
    have hfirst : innermostOfMembers? offset members =
        (members.filterMap (·.value)).findSome? (innermost? offset) :=
      eq_findSome?_of_members rfl (fun _ _ => rfl) (fun _ _ _ => rfl) members
    rw [innermost?, hfirst]
    rfl
  | array items =>
    have hfirst : innermostOfItems? offset items = items.findSome? (innermost? offset) :=
      eq_findSome?_of_items rfl (fun _ _ => rfl) items
    rw [innermost?, hfirst]
    rfl
  | string _ | number _ | boolean _ | null => rfl

/-- A node that covers the offset has the first answer of the nodes in it, or answers with its own
slot. -/
theorem expectedUnder?_eq : t.expectedUnder? offset =
    if t.span.Covers offset then (t.values.findSome? (expectedUnder? offset)).or t.expectation
    else none := by
  obtain ⟨span, expectation, body⟩ := t
  cases body with
  | object members =>
    have hfirst : expectedUnderMembers? offset members =
        (members.filterMap (·.value)).findSome? (expectedUnder? offset) :=
      eq_findSome?_of_members rfl (fun _ _ => rfl) (fun _ _ _ => rfl) members
    rw [expectedUnder?, hfirst]
    rfl
  | array items =>
    have hfirst : expectedUnderItems? offset items = items.findSome? (expectedUnder? offset) :=
      eq_findSome?_of_items rfl (fun _ _ => rfl) items
    rw [expectedUnder?, hfirst]
    rfl
  | string _ | number _ | boolean _ | null => rfl

end Level

/-! ### Reached nodes -/

/-- A node of a tree is reached at an offset if it covers the offset and so do all nodes that it stands
in, which are listed from the root down. -/
inductive Reaches (offset : Nat) : Node → List Node → Node → Prop
  /-- The root is reached if it covers the offset. -/
  | root {t : Node} (h : t.span.Covers offset) : Reaches offset t [] t
  /-- What is reached from a node in the root is reached if the root is. -/
  | inside {t u v : Node} {above : List Node} (h : t.span.Covers offset) (hu : u ∈ t.values)
    (hv : Reaches offset u above v) : Reaches offset t (t :: above) v

variable {offset : Nat} {t u v : Node} {above : List Node}

/-- Nothing is reached from a root that does not cover the offset. -/
theorem Reaches.covers (h : t.Reaches offset above u) : t.span.Covers offset := by
  cases h with
  | root h | inside h _ _ => exact h

/-- There is an answer where the root covers the offset. -/
theorem innermost?_eq_none_iff : t.innermost? offset = none ↔ ¬ t.span.Covers offset := by
  rw [innermost?_eq]
  by_cases h : t.span.Covers offset <;> simp [h]

theorem expectedUnder?_of_not_covers (h : ¬ t.span.Covers offset) :
    t.expectedUnder? offset = none := by
  rw [expectedUnder?_eq, if_neg h]

/-- The answer is reached, and none of the nodes in it covers the offset. -/
theorem reaches_of_innermost? (h : t.innermost? offset = some u) :
    ∃ above, t.Reaches offset above u ∧ ∀ v ∈ u.values, ¬ v.span.Covers offset := by
  induction t using induction_values with
  | step t ih =>
    by_cases hcovers : t.span.Covers offset
    · rw [innermost?_eq, if_pos hcovers, Option.some.injEq] at h
      cases hfirst : t.values.findSome? (innermost? offset) with
      | none =>
        rw [hfirst, Option.getD_none] at h
        subst h
        refine ⟨[], .root hcovers, fun v hv => ?_⟩
        exact innermost?_eq_none_iff.mp (List.findSome?_eq_none_iff.mp hfirst v hv)
      | some w =>
        rw [hfirst, Option.getD_some] at h
        subst h
        obtain ⟨v, hv, hanswer⟩ := List.exists_of_findSome?_eq_some hfirst
        obtain ⟨above, hreaches, hnone⟩ := ih v hv hanswer
        exact ⟨t :: above, .inside hcovers hv hreaches, hnone⟩
    · rw [innermost?_eq_none_iff.mpr hcovers] at h
      cases h

/-- Without an answer for what is expected, nothing is reached that is filled. -/
theorem expectation_of_reaches (h : t.expectedUnder? offset = none)
    (hu : t.Reaches offset above u) : u.expectation = none := by
  induction hu with
  | root hcovers =>
    rw [expectedUnder?_eq, if_pos hcovers, Option.or_eq_none_iff] at h
    exact h.2
  | inside hcovers hmem _ ih =>
    rw [expectedUnder?_eq, if_pos hcovers, Option.or_eq_none_iff] at h
    exact ih (List.findSome?_eq_none_iff.mp h.1 _ hmem)

/-- The answer for what is expected is the slot of a node that is reached, and below that node nothing
is reached that is filled. -/
theorem reaches_of_expectedUnder? {expected : List Expectation}
    (h : t.expectedUnder? offset = some expected) :
    ∃ above u, t.Reaches offset above u ∧ u.expectation = some expected ∧
      ∀ w ∈ u.values, ∀ between v, w.Reaches offset between v → v.expectation = none := by
  induction t using induction_values with
  | step t ih =>
    by_cases hcovers : t.span.Covers offset
    · rw [expectedUnder?_eq, if_pos hcovers] at h
      cases hfirst : t.values.findSome? (expectedUnder? offset) with
      | none =>
        rw [hfirst, Option.none_or] at h
        refine ⟨[], t, .root hcovers, h, fun w hw between v hv => ?_⟩
        exact expectation_of_reaches (List.findSome?_eq_none_iff.mp hfirst w hw) hv
      | some found =>
        rw [hfirst, Option.some_or, Option.some.injEq] at h
        subst h
        obtain ⟨w, hw, hanswer⟩ := List.exists_of_findSome?_eq_some hfirst
        obtain ⟨above, u, hreaches, hbelow⟩ := ih w hw hanswer
        exact ⟨t :: above, u, .inside hcovers hw hreaches, hbelow⟩
    · rw [expectedUnder?_of_not_covers hcovers] at h
      cases h

/-! ### Trees with one way down -/

/-- No node of a tree has two values or items that cover an offset. -/
def OneWay (offset : Nat) (t : Node) : Prop :=
  ∀ u, t.Holds u → u.values.Pairwise fun v w => ¬ (v.span.Covers offset ∧ w.span.Covers offset)

theorem OneWay.of_holds (h : t.OneWay offset) (hu : t.Holds u) : u.OneWay offset :=
  fun v hv => h v (hu.trans hv)

/-- On the one way down, what is expected at the node that is reached last is in the nearest slot that is
filled. -/
theorem OneWay.expectedUnder?_eq (h : t.OneWay offset) (hu : t.Reaches offset above u)
    (hlast : ∀ v ∈ u.values, ¬ v.span.Covers offset) :
    t.expectedUnder? offset = (above ++ [u]).reverse.findSome? (·.expectation) := by
  induction hu with
  | @root t hcovers =>
    have hnone : t.values.findSome? (expectedUnder? offset) = none := by
      rw [List.findSome?_eq_none_iff]
      intro v hv
      exact expectedUnder?_of_not_covers (hlast v hv)
    rw [Node.expectedUnder?_eq, if_pos hcovers, hnone]
    simp
  | @inside t w v above hcovers hw hv ih =>
    have hinside := ih (h.of_holds (holds_of_mem_values hw)) hlast
    have hfirst : t.values.findSome? (expectedUnder? offset) =
        (above ++ [v]).reverse.findSome? (·.expectation) := by
      rw [findSome?_eq_of_alone (h t (Holds.refl t)) (fun u _ => expectedUnder?_of_not_covers) hw
        hv.covers, hinside]
    rw [Node.expectedUnder?_eq, if_pos hcovers, hfirst, List.cons_append, List.reverse_cons,
      List.findSome?_append, List.findSome?_singleton]

/-- **Queries are innermost** on every tree, whatever its spans. There is a node at an offset exactly if
the root is reached, and then it is one that is reached while no value or item in it covers the offset.
Something is expected there exactly if a node is reached whose slot is filled, and then it is in the slot
of such a node, below which none is reached that is filled. Where no node has two values or items that
cover the offset, what is expected is in the nearest slot that is filled, of the node there or of those
that it stands in. -/
theorem innermost_of_reached (offset : Nat) (t : Node) :
    (t.innermost? offset = none ↔ ¬ t.Reaches offset [] t) ∧
    (∀ u, t.innermost? offset = some u →
      ∃ above, t.Reaches offset above u ∧ ∀ v ∈ u.values, ¬ v.span.Covers offset) ∧
    ((t.expectedUnder? offset).isSome ↔
      ∃ above u, t.Reaches offset above u ∧ u.expectation.isSome) ∧
    (∀ expected, t.expectedUnder? offset = some expected →
      ∃ above u, t.Reaches offset above u ∧ u.expectation = some expected ∧
        ∀ w ∈ u.values, ∀ between v, w.Reaches offset between v → v.expectation = none) ∧
    (t.OneWay offset → ∀ u above, t.innermost? offset = some u → t.Reaches offset above u →
      t.expectedUnder? offset = (above ++ [u]).reverse.findSome? (·.expectation)) := by
  refine ⟨?_, fun u => reaches_of_innermost?, ?_, fun expected => reaches_of_expectedUnder?, ?_⟩
  · rw [innermost?_eq_none_iff]
    exact not_congr ⟨.root, Reaches.covers⟩
  · constructor
    · intro hsome
      obtain ⟨expected, hexpected⟩ := Option.isSome_iff_exists.mp hsome
      obtain ⟨above, u, hreaches, hslot, -⟩ := reaches_of_expectedUnder? hexpected
      exact ⟨above, u, hreaches, by rw [hslot]; rfl⟩
    · rintro ⟨above, u, hreaches, hslot⟩
      cases hanswer : t.expectedUnder? offset with
      | some expected => rfl
      | none =>
        rw [expectation_of_reaches hanswer hreaches] at hslot
        cases hslot
  · intro honeWay u above hinnermost hreaches
    obtain ⟨-, -, hlast⟩ := reaches_of_innermost? hinnermost
    exact honeWay.expectedUnder?_eq hreaches hlast

/-- Two items that overlap: the first one has nothing expected, the second one has a string. -/
def overlappingItems : Node :=
  ⟨⟨0, 9⟩, some [.array], .array [.null ⟨1, 5⟩, (Node.null ⟨4, 8⟩).expecting [.string]]⟩

/-- Where the items overlap, the two queries go different ways. -/
example : overlappingItems.innermost? 5 = some (.null ⟨1, 5⟩) ∧
    overlappingItems.expectedUnder? 5 = some [.string] := ⟨rfl, rfl⟩

end Node

end DocShape
