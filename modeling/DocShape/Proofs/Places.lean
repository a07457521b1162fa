import DocShape.Proofs.Content

/-!
# Places in a tree

A tree holds the nodes that paths lead to (`Node.Holds`) and the members of the objects among them
(`Node.HoldsMember`). Emptying the slots of a tree keeps its places: it holds the same nodes and
members, with their slots emptied (`Node.holds_clear`, `Node.holdsMember_clear`).

A tree is `Nested` if what stands in a node stands inside the span of that node, and no object has
an empty span. Then every place lies in the span of the tree (`Node.Nested.within`).
-/

namespace DocShape

/-! ### Spans inside spans -/

namespace Span

/-- Both ends of a span lie between the ends of another one, in whichever order they are given. -/
def Within (inner outer : Span) : Prop :=
  min outer.start outer.stop ≤ min inner.start inner.stop ∧
    max inner.start inner.stop ≤ max outer.start outer.stop

theorem Within.refl (s : Span) : s.Within s := ⟨Nat.le_refl _, Nat.le_refl _⟩

theorem Within.trans {a b c : Span} (hab : a.Within b) (hbc : b.Within c) : a.Within c := by
  obtain ⟨hstart, hstop⟩ := hab
  obtain ⟨hstart', hstop'⟩ := hbc
  exact ⟨Nat.le_trans hstart' hstart, Nat.le_trans hstop hstop'⟩

/-- For spans that end no earlier than they start, the start is no earlier and the end no later. -/
theorem within_iff {inner outer : Span} (hinner : inner.start ≤ inner.stop)
    (houter : outer.start ≤ outer.stop) :
    inner.Within outer ↔ outer.start ≤ inner.start ∧ inner.stop ≤ outer.stop := by
  unfold Within
  rw [Nat.min_eq_left hinner, Nat.min_eq_left houter, Nat.max_eq_right hinner,
    Nat.max_eq_right houter]

/-- The end of a span lies in it. -/
theorem within_point_stop (s : Span) : (point s.stop).Within s := by
  unfold Within point
  simp only [Nat.min_self, Nat.max_self]
  exact ⟨Nat.min_le_right _ _, Nat.le_max_right _ _⟩

/-- The head of a span that is not empty lies in it. -/
theorem within_head {s : Span} (h : s.start < s.stop) : s.head.Within s := by
  have hle : s.start ≤ s.stop := Nat.le_of_lt h
  have hhead : s.head.start ≤ s.head.stop := Nat.le_succ _
  rw [within_iff hhead hle]
  exact ⟨Nat.le_refl _, h⟩

end Span

namespace Node

/-! ### What a tree holds -/

/-- The nodes of a tree: it holds what a path leads to, and so itself. -/
def Holds (t u : Node) : Prop := ∃ path, t.find? path = some u

/-- The members of the objects of a tree. -/
def HoldsMember (t : Node) (m : Member Node) : Prop :=
  ∃ u members, t.Holds u ∧ u.members? = some members ∧ m ∈ members

/-- One path after another leads from where the first one leads. -/
theorem find?_append (t : Node) (path rest : Path) :
    t.find? (path ++ rest) = (t.find? path).bind (·.find? rest) := by
  induction path generalizing t with
  | nil => rfl
  | cons step path ih =>
    rw [List.cons_append, find?, find?]
    cases t.child? step with
    | none => rfl
    | some u => exact ih u

theorem Holds.refl (t : Node) : t.Holds t := ⟨[], rfl⟩

theorem Holds.trans {t u v : Node} (hu : t.Holds u) (hv : u.Holds v) : t.Holds v := by
  obtain ⟨path, hpath⟩ := hu
  obtain ⟨rest, hrest⟩ := hv
  refine ⟨path ++ rest, ?_⟩
  rw [find?_append, hpath]
  exact hrest

/-- A tree holds the nodes one step down. -/
theorem holds_child {t u : Node} {step : Path.Step} (h : t.child? step = some u) : t.Holds u := by
  refine ⟨[step], ?_⟩
  rw [find?, h]
  rfl

/-- The value of a member is one step down. -/
theorem child?_of_mem_members {t u : Node} {members : List (Member Node)} {m : Member Node}
    (hmembers : t.members? = some members) (hm : m ∈ members) (hu : m.value = some u) :
    ∃ step, t.child? step = some u := by
  obtain ⟨i, hi⟩ := List.mem_iff_getElem?.mp hm
  refine ⟨.member i, ?_⟩
  simp [child?, hmembers, hi, hu]

/-- An item of an array is one step down. -/
theorem child?_of_mem_items {t u : Node} {items : List Node} (hitems : t.items? = some items)
    (hu : u ∈ items) : ∃ step, t.child? step = some u := by
  obtain ⟨i, hi⟩ := List.mem_iff_getElem?.mp hu
  refine ⟨.index i, ?_⟩
  simp [child?, hitems, hi]

/-- What is one step down is a value or an item. -/
theorem mem_of_child? {t u : Node} {step : Path.Step} (h : t.child? step = some u) :
    (∃ members, t.members? = some members ∧ ∃ m ∈ members, m.value = some u) ∨
    ∃ items, t.items? = some items ∧ u ∈ items := by
  cases step with
  | key text =>
    obtain ⟨members, hmembers, hu⟩ := Option.bind_eq_some_iff.mp h
    obtain ⟨m, hm, hu⟩ := Option.bind_eq_some_iff.mp hu
    exact Or.inl ⟨members, hmembers, m, List.mem_of_find?_eq_some hm, hu⟩
  | index i =>
    obtain ⟨items, hitems, hu⟩ := Option.bind_eq_some_iff.mp h
    exact Or.inr ⟨items, hitems, List.mem_of_getElem? hu⟩
  | member i =>
    obtain ⟨m, hm, hu⟩ := Option.bind_eq_some_iff.mp h
    obtain ⟨members, hmembers, hm⟩ := Option.bind_eq_some_iff.mp hm
    exact Or.inl ⟨members, hmembers, m, List.mem_of_getElem? hm, hu⟩

/-- Emptied slots leave the nodes where they are. -/
theorem holds_clear {t u : Node} : t.clear.Holds u ↔ ∃ v, t.Holds v ∧ v.clear = u := by
  constructor
  · rintro ⟨path, hpath⟩
    rw [find?_clear] at hpath
    obtain ⟨v, hv, rfl⟩ := Option.map_eq_some_iff.mp hpath
    exact ⟨v, ⟨path, hv⟩, rfl⟩
  · rintro ⟨v, ⟨path, hpath⟩, rfl⟩
    refine ⟨path, ?_⟩
    rw [find?_clear, hpath]
    rfl

/-- Emptied slots leave the members where they are. -/
theorem holdsMember_clear {t : Node} {m : Member Node} :
    t.clear.HoldsMember m ↔ ∃ m', t.HoldsMember m' ∧ clearMember m' = m := by
  constructor
  · rintro ⟨u, members, hu, hmembers, hm⟩
    obtain ⟨v, hv, rfl⟩ := holds_clear.mp hu
    rw [members?_clear] at hmembers
    obtain ⟨members', hmembers', rfl⟩ := Option.map_eq_some_iff.mp hmembers
    obtain ⟨m', hm', rfl⟩ := List.mem_map.mp hm
    exact ⟨m', ⟨v, members', hv, hmembers', hm'⟩, rfl⟩
  · rintro ⟨m', ⟨v, members, hv, hmembers, hm'⟩, rfl⟩
    refine ⟨v.clear, members.map clearMember, holds_clear.mpr ⟨v, hv, rfl⟩, ?_,
      List.mem_map_of_mem hm'⟩
    rw [members?_clear, hmembers]
    rfl

/-- A tree holds the values of its members. -/
theorem HoldsMember.value {t u : Node} {m : Member Node} (hm : t.HoldsMember m)
    (hu : m.value = some u) : t.Holds u := by
  obtain ⟨v, members, hv, hmembers, hmem⟩ := hm
  obtain ⟨step, hstep⟩ := child?_of_mem_members hmembers hmem hu
  exact hv.trans (holds_child hstep)

/-- A tree holds itself and what the nodes one step down hold. -/
theorem holds_iff {t u : Node} :
    t.Holds u ↔ u = t ∨ ∃ step v, t.child? step = some v ∧ v.Holds u := by
  constructor
  · rintro ⟨path, hpath⟩
    cases path with
    | nil => exact Or.inl (Option.some.inj hpath).symm
    | cons step rest =>
      obtain ⟨v, hv, hrest⟩ := Option.bind_eq_some_iff.mp hpath
      exact Or.inr ⟨step, v, hv, rest, hrest⟩
  · rintro (rfl | ⟨step, v, hv, hu⟩)
    · exact .refl u
    · exact (holds_child hv).trans hu

/-- An object holds its members and what their values hold. -/
theorem holdsMember_of_members {t : Node} {members : List (Member Node)}
    (hmembers : t.members? = some members) {m : Member Node} :
    t.HoldsMember m ↔ m ∈ members ∨ ∃ n ∈ members, ∃ u, n.value = some u ∧ u.HoldsMember m := by
  constructor
  · rintro ⟨v, inner, hv, hinner, hm⟩
    rcases holds_iff.mp hv with rfl | ⟨step, u, hu, hv⟩
    · cases hmembers.symm.trans hinner
      exact Or.inl hm
    · rcases mem_of_child? hu with ⟨members', hmembers', n, hn, hvalue⟩ | ⟨items, hitems, -⟩
      · cases hmembers.symm.trans hmembers'
        exact Or.inr ⟨n, hn, u, hvalue, v, inner, hv, hinner, hm⟩
      · have hkind := (kind_of_members? hmembers).symm.trans (kind_of_items? hitems)
        cases hkind
  · rintro (hm | ⟨n, hn, u, hvalue, v, inner, hv, hinner, hm⟩)
    · exact ⟨t, members, .refl t, hmembers, hm⟩
    · obtain ⟨step, hstep⟩ := child?_of_mem_members hmembers hn hvalue
      exact ⟨v, inner, (holds_child hstep).trans hv, hinner, hm⟩

/-- An array holds the members that its items hold. -/
theorem holdsMember_of_items {t : Node} {items : List Node} (hitems : t.items? = some items)
    {m : Member Node} : t.HoldsMember m ↔ ∃ u ∈ items, u.HoldsMember m := by
  constructor
  · rintro ⟨v, inner, hv, hinner, hm⟩
    rcases holds_iff.mp hv with rfl | ⟨step, u, hu, hv⟩
    · have hkind := (kind_of_members? hinner).symm.trans (kind_of_items? hitems)
      cases hkind
    · rcases mem_of_child? hu with ⟨members', hmembers', -⟩ | ⟨items', hitems', hmem⟩
      · have hkind := (kind_of_members? hmembers').symm.trans (kind_of_items? hitems)
        cases hkind
      · cases hitems.symm.trans hitems'
        exact ⟨u, hmem, v, inner, hv, hinner, hm⟩
  · rintro ⟨u, hu, v, inner, hv, hinner, hm⟩
    obtain ⟨step, hstep⟩ := child?_of_mem_items hitems hu
    exact ⟨v, inner, (holds_child hstep).trans hv, hinner, hm⟩

/-- What is neither an object nor an array holds no members. -/
theorem not_holdsMember {t : Node} (hmembers : t.members? = none) (hitems : t.items? = none)
    (m : Member Node) : ¬ t.HoldsMember m := by
  rintro ⟨v, inner, hv, hinner, hm⟩
  rcases holds_iff.mp hv with rfl | ⟨step, u, hu, -⟩
  · cases hmembers.symm.trans hinner
  · rcases mem_of_child? hu with ⟨members', hmembers', -⟩ | ⟨items, hitems', -⟩
    · cases hmembers.symm.trans hmembers'
    · cases hitems.symm.trans hitems'

/-- The slot of a node makes no difference to the members it holds. -/
theorem holdsMember_expecting {t : Node} {expected : List Expectation} {m : Member Node} :
    (t.expecting expected).HoldsMember m ↔ t.HoldsMember m := by
  cases hmembers : t.members? with
  | some members =>
    have hsame : (t.expecting expected).members? = some members := hmembers
    rw [holdsMember_of_members hmembers, holdsMember_of_members hsame]
  | none =>
    have hnone : (t.expecting expected).members? = none := hmembers
    cases hitems : t.items? with
    | some items =>
      have hsame : (t.expecting expected).items? = some items := hitems
      rw [holdsMember_of_items hitems, holdsMember_of_items hsame]
    | none =>
      have hno : (t.expecting expected).items? = none := hitems
      exact iff_of_false (not_holdsMember hnone hno m) (not_holdsMember hmembers hitems m)

/-! ### Nodes of the same content -/

/-- Objects of the same content have the same members, up to slots. -/
theorem exists_member_of_clear {t u : Node} {members : List (Member Node)} {m : Member Node}
    (h : t.clear = u.clear) (hmembers : t.members? = some members) (hm : m ∈ members) :
    ∃ members' m', u.members? = some members' ∧ m' ∈ members' ∧ clearMember m' = clearMember m := by
  have hsame := congrArg members? h
  rw [members?_clear, members?_clear, hmembers, Option.map_some] at hsame
  obtain ⟨members', hmembers', hmap⟩ := Option.map_eq_some_iff.mp hsame.symm
  have hm' : clearMember m ∈ members'.map clearMember := by
    rw [hmap]
    exact List.mem_map_of_mem hm
  obtain ⟨m', hmem, hclear⟩ := List.mem_map.mp hm'
  exact ⟨members', m', hmembers', hmem, hclear⟩

/-- Arrays of the same content have the same items, up to slots. -/
theorem exists_item_of_clear {t u v : Node} {items : List Node} (h : t.clear = u.clear)
    (hitems : t.items? = some items) (hv : v ∈ items) :
    ∃ items' v', u.items? = some items' ∧ v' ∈ items' ∧ v'.clear = v.clear := by
  have hsame := congrArg items? h
  rw [items?_clear, items?_clear, hitems, Option.map_some] at hsame
  obtain ⟨items', hitems', hmap⟩ := Option.map_eq_some_iff.mp hsame.symm
  have hv' : v.clear ∈ items'.map clear := by
    rw [hmap]
    exact List.mem_map_of_mem hv
  obtain ⟨v', hmem, hclear⟩ := List.mem_map.mp hv'
  exact ⟨items', v', hitems', hmem, hclear⟩

/-- Members of the same content have the same key, up to its slot. -/
theorem exists_key_of_clear {m m' : Member Node} {key : Key} (h : clearMember m' = clearMember m)
    (hkey : m.key = some key) :
    ∃ key', m'.key = some key' ∧ key'.text = key.text ∧ key'.span = key.span := by
  have hsame := congrArg Member.key h
  rw [key_clearMember, key_clearMember, hkey, Option.map_some] at hsame
  obtain ⟨key', hkey', hclear⟩ := Option.map_eq_some_iff.mp hsame
  obtain ⟨htext, hspan, -⟩ := Key.mk.inj hclear
  exact ⟨key', hkey', htext, hspan⟩

/-- Members of the same content have values of the same content. -/
theorem exists_value_of_clear {m m' : Member Node} {u : Node} (h : clearMember m' = clearMember m)
    (hu : m.value = some u) : ∃ u', m'.value = some u' ∧ u'.clear = u.clear := by
  have hsame := congrArg Member.value h
  rw [value_clearMember, value_clearMember, hu, Option.map_some] at hsame
  exact Option.map_eq_some_iff.mp hsame

/-- Members of the same content lack their value together. -/
theorem value_eq_none_of_clear {m m' : Member Node} (h : clearMember m' = clearMember m)
    (hu : m.value = none) : m'.value = none := by
  have hsame := congrArg Member.value h
  rw [value_clearMember, value_clearMember, hu, Option.map_none] at hsame
  exact Option.map_eq_none_iff.mp hsame

/-! ### Nested spans -/

/-- Values, items and keys stand inside the nodes that they belong to, and objects have a span that
is not empty. -/
structure Nested (t : Node) : Prop where
  /-- Values and items stand inside. -/
  child {u v : Node} {step : Path.Step} (hu : t.Holds u) (hv : u.child? step = some v) :
    v.span.Within u.span
  /-- Keys stand inside. -/
  key {u : Node} {members : List (Member Node)} {m : Member Node} {key : Key} (hu : t.Holds u)
    (hmembers : u.members? = some members) (hm : m ∈ members) (hkey : m.key = some key) :
    key.span.Within u.span
  /-- An object ends behind its start. -/
  object {u : Node} (hu : t.Holds u) (hkind : u.kind = .object) : u.span.start < u.span.stop

/-- What a nested tree holds is nested. -/
theorem Nested.of_holds {t u : Node} (h : t.Nested) (hu : t.Holds u) : u.Nested where
  child hv hw := h.child (hu.trans hv) hw
  key hv hmembers hm hkey := h.key (hu.trans hv) hmembers hm hkey
  object hv hkind := h.object (hu.trans hv) hkind

/-- Whether a tree is nested is seen level by level. -/
theorem nested_iff {t : Node} :
    t.Nested ↔ (t.kind = .object → t.span.start < t.span.stop) ∧
      (∀ members, t.members? = some members → ∀ m ∈ members,
        (∀ key, m.key = some key → key.span.Within t.span) ∧
        ∀ u, m.value = some u → u.span.Within t.span ∧ u.Nested) ∧
      ∀ items, t.items? = some items → ∀ u ∈ items, u.span.Within t.span ∧ u.Nested := by
  constructor
  · intro h
    have hchild : ∀ u step, t.child? step = some u → u.span.Within t.span ∧ u.Nested :=
      fun u step hu => ⟨h.child (Holds.refl t) hu, h.of_holds (holds_child hu)⟩
    refine ⟨h.object (Holds.refl t), fun members hmembers m hm => ⟨fun key hkey => ?_, ?_⟩, ?_⟩
    · exact h.key (Holds.refl t) hmembers hm hkey
    · intro u hu
      obtain ⟨step, hstep⟩ := child?_of_mem_members hmembers hm hu
      exact hchild u step hstep
    · intro items hitems u hu
      obtain ⟨step, hstep⟩ := child?_of_mem_items hitems hu
      exact hchild u step hstep
  · rintro ⟨hobject, hmembers, hitems⟩
    have hchild : ∀ u step, t.child? step = some u → u.span.Within t.span ∧ u.Nested := by
      intro u step hu
      rcases mem_of_child? hu with ⟨members, hm, m, hmem, hvalue⟩ | ⟨items, hi, hmem⟩
      · exact (hmembers members hm m hmem).2 u hvalue
      · exact hitems items hi u hmem
    -- a path either stays at the root or goes on in one of its children
    have hheld : ∀ u, t.Holds u → u = t ∨ ∃ v : Node, v.Nested ∧ v.Holds u := by
      rintro u ⟨path, hpath⟩
      cases path with
      | nil => exact Or.inl (Option.some.inj hpath).symm
      | cons step path =>
        obtain ⟨v, hv, hrest⟩ := Option.bind_eq_some_iff.mp hpath
        exact Or.inr ⟨v, (hchild v step hv).2, path, hrest⟩
    refine ⟨fun {u v step} hu hv => ?_, fun {u members m key} hu hmem hm hkey => ?_,
      fun {u} hu hkind => ?_⟩
    · rcases hheld u hu with rfl | ⟨w, hw, hwu⟩
      · exact (hchild v step hv).1
      · exact hw.child hwu hv
    · rcases hheld u hu with rfl | ⟨w, hw, hwu⟩
      · exact (hmembers members hmem m hm).1 key hkey
      · exact hw.key hwu hmem hm hkey
    · rcases hheld u hu with rfl | ⟨w, hw, hwu⟩
      · exact hobject hkind
      · exact hw.object hwu hkind

/-- **Every node** of a nested tree stands inside its span. -/
theorem Nested.within {t u : Node} (h : t.Nested) (hu : t.Holds u) : u.span.Within t.span := by
  obtain ⟨path, hpath⟩ := hu
  induction path generalizing t with
  | nil =>
    cases hpath
    exact Span.Within.refl _
  | cons step path ih =>
    rw [find?] at hpath
    obtain ⟨v, hv, hrest⟩ := Option.bind_eq_some_iff.mp hpath
    have hlower : u.span.Within v.span := ih (h.of_holds (holds_child hv)) hrest
    have hchild : v.span.Within t.span := h.child (Holds.refl t) hv
    exact hlower.trans hchild

/-- Every key of a nested tree stands inside its span. -/
theorem Nested.within_key {t : Node} {m : Member Node} {key : Key} (h : t.Nested)
    (hm : t.HoldsMember m) (hkey : m.key = some key) : key.span.Within t.span := by
  obtain ⟨u, members, hu, hmembers, hmem⟩ := hm
  have hinner : key.span.Within u.span := h.key hu hmembers hmem hkey
  exact hinner.trans (h.within hu)

end Node

end DocShape
