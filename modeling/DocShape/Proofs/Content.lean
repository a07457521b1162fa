import DocShape.Tree.Path

/-!
# What a tree holds besides its slots

Emptying the slots of a tree leaves its content: kinds, values, spans, keys, members and items in
their order. So `t.clear = u.clear` says that two trees have the same content.

This file collects what emptying keeps (`kind_clear`, `textUnder?_clear`, `height_clear`), that it
is done once and for all (`clear_clear`), and how it goes along with paths: a path leads to the
same content (`find?_clear`), and a change that keeps the content of the node at the end of a path
keeps the content of the whole tree (`clear_modifyAt`).

What holds of a node as soon as it holds of what is in it holds of every tree (`Node.induction`).
-/

namespace DocShape

/-! ### Members and keys -/

@[simp] theorem Key.text_clear (k : Key) : k.clear.text = k.text := rfl

@[simp] theorem Key.span_clear (k : Key) : k.clear.span = k.span := rfl

@[simp] theorem Key.clear_clear (k : Key) : k.clear.clear = k.clear := rfl

@[simp] theorem Key.toNode_clear (k : Key) : k.clear.toNode = k.toNode := rfl

namespace Node

@[simp] theorem key_clearMember (m : Member Node) : (clearMember m).key = m.key.map Key.clear := rfl

@[simp] theorem value_clearMember (m : Member Node) : (clearMember m).value = m.value.map clear :=
  rfl

/-- A member keeps its name when its slots are emptied. -/
theorem named_clearMember (m : Member Node) (key : String) :
    (clearMember m).Named key ↔ m.Named key := by
  unfold Member.Named
  rw [key_clearMember, Option.map_map]
  rfl

/-- Members keep their keys when their slots are emptied. -/
@[simp] theorem keys_clearMember (members : List (Member Node)) :
    Member.keys (members.map clearMember) = Member.keys members := by
  unfold Member.keys
  rw [List.filterMap_map]
  refine congrArg (fun f => members.filterMap f) (funext fun m => ?_)
  simp only [Function.comp_apply, key_clearMember, Option.map_map]
  rfl

/-- The value under a key is found in the same place when slots are emptied. -/
theorem value?_clearMember (members : List (Member Node)) (key : String) :
    Member.value? (members.map clearMember) key = (Member.value? members key).map clear := by
  unfold Member.value?
  induction members with
  | nil => rfl
  | cons m members ih =>
    rw [List.map_cons, List.find?_cons, List.find?_cons]
    by_cases h : m.Named key
    · rw [decide_eq_true h, decide_eq_true ((named_clearMember m key).mpr h)]
      rfl
    · rw [decide_eq_false h, decide_eq_false fun hc => h ((named_clearMember m key).mp hc)]
      exact ih

/-! ### One level of a node -/

end Node

/-- A body with all slots in it emptied. -/
def Body.clear : Body Node → Body Node
  | .object members => .object (members.map Node.clearMember)
  | .array items => .array (items.map Node.clear)
  | .string text => .string text
  | .number value => .number value
  | .boolean value => .boolean value
  | .null => .null

namespace Node

/-- Emptying the slots of a node, one level unfolded. -/
theorem clear_eq (t : Node) : t.clear = ⟨t.span, none, t.body.clear⟩ := by
  obtain ⟨span, expectation, body⟩ := t
  cases body with
  | object members => rw [clear, clearMembers_eq_map]; rfl
  | array items => rw [clear, clearItems_eq_map]; rfl
  | string _ | number _ | boolean _ | null => rfl

@[simp] theorem span_clear (t : Node) : t.clear.span = t.span := by rw [clear_eq]

@[simp] theorem expectation_clear (t : Node) : t.clear.expectation = none := by rw [clear_eq]

@[simp] theorem body_clear (t : Node) : t.clear.body = t.body.clear := by rw [clear_eq]

@[simp] theorem clear_null (span : Span) : (Node.null span).clear = Node.null span := rfl

@[simp] theorem clear_toNode (k : Key) : k.toNode.clear = k.toNode := rfl

/-- Filling the slot of a node keeps its content. -/
@[simp] theorem clear_expecting (t : Node) (expected : List Expectation) :
    (t.expecting expected).clear = t.clear := by
  rw [clear_eq, clear_eq]
  rfl

@[simp] theorem kind_clear (t : Node) : t.clear.kind = t.kind := by
  obtain ⟨span, expectation, body⟩ := t
  cases body <;> rfl

@[simp] theorem text?_clear (t : Node) : t.clear.text? = t.text? := by
  obtain ⟨span, expectation, body⟩ := t
  cases body <;> rfl

@[simp] theorem members?_clear (t : Node) :
    t.clear.members? = t.members?.map (·.map clearMember) := by
  obtain ⟨span, expectation, body⟩ := t
  unfold members?
  rw [body_clear]
  cases body <;> rfl

@[simp] theorem items?_clear (t : Node) : t.clear.items? = t.items?.map (·.map clear) := by
  obtain ⟨span, expectation, body⟩ := t
  unfold items?
  rw [body_clear]
  cases body <;> rfl

/-- Where slots are empty, those of members are. -/
theorem map_clearMember_of_clear {t : Node} {members : List (Member Node)} (h : t.clear = t)
    (hmembers : t.members? = some members) : members.map clearMember = members := by
  have hcleared := members?_clear t
  rw [h, hmembers] at hcleared
  exact (Option.some.inj hcleared).symm

/-- Where slots are empty, those of items are. -/
theorem clear_of_mem_items {t : Node} {items : List Node} (h : t.clear = t)
    (hitems : t.items? = some items) {u : Node} (hu : u ∈ items) : u.clear = u := by
  have hcleared := items?_clear t
  rw [h, hitems] at hcleared
  have hsame : items.map clear = items.map id := by
    rw [List.map_id]
    exact (Option.some.inj hcleared).symm
  exact List.map_inj_left.mp hsame u hu

/-- Where slots are empty, those of each member are. -/
theorem clear_of_mem_members {t : Node} {members : List (Member Node)} (h : t.clear = t)
    (hmembers : t.members? = some members) {m : Member Node} (hm : m ∈ members) :
    clearMember m = m := by
  have hsame : members.map clearMember = members.map id := by
    rw [List.map_id]
    exact map_clearMember_of_clear h hmembers
  exact List.map_inj_left.mp hsame m hm

theorem value?_clear (t : Node) (key : String) :
    t.clear.value? key = (t.value? key).map clear := by
  unfold value?
  rw [members?_clear]
  cases t.members? with
  | none => rfl
  | some members => exact value?_clearMember members key

/-- The text under a key does not hang on slots. -/
@[simp] theorem textUnder?_clear (t : Node) (key : String) :
    t.clear.textUnder? key = t.textUnder? key := by
  unfold textUnder?
  rw [value?_clear, Option.bind_map]
  exact congrArg _ (funext fun u => text?_clear u)

/-- Whether a node is an object does not hang on slots. -/
theorem members?_eq_none_congr {t v : Node} (h : v.clear = t.clear) :
    v.members? = none ↔ t.members? = none := by
  have hmembers := congrArg members? h
  rw [members?_clear, members?_clear] at hmembers
  rw [← Option.map_eq_none_iff, hmembers, Option.map_eq_none_iff]

/-- Nodes of the same content have the same text under a key. -/
theorem textUnder?_congr {t v : Node} (h : v.clear = t.clear) (key : String) :
    v.textUnder? key = t.textUnder? key := by
  rw [← textUnder?_clear, h, textUnder?_clear]

/-! ### Kinds and what goes with them -/

/-- Objects are the nodes with members. -/
theorem members?_eq_none_iff {t : Node} : t.members? = none ↔ t.kind ≠ .object := by
  obtain ⟨span, expectation, body⟩ := t
  cases body <;> simp [members?, kind]

/-- Arrays are the nodes with items. -/
theorem items?_eq_none_iff {t : Node} : t.items? = none ↔ t.kind ≠ .array := by
  obtain ⟨span, expectation, body⟩ := t
  cases body <;> simp [items?, kind]

/-- Strings are the nodes with a text. -/
theorem text?_eq_none_iff {t : Node} : t.text? = none ↔ t.kind ≠ .string := by
  obtain ⟨span, expectation, body⟩ := t
  cases body <;> simp [text?, kind]

theorem kind_of_members? {t : Node} {members : List (Member Node)}
    (h : t.members? = some members) : t.kind = .object := by
  obtain ⟨span, expectation, body⟩ := t
  cases body with
  | object _ => rfl
  | array _ | string _ | number _ | boolean _ | null => cases h

theorem kind_of_items? {t : Node} {items : List Node} (h : t.items? = some items) :
    t.kind = .array := by
  obtain ⟨span, expectation, body⟩ := t
  cases body with
  | array _ => rfl
  | object _ | string _ | number _ | boolean _ | null => cases h

/-! ### The whole tree -/

mutual

/-- Slots are empty once they have been emptied. -/
@[simp] theorem clear_clear : ∀ t : Node, t.clear.clear = t.clear
  | ⟨_, _, .object members⟩ => by rw [clear, clear, clearMembers_clearMembers members]
  | ⟨_, _, .array items⟩ => by rw [clear, clear, clearItems_clearItems items]
  | ⟨_, _, .string _⟩ | ⟨_, _, .number _⟩ | ⟨_, _, .boolean _⟩ | ⟨_, _, .null⟩ => rfl

theorem clearItems_clearItems :
    ∀ items : List Node, clearItems (clearItems items) = clearItems items
  | [] => rfl
  | t :: ts => by rw [clearItems, clearItems, clear_clear t, clearItems_clearItems ts]

theorem clearMembers_clearMembers :
    ∀ members : List (Member Node), clearMembers (clearMembers members) = clearMembers members
  | [] => rfl
  | ⟨key, none⟩ :: ms => by
    rw [clearMembers, clearMembers, clearMembers_clearMembers ms, Option.map_map]
    rfl
  | ⟨key, some t⟩ :: ms => by
    rw [clearMembers, clearMembers, clear_clear t, clearMembers_clearMembers ms, Option.map_map]
    rfl

end

mutual

/-- A tree is as high with its slots emptied. -/
@[simp] theorem height_clear : ∀ t : Node, t.clear.height = t.height
  | ⟨_, _, .object members⟩ => by rw [clear, height, height, heightOfMembers_clearMembers members]
  | ⟨_, _, .array items⟩ => by rw [clear, height, height, heightOfItems_clearItems items]
  | ⟨_, _, .string _⟩ | ⟨_, _, .number _⟩ | ⟨_, _, .boolean _⟩ | ⟨_, _, .null⟩ => rfl

theorem heightOfItems_clearItems :
    ∀ items : List Node, heightOfItems (clearItems items) = heightOfItems items
  | [] => rfl
  | t :: ts => by
    rw [clearItems, heightOfItems, heightOfItems, height_clear t, heightOfItems_clearItems ts]

theorem heightOfMembers_clearMembers :
    ∀ members : List (Member Node), heightOfMembers (clearMembers members) = heightOfMembers members
  | [] => rfl
  | ⟨_, none⟩ :: ms => by
    rw [clearMembers, heightOfMembers, heightOfMembers, heightOfMembers_clearMembers ms]
  | ⟨_, some t⟩ :: ms => by
    rw [clearMembers, heightOfMembers, heightOfMembers, height_clear t,
      heightOfMembers_clearMembers ms]

end

theorem one_le_height (t : Node) : 1 ≤ t.height := by
  obtain ⟨span, expectation, body⟩ := t
  cases body <;> simp [height]

/-- The height of an item is at most the greatest. -/
theorem height_le_of_mem_items {items : List Node} {u : Node} (h : u ∈ items) :
    u.height ≤ heightOfItems items := by
  induction items with
  | nil => cases h
  | cons v items ih =>
    rw [heightOfItems]
    rcases List.mem_cons.mp h with rfl | h
    · exact Nat.le_max_left _ _
    · exact Nat.le_trans (ih h) (Nat.le_max_right _ _)

/-- The height of the node that a member is checked with is at most the greatest. -/
theorem height_le_of_mem_members {members : List (Member Node)} {m : Member Node} (h : m ∈ members)
    (span : Span) : (m.value.getD (null span)).height ≤ heightOfMembers members := by
  induction members with
  | nil => cases h
  | cons m' members ih =>
    rcases List.mem_cons.mp h with rfl | h
    · obtain ⟨key, value⟩ := m
      cases value <;> exact Nat.le_max_left _ _
    · have hle := ih h
      obtain ⟨key, value⟩ := m'
      cases value <;> exact Nat.le_trans hle (Nat.le_max_right _ _)

/-- **Induction on trees**: what holds of a node as soon as it holds of the values or items in it
holds of every node. -/
@[elab_as_elim]
theorem induction {motive : Node → Prop}
    (object : ∀ span expectation members,
      (∀ m ∈ members, ∀ u, m.value = some u → motive u) →
        motive ⟨span, expectation, .object members⟩)
    (array : ∀ span expectation items, (∀ u ∈ items, motive u) →
      motive ⟨span, expectation, .array items⟩)
    (leaf : ∀ t : Node, t.members? = none → t.items? = none → motive t) (t : Node) : motive t := by
  induction hheight : t.height using Nat.strongRecOn generalizing t with
  | ind height ih =>
    subst hheight
    obtain ⟨span, expectation, body⟩ := t
    cases body with
    | object members =>
      refine object span expectation members fun m hm u hu => ih _ ?_ u rfl
      have hle := height_le_of_mem_members hm span
      rw [hu] at hle
      exact Nat.lt_succ_of_le hle
    | array items =>
      refine array span expectation items fun u hu => ih _ ?_ u rfl
      exact Nat.lt_succ_of_le (height_le_of_mem_items hu)
    | string _ | number _ | boolean _ | null => exact leaf _ rfl rfl

/-- A member's content has its slots empty. -/
@[simp] theorem clearMember_clearMember (m : Member Node) :
    clearMember (clearMember m) = clearMember m := by
  obtain ⟨key, value⟩ := m
  cases key <;> cases value <;> simp [clearMember]

/-! ### Along a path -/

/-- A step leads to the same content. -/
theorem child?_clear (t : Node) (step : Path.Step) :
    t.clear.child? step = (t.child? step).map clear := by
  cases step with
  | key text => exact value?_clear t text
  | index i =>
    simp only [child?, items?_clear]
    cases t.items? with
    | none => rfl
    | some items => exact List.getElem?_map
  | member i =>
    simp only [child?, members?_clear]
    cases t.members? with
    | none => rfl
    | some members =>
      simp only [Option.map_some, Option.bind_some, List.getElem?_map]
      cases members[i]? <;> rfl

/-- A path leads to the same content. -/
theorem find?_clear (t : Node) (path : Path) : t.clear.find? path = (t.find? path).map clear := by
  induction path generalizing t with
  | nil => rfl
  | cons step path ih =>
    rw [find?, find?, child?_clear]
    cases t.child? step with
    | none => rfl
    | some u => exact ih u

/-- Changing a value under a key to one of the same content keeps the content of all members. -/
theorem clearMember_modifyUnder {f : Node → Node} {key : String} {members : List (Member Node)}
    (hf : ∀ u, Member.value? members key = some u → (f u).clear = u.clear) :
    (modifyUnder f key members).map clearMember = members.map clearMember := by
  induction members with
  | nil => rfl
  | cons m members ih =>
    unfold Member.value? at hf ih
    rw [modifyUnder]
    by_cases h : m.Named key
    · rw [if_pos h, List.map_cons, List.map_cons]
      rw [List.find?_cons_of_pos (by simpa using h)] at hf
      obtain ⟨key', value⟩ := m
      cases value with
      | none => rfl
      | some u =>
        have hu : (f u).clear = u.clear := hf u rfl
        simp only [clearMember, Option.map_some, hu]
    · rw [if_neg h, List.map_cons, List.map_cons]
      rw [List.find?_cons_of_neg (by simpa using h)] at hf
      rw [ih hf]

/-- Changing one element to another that reads the same keeps what is read of the whole list. -/
theorem map_modify_of_eq {α β : Type} {g : α → β} {f : α → α} {xs : List α} {i : Nat}
    (hf : ∀ x, xs[i]? = some x → g (f x) = g x) : (xs.modify i f).map g = xs.map g := by
  apply List.ext_getElem?
  intro j
  rw [List.getElem?_map, List.getElem?_map, List.getElem?_modify]
  by_cases h : i = j
  · subst h
    cases hx : xs[i]? with
    | none => simp
    | some x => simp [hf x hx]
  · simp [h]

/-- Changing a child to one of the same content keeps the content of the node. -/
theorem clear_modifyChild {f : Node → Node} {t : Node} {step : Path.Step}
    (hf : ∀ u, t.child? step = some u → (f u).clear = u.clear) :
    (t.modifyChild f step).clear = t.clear := by
  obtain ⟨span, expectation, body⟩ := t
  cases step with
  | key text =>
    cases body with
    | object members =>
      rw [clear_eq, clear_eq]
      exact congrArg (fun ms => Node.mk span none (.object ms)) (clearMember_modifyUnder hf)
    | array _ | string _ | number _ | boolean _ | null => rfl
  | index i =>
    cases body with
    | array items =>
      rw [clear_eq, clear_eq]
      exact congrArg (fun ts => Node.mk span none (.array ts)) (map_modify_of_eq hf)
    | object _ | string _ | number _ | boolean _ | null => rfl
  | member i =>
    cases body with
    | object members =>
      rw [clear_eq, clear_eq]
      refine congrArg (fun ms => Node.mk span none (.object ms)) (map_modify_of_eq fun m hm => ?_)
      obtain ⟨key, value⟩ := m
      cases value with
      | none => rfl
      | some u =>
        have hu : (f u).clear = u.clear := hf u (by simp [child?, members?, hm])
        simp only [clearMember, Option.map_some, hu]
    | array _ | string _ | number _ | boolean _ | null => rfl

/-- Changing the node at the end of a path to one of the same content keeps the content of the
tree. -/
theorem clear_modifyAt {f : Node → Node} {t : Node} {path : Path}
    (hf : ∀ u, t.find? path = some u → (f u).clear = u.clear) :
    (t.modifyAt f path).clear = t.clear := by
  induction path generalizing t with
  | nil => exact hf t rfl
  | cons step path ih =>
    rw [modifyAt]
    refine clear_modifyChild fun u hu => ih fun v hv => hf v ?_
    rw [find?, hu]
    exact hv

/-- Showing something over a key keeps the content. -/
theorem clear_setHover (t : Node) (i : Nat) (hover : String) :
    (t.setHover i hover).clear = t.clear := by
  obtain ⟨span, expectation, body⟩ := t
  cases body with
  | object members =>
    rw [clear_eq, clear_eq]
    refine congrArg (fun ms => Node.mk span none (.object ms)) (map_modify_of_eq fun m _ => ?_)
    obtain ⟨key, value⟩ := m
    cases key <;> rfl
  | array _ | string _ | number _ | boolean _ | null => rfl

end Node

end DocShape
