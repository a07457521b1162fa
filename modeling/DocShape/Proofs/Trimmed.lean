import DocShape.Proofs.Blind
import DocShape.Proofs.Related
import DocShape.Proofs.Reordered

/-!
# Expectations with parts left out

An expectation is trimmed by leaving out some of the fields, keys and items that it describes, at any
depth (`Expectation.Trims`). Its kind and label, its pool, and what is said of fields that stay are the
same. Two slots are trimmed in step (`SlotTrims`), and two trees that agree in everything but their
slots may have their slots related in this way, or in any other (`Node.SlotsRel`).

A change of slots leaves the content alone (`Node.SlotsRel.clear_eq`), and trimmed slots have the same
labels (`SlotTrims.labels_eq`). So every path leads to nodes that show the same in both trees
(`Node.SlotsRel.places`).
-/

namespace DocShape

/-! ### Expectations -/

/-- An optional part that is left out, or kept as a related one. -/
inductive Kept {α β : Type} (R : α → β → Prop) : Option α → Option β → Prop
  | leftOut (b : Option β) : Kept R none b
  | kept {a : α} {b : β} (h : R a b) : Kept R (some a) (some b)

/-- Two fields that differ in their values only. -/
inductive Field.Rel {τ : Type} (R : List τ → List τ → Prop) : Field τ → Field τ → Prop
  | mk (key : String) (optional deprecated : Bool) {value value' : Option (List τ)}
    (h : Option.Rel R value value') :
    Rel R ⟨key, value, optional, deprecated⟩ ⟨key, value', optional, deprecated⟩

/-- An expectation from which fields, keys or items may have been left out, at any depth. -/
inductive Expectation.Trims : Expectation → Expectation → Prop
  | refl (e : Expectation) : Trims e e
  | parts (kind : ExpectedKind) (label : String) (pool : Option (List String))
    {fields fields' : Option (List (Field Expectation))}
    {keys keys' items items' : Option (List Expectation)}
    (hfields : Kept (List.Forall₂ (Field.Rel (List.Forall₂ Trims))) fields fields')
    (hkeys : Kept (List.Forall₂ Trims) keys keys')
    (hitems : Kept (List.Forall₂ Trims) items items') :
    Trims ⟨kind, label, fields, keys, items, pool⟩ ⟨kind, label, fields', keys', items', pool⟩

theorem Expectation.Trims.label_eq {e e' : Expectation} (h : e.Trims e') : e.label = e'.label := by
  cases h <;> rfl

/-- Two slots that are filled with as many expectations, some of the first ones trimmed. -/
def SlotTrims (slot slot' : Option (List Expectation)) : Prop :=
  Option.Rel (List.Forall₂ Expectation.Trims) slot slot'

theorem forall₂_trims_refl (expected : List Expectation) :
    List.Forall₂ Expectation.Trims expected expected :=
  List.forall₂_same.mpr fun e _ => .refl e

theorem SlotTrims.refl (slot : Option (List Expectation)) : SlotTrims slot slot := by
  cases slot with
  | none => exact .none
  | some expected => exact .some (forall₂_trims_refl expected)

section Slots

variable {slot slot' : Option (List Expectation)} (h : SlotTrims slot slot')

include h

theorem SlotTrims.getD : List.Forall₂ Expectation.Trims (slot.getD []) (slot'.getD []) :=
  getD_rel h .nil

/-- Trimmed slots have the same labels. -/
theorem SlotTrims.labels_eq :
    (slot.getD []).map (·.label) = (slot'.getD []).map (·.label) :=
  map_eq_map_of_forall₂ h.getD fun _ _ _ htrims => htrims.label_eq

/-- A part that is described in both slots is kept. -/
theorem SlotTrims.kept : Kept (List.Forall₂ Expectation.Trims) slot slot' := by
  cases h with
  | none => exact .leftOut none
  | some h => exact .kept h

end Slots

/-! ### Trees that differ in their slots -/

/-- Two trees with the same nodes and keys, the hovers of keys included, whose slots are related one by
one. -/
inductive Node.SlotsRel (S : Option (List Expectation) → Option (List Expectation) → Prop) :
    Node → Node → Prop
  | leaf {t t' : Node} (hmembers : t.members? = none) (hitems : t.items? = none)
    (h : t.clear = t'.clear) (hslot : S t.expectation t'.expectation) : SlotsRel S t t'
  | array {span : Span} {slot slot' : Option (List Expectation)} {items items' : List Node}
    (hslot : S slot slot') (h : List.Forall₂ (SlotsRel S) items items') :
    SlotsRel S ⟨span, slot, .array items⟩ ⟨span, slot', .array items'⟩
  | object {span : Span} {slot slot' : Option (List Expectation)}
    {members members' : List (Member Node)} (hslot : S slot slot')
    (h : List.Forall₂ (Member.Rel (SlotsRel S)) members members') :
    SlotsRel S ⟨span, slot, .object members⟩ ⟨span, slot', .object members'⟩

namespace Node.SlotsRel

variable {S : Option (List Expectation) → Option (List Expectation) → Prop} {t t' : Node}

theorem slot (h : t.SlotsRel S t') : S t.expectation t'.expectation := by
  cases h with
  | leaf _ _ _ hslot | array hslot _ | object hslot _ => exact hslot

/-- **Slots are no content**: trees that differ in slots only have the same content. -/
theorem clear_eq (h : t.SlotsRel S t') : t.clear = t'.clear := by
  induction t using Node.induction generalizing t' with
  | leaf t hmembers hitems =>
    cases h with
    | leaf _ _ h _ => exact h
    | array _ _ => cases hitems
    | object _ _ => cases hmembers
  | array span slot items ih =>
    cases h with
    | leaf _ hitems _ _ => cases hitems
    | array _ h =>
      rw [Node.clear_eq, Node.clear_eq]
      exact congrArg (fun ts => Node.mk span none (.array ts))
        (map_eq_map_of_forall₂ h fun u hu u' hrel => ih u hu hrel)
  | object span slot members ih =>
    cases h with
    | leaf hmembers _ _ _ => cases hmembers
    | object _ h =>
      rw [Node.clear_eq, Node.clear_eq]
      refine congrArg (fun ms => Node.mk span none (.object ms)) (map_eq_map_of_forall₂ h ?_)
      intro m hm m' hrel
      cases hrel with
      | bare key => rfl
      | valued key hu => rw [clearMember, clearMember, Option.map_some, Option.map_some, ih _ hm _ rfl hu]

/-- A tree with empty slots, if empty slots are related. -/
theorem of_clear (hS : S none none) (t : Node) : t.clear.SlotsRel S t.clear := by
  induction t using Node.induction with
  | leaf t hmembers hitems =>
    refine .leaf ?_ ?_ rfl ?_
    · rw [members?_clear, hmembers]
      rfl
    · rw [items?_clear, hitems]
      rfl
    · rw [expectation_clear]
      exact hS
  | array span slot items ih =>
    rw [Node.clear_eq]
    refine .array hS ?_
    rw [List.forall₂_map_left_iff, List.forall₂_map_right_iff, List.forall₂_same]
    exact ih
  | object span slot members ih =>
    rw [Node.clear_eq]
    refine .object hS ?_
    rw [List.forall₂_map_left_iff, List.forall₂_map_right_iff, List.forall₂_same]
    rintro ⟨key, _ | u⟩ hm
    · exact .bare _
    · exact .valued _ (ih _ hm u rfl)

/-- The slots of two nodes are filled anew. -/
theorem expecting {expected expected' : List Expectation} (h : t.SlotsRel S t')
    (hS : S (some expected) (some expected')) :
    (t.expecting expected).SlotsRel S (t'.expecting expected') := by
  cases h with
  | leaf hmembers hitems h _ =>
    refine .leaf hmembers hitems ?_ hS
    rw [Node.clear_expecting, Node.clear_expecting, h]
  | array _ h => exact .array hS h
  | object _ h => exact .object hS h

/-- Two objects have members with the same keys and related values. -/
theorem members {members : List (Member Node)} (h : t.SlotsRel S t')
    (hmembers : t.members? = some members) : ∃ members', t'.members? = some members' ∧
      List.Forall₂ (Member.Rel (SlotsRel S)) members members' := by
  cases h with
  | leaf hnone _ _ _ => cases hnone.symm.trans hmembers
  | array _ _ => cases hmembers
  | object _ h =>
    cases hmembers
    exact ⟨_, rfl, h⟩

theorem items {items : List Node} (h : t.SlotsRel S t') (hitems : t.items? = some items) :
    ∃ items', t'.items? = some items' ∧ List.Forall₂ (SlotsRel S) items items' := by
  cases h with
  | leaf _ hnone _ _ => cases hnone.symm.trans hitems
  | object _ _ => cases hitems
  | array _ h =>
    cases hitems
    exact ⟨_, rfl, h⟩

/-- Two objects with related members. -/
theorem of_members {members members' : List (Member Node)} (hspan : t.span = t'.span)
    (hslot : S t.expectation t'.expectation) (hmembers : t.members? = some members)
    (hmembers' : t'.members? = some members')
    (h : List.Forall₂ (Member.Rel (SlotsRel S)) members members') : t.SlotsRel S t' := by
  obtain ⟨span, slot, body⟩ := t
  obtain ⟨span', slot', body'⟩ := t'
  cases hspan
  cases body <;> cases hmembers
  cases body' <;> cases hmembers'
  exact .object hslot h

theorem of_items {items items' : List Node} (hspan : t.span = t'.span)
    (hslot : S t.expectation t'.expectation) (hitems : t.items? = some items)
    (hitems' : t'.items? = some items') (h : List.Forall₂ (SlotsRel S) items items') :
    t.SlotsRel S t' := by
  obtain ⟨span, slot, body⟩ := t
  obtain ⟨span', slot', body'⟩ := t'
  cases hspan
  cases body <;> cases hitems
  cases body' <;> cases hitems'
  exact .array hslot h

/-- Trees that differ in slots only are alike. -/
theorem alike (h : t.SlotsRel S t') : t.Alike t' := alike_of_clear h.clear_eq

theorem members_none (h : t.SlotsRel S t') (hmembers : t.members? = none) : t'.members? = none :=
  h.alike.members?_eq_none_iff.mp hmembers

theorem items_none (h : t.SlotsRel S t') (hitems : t.items? = none) : t'.items? = none := by
  have hcontent := congrArg items? h.clear_eq
  rw [items?_clear, items?_clear, hitems] at hcontent
  exact Option.map_eq_none_iff.mp hcontent.symm

/-! ### Looking into both trees -/

/-- Both trees are objects or none is, and the members are related. -/
theorem members?_rel (h : t.SlotsRel S t') :
    Option.Rel (List.Forall₂ (Member.Rel (SlotsRel S))) t.members? t'.members? := by
  cases hmembers : t.members? with
  | none =>
    rw [h.members_none hmembers]
    exact .none
  | some members =>
    obtain ⟨members', hmembers', hrel⟩ := h.members hmembers
    rw [hmembers']
    exact .some hrel

theorem items?_rel (h : t.SlotsRel S t') :
    Option.Rel (List.Forall₂ (SlotsRel S)) t.items? t'.items? := by
  cases hitems : t.items? with
  | none =>
    rw [h.items_none hitems]
    exact .none
  | some items =>
    obtain ⟨items', hitems', hrel⟩ := h.items hitems
    rw [hitems']
    exact .some hrel

/-- Members in the same position, if there are any. -/
theorem member?_rel (h : t.SlotsRel S t') (i : Nat) :
    Option.Rel (Member.Rel (SlotsRel S)) (t.members?.bind (·[i]?)) (t'.members?.bind (·[i]?)) :=
  bind_rel h.members?_rel fun _ _ hrel => getElem?_rel hrel i

/-- The same keys stand in the same positions, and have the same hovers. -/
theorem memberKey?_eq (h : t.SlotsRel S t') (i : Nat) : t.memberKey? i = t'.memberKey? i := by
  have hrel := h.member?_rel i
  unfold memberKey?
  generalize t.members?.bind (·[i]?) = m at hrel ⊢
  generalize t'.members?.bind (·[i]?) = m' at hrel ⊢
  cases hrel with
  | none => rfl
  | some hm => exact hm.key_eq

theorem child?_rel (h : t.SlotsRel S t') (step : Path.Step) :
    Option.Rel (SlotsRel S) (t.child? step) (t'.child? step) := by
  cases step with
  | key text => exact bind_rel h.members?_rel fun _ _ hrel => Member.value?_rel hrel text
  | index i => exact bind_rel h.items?_rel fun _ _ hrel => getElem?_rel hrel i
  | member i =>
    refine bind_rel (h.member?_rel i) fun m m' hm => ?_
    cases hm with
    | bare key => exact .none
    | valued key hu => exact .some hu

/-- A path leads into both trees or into none, and then to trees that differ in slots only. -/
theorem find?_rel (h : t.SlotsRel S t') (path : Path) :
    Option.Rel (SlotsRel S) (t.find? path) (t'.find? path) := by
  induction path generalizing t t' with
  | nil => exact .some h
  | cons step path ih => exact bind_rel (h.child?_rel step) fun _ _ hu => ih hu

end Node.SlotsRel

section Trimmed

variable {t t' : Node} (h : t.SlotsRel SlotTrims t')

include h

/-- Nodes with trimmed slots have the same labels. -/
theorem Node.SlotsRel.labels_eq : t.labels = t'.labels := h.slot.labels_eq

/-- In both trees, paths lead to nodes with the same labels and the same keys and hovers, and the slots
of the first ones are trimmed. -/
theorem Node.SlotsRel.places (path : Path) :
    Option.Rel (fun v v' => v.labels = v'.labels ∧ (∀ i, v.memberKey? i = v'.memberKey? i) ∧
      SlotTrims v.expectation v'.expectation) (t.find? path) (t'.find? path) := by
  have hrel := h.find?_rel path
  generalize t.find? path = v at hrel ⊢
  generalize t'.find? path = v' at hrel ⊢
  cases hrel with
  | none => exact .none
  | some hv => exact .some ⟨hv.labels_eq, hv.memberKey?_eq, hv.slot⟩

end Trimmed

end DocShape
