import Mathlib.Data.List.Forall2
import Mathlib.Data.List.Pairwise
import Mathlib.Data.List.Perm.Basic
import Mathlib.Data.Option.Basic
import DocShape.Proofs.Alike

/-!
# Trees that differ in the order of members

Two trees are `Reordered` if one arises from the other by reordering members inside objects, at any
depth, with the slots left as they are. The keys of an object are distinct throughout, so that the
order does not decide which member a key names.

Nodes that are reordered are `Alike` (`Node.Reordered.alike`), and stay reordered when their slots
are emptied or filled in the same way (`Node.Reordered.clear`, `Node.Reordered.expecting`).
-/

namespace DocShape

/-- Two members with the same key and related values, or both without a value. -/
inductive Member.Rel {ν : Type} (R : ν → ν → Prop) : Member ν → Member ν → Prop
  | bare (key : Option Key) : Rel R ⟨key, none⟩ ⟨key, none⟩
  | valued (key : Option Key) {u u' : ν} (h : R u u') : Rel R ⟨key, some u⟩ ⟨key, some u'⟩

/-- Two trees that differ in the order of members only, where the keys of each object are
distinct. -/
inductive Node.Reordered : Node → Node → Prop
  /-- Neither objects nor arrays differ. -/
  | leaf {t : Node} (hmembers : t.members? = none) (hitems : t.items? = none) : Reordered t t
  /-- Items stay in order. -/
  | array {span : Span} {expectation : Option (List Expectation)} {items items' : List Node}
    (h : List.Forall₂ Reordered items items') :
    Reordered ⟨span, expectation, .array items⟩ ⟨span, expectation, .array items'⟩
  /-- Members are reordered inside, and then among each other. -/
  | object {span : Span} {expectation : Option (List Expectation)}
    {members middle members' : List (Member Node)}
    (h : List.Forall₂ (Member.Rel Reordered) members middle) (hperm : middle.Perm members')
    (hkeys : (Member.keys members).Nodup) :
    Reordered ⟨span, expectation, .object members⟩ ⟨span, expectation, .object members'⟩

/-! ### Lists that are related one by one -/

section Lists

variable {α β γ δ : Type} {R : α → β → Prop} {S : γ → δ → Prop} {xs : List α} {ys : List β}

/-- Related elements are mapped to related ones. -/
theorem forall₂_map_of_mem {f : α → γ} {g : β → δ} (h : List.Forall₂ R xs ys)
    (hfg : ∀ x ∈ xs, ∀ y, R x y → S (f x) (g y)) : List.Forall₂ S (xs.map f) (ys.map g) := by
  induction h with
  | nil => exact .nil
  | cons hxy _ ih =>
    refine .cons (hfg _ List.mem_cons_self _ hxy) (ih fun x hx => ?_)
    exact hfg x (List.mem_cons_of_mem _ hx)

/-- Elements that are related are members of the lists. -/
theorem forall₂_mem (h : List.Forall₂ R xs ys) :
    List.Forall₂ (fun x y => x ∈ xs ∧ y ∈ ys ∧ R x y) xs ys := by
  rw [List.forall₂_iff_zip] at h ⊢
  exact ⟨h.1, fun hzip => ⟨(List.of_mem_zip hzip).1, (List.of_mem_zip hzip).2, h.2 hzip⟩⟩

/-- Related elements that are mapped to the same give the same list. -/
theorem map_eq_map_of_forall₂ {f : α → γ} {g : β → γ} (h : List.Forall₂ R xs ys)
    (hfg : ∀ x ∈ xs, ∀ y, R x y → f x = g y) : xs.map f = ys.map g := by
  have hmap : List.Forall₂ Eq (xs.map f) (ys.map g) := forall₂_map_of_mem h hfg
  exact List.forall₂_eq_eq_eq ▸ hmap

end Lists

/-! ### Members -/

namespace Member

variable {ν : Type} {R : ν → ν → Prop} {m m' : Member ν} {members middle members' : List (Member ν)}

theorem Rel.key_eq (h : Rel R m m') : m.key = m'.key := by
  cases h <;> rfl

/-- Related members have the same keys. -/
theorem keys_eq_of_rel (h : List.Forall₂ (Rel R) members middle) : keys members = keys middle := by
  induction h with
  | nil => rfl
  | cons hm _ ih =>
    unfold keys at ih ⊢
    rw [List.filterMap_cons, List.filterMap_cons, hm.key_eq, ih]

/-- Distinct keys name distinct members. -/
theorem named_unique {ms : List (Member ν)} (hkeys : (keys ms).Nodup) {a b : Member ν} (ha : a ∈ ms)
    (hb : b ∈ ms) {key : String} (hna : a.Named key) (hnb : b.Named key) : a = b := by
  unfold keys at hkeys
  by_contra hne
  have hpairs := List.pairwise_filterMap.mp hkeys
  have hsymm : Std.Symm fun a b : Member ν => ∀ x, a.key.map (·.text) = some x →
      ∀ y, b.key.map (·.text) = some y → x ≠ y :=
    ⟨fun a b h x hx y hy hxy => h y hy x hx hxy.symm⟩
  exact List.Pairwise.forall hpairs ha hb hne key hna key hnb rfl

/-- Where keys are distinct, the order of members makes no difference to the value under a key. -/
theorem value?_perm (hkeys : (keys members).Nodup) (hperm : members.Perm members') (key : String) :
    value? members key = value? members' key := by
  have hfind : members.find? (fun m => decide (m.Named key)) =
      members'.find? fun m => decide (m.Named key) := by
    cases hm : members.find? (fun m => decide (m.Named key)) with
    | none =>
      rw [List.find?_eq_none] at hm
      symm
      rw [List.find?_eq_none]
      intro m hmem
      exact hm m (hperm.mem_iff.mpr hmem)
    | some m =>
      have hmem : m ∈ members := List.mem_of_find?_eq_some hm
      have hnamed : m.Named key := by simpa using List.find?_some hm
      cases hm' : members'.find? (fun m => decide (m.Named key)) with
      | none =>
        have hnone := List.find?_eq_none.mp hm' m (hperm.mem_iff.mp hmem)
        exact absurd (decide_eq_true hnamed) hnone
      | some m' =>
        have hmem' : m' ∈ members := hperm.mem_iff.mpr (List.mem_of_find?_eq_some hm')
        have hnamed' : m'.Named key := by simpa using List.find?_some hm'
        rw [named_unique hkeys hmem hmem' hnamed hnamed']
  unfold value?
  rw [hfind]

/-- Related members have related values under each key. -/
theorem value?_rel (h : List.Forall₂ (Rel R) members middle) (key : String) :
    Option.Rel R (value? members key) (value? middle key) := by
  unfold value?
  induction h with
  | nil => exact .none
  | @cons a b _ _ hm _ ih =>
    have hsame : a.Named key ↔ b.Named key := by
      unfold Named
      rw [hm.key_eq]
    rw [List.find?_cons, List.find?_cons]
    by_cases hnamed : a.Named key
    · rw [decide_eq_true hnamed, decide_eq_true (hsame.mp hnamed)]
      cases hm with
      | bare key' => exact .none
      | valued key' hu => exact .some hu
    · rw [decide_eq_false hnamed, decide_eq_false fun hb => hnamed (hsame.mpr hb)]
      exact ih

end Member

namespace Node

variable {t t' : Node}

/-! ### Looking into nodes that are reordered -/

theorem Reordered.span_eq (h : t.Reordered t') : t.span = t'.span := by
  cases h <;> rfl

theorem Reordered.expectation_eq (h : t.Reordered t') : t.expectation = t'.expectation := by
  cases h <;> rfl

theorem Reordered.kind_eq (h : t.Reordered t') : t.kind = t'.kind := by
  cases h <;> rfl

theorem Reordered.text?_eq (h : t.Reordered t') : t.text? = t'.text? := by
  cases h <;> rfl

theorem Reordered.labels_eq (h : t.Reordered t') : t.labels = t'.labels := by
  unfold labels
  rw [h.expectation_eq]

/-- The members of an object that is reordered. -/
theorem Reordered.members {members : List (Member Node)} (h : t.Reordered t')
    (hmembers : t.members? = some members) :
    ∃ middle members', t'.members? = some members' ∧
      List.Forall₂ (Member.Rel Reordered) members middle ∧ middle.Perm members' ∧
      (Member.keys members).Nodup := by
  cases h with
  | leaf hnone _ =>
    rw [hmembers] at hnone
    cases hnone
  | array _ => cases hmembers
  | object h hperm hkeys =>
    cases hmembers
    exact ⟨_, _, rfl, h, hperm, hkeys⟩

/-- The items of an array whose items are reordered inside. -/
theorem Reordered.items {items : List Node} (h : t.Reordered t') (hitems : t.items? = some items) :
    ∃ items', t'.items? = some items' ∧ List.Forall₂ Reordered items items' := by
  cases h with
  | leaf _ hnone =>
    rw [hitems] at hnone
    cases hnone
  | array h =>
    cases hitems
    exact ⟨_, rfl, h⟩
  | object _ _ _ => cases hitems

/-- **Order is not seen**: nodes that are reordered are alike. -/
theorem Reordered.alike (h : t.Reordered t') : t.Alike t' := by
  refine .of_members h.span_eq h.kind_eq h.text?_eq fun members hmembers => ?_
  obtain ⟨middle, members', hmembers', hrel, hperm, hkeys⟩ := h.members hmembers
  refine ⟨members', hmembers', fun key => ?_, fun key => ?_⟩
  · have hkeys' : (Member.keys middle).Nodup := by
      rw [← Member.keys_eq_of_rel hrel]
      exact hkeys
    have hvalue := Member.value?_rel hrel key
    rw [Member.value?_perm hkeys' hperm] at hvalue
    generalize Member.value? members key = value at hvalue ⊢
    generalize Member.value? members' key = value' at hvalue ⊢
    cases hvalue with
    | none => rfl
    | some hu => exact hu.text?_eq
  · rw [Member.keys_eq_of_rel hrel]
    exact (hperm.filterMap _).mem_iff

/-! ### Filling and emptying slots -/

theorem Reordered.expecting (h : t.Reordered t') (expected : List Expectation) :
    (t.expecting expected).Reordered (t'.expecting expected) := by
  cases h with
  | leaf hmembers hitems => exact .leaf hmembers hitems
  | array h => exact .array h
  | object h hperm hkeys => exact .object h hperm hkeys

/-- Trees that are reordered have reordered content. -/
theorem Reordered.clear (h : t.Reordered t') : t.clear.Reordered t'.clear := by
  induction t using Node.induction generalizing t' with
  | leaf t hmembers hitems =>
    cases h with
    | leaf _ _ =>
      refine .leaf ?_ ?_
      · rw [members?_clear, hmembers, Option.map_none]
      · rw [items?_clear, hitems, Option.map_none]
    | array _ => cases hitems
    | object _ _ _ => cases hmembers
  | array span expectation items ih =>
    cases h with
    | leaf _ hitems => cases hitems
    | array h =>
      rw [clear_eq, clear_eq]
      exact .array (forall₂_map_of_mem h fun u hu u' hrel => ih u hu hrel)
  | object span expectation members ih =>
    cases h with
    | leaf hmembers _ => cases hmembers
    | object h hperm hkeys =>
      rw [clear_eq, clear_eq]
      refine .object (forall₂_map_of_mem h fun m hm m' hrel => ?_) (hperm.map clearMember) ?_
      · cases hrel with
        | bare key => exact .bare _
        | valued key hu => exact .valued _ (ih _ hm _ rfl hu)
      · rw [keys_clearMember]
        exact hkeys

/-- The null node that stands for a value is reordered with itself. -/
theorem Reordered.null (span : Span) : (Node.null span).Reordered (Node.null span) := .leaf rfl rfl

end Node

end DocShape
