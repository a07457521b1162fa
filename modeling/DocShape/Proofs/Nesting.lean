import DocShape.Proofs.Termination
import DocShape.Proofs.Places

/-!
# How deep expectations are nested

An expectation that describes the fields or keys of an object, or the items of an array, nests other
expectations one level deeper (`Expectation.NestsWithin`). Parts are described only as far as the
settings say, and each description is one scope further aside. So no slot that a check fills is nested
deeper than the settings allow from its scope on (`Check.check_bounded`).

A union has alternatives describe themselves without asking how far this may go. They do so one scope
aside, though, where no more is allowed than for the union itself.
-/

namespace DocShape

/-! ### Slots -/

/-- What holds of everything that a slot is filled with, if it is filled. -/
def SlotAll (P : Expectation → Prop) (slot : Option (List Expectation)) : Prop :=
  ∀ expected, slot = some expected → ∀ e ∈ expected, P e

section Slots

variable {P : Expectation → Prop}

theorem SlotAll.none : SlotAll P none := nofun

theorem SlotAll.some_iff {expected : List Expectation} :
    SlotAll P (some expected) ↔ ∀ e ∈ expected, P e := by
  constructor
  · intro h
    exact h expected rfl
  · rintro h _ ⟨⟩
    exact h

theorem SlotAll.getD {slot : Option (List Expectation)} (h : SlotAll P slot) :
    ∀ e ∈ slot.getD [], P e := by
  cases slot with
  | none => nofun
  | some expected => exact h expected rfl

/-- What holds of all that is in the slots of a tree. -/
def Node.AllSlots (P : Expectation → Prop) (t : Node) : Prop :=
  ∀ u, t.Holds u → SlotAll P u.expectation

namespace Node

variable {t : Node}

theorem AllSlots.slot (h : t.AllSlots P) : SlotAll P t.expectation := h t (.refl t)

/-- The slots of a tree are that of the node and those one step down. -/
theorem allSlots_iff : t.AllSlots P ↔
    SlotAll P t.expectation ∧ ∀ step u, t.child? step = some u → u.AllSlots P := by
  constructor
  · intro h
    exact ⟨h.slot, fun step u hu v hv => h v ((holds_child hu).trans hv)⟩
  · rintro ⟨hslot, hchildren⟩ v hv
    rcases holds_iff.mp hv with rfl | ⟨step, u, hu, hv⟩
    · exact hslot
    · exact hchildren step u hu v hv

theorem allSlots_of_members {members : List (Member Node)} (h : t.members? = some members) :
    t.AllSlots P ↔ SlotAll P t.expectation ∧
      ∀ m ∈ members, ∀ u, m.value = some u → u.AllSlots P := by
  rw [allSlots_iff]
  refine and_congr_right' ⟨fun hchildren m hm u hu => ?_, fun hvalues step u hu => ?_⟩
  · obtain ⟨step, hstep⟩ := child?_of_mem_members h hm hu
    exact hchildren step u hstep
  · rcases mem_of_child? hu with ⟨members', hmembers', m, hm, hvalue⟩ | ⟨items, hitems, -⟩
    · cases h.symm.trans hmembers'
      exact hvalues m hm u hvalue
    · have hkind := (kind_of_members? h).symm.trans (kind_of_items? hitems)
      cases hkind

theorem allSlots_of_items {items : List Node} (h : t.items? = some items) :
    t.AllSlots P ↔ SlotAll P t.expectation ∧ ∀ u ∈ items, u.AllSlots P := by
  rw [allSlots_iff]
  refine and_congr_right' ⟨fun hchildren u hu => ?_, fun hitems step u hu => ?_⟩
  · obtain ⟨step, hstep⟩ := child?_of_mem_items h hu
    exact hchildren step u hstep
  · rcases mem_of_child? hu with ⟨members, hmembers, -⟩ | ⟨items', hitems', hmem⟩
    · have hkind := (kind_of_members? hmembers).symm.trans (kind_of_items? h)
      cases hkind
    · cases h.symm.trans hitems'
      exact hitems u hmem

/-- A slot that is filled anew. -/
theorem AllSlots.expecting {expected : List Expectation} (h : t.AllSlots P)
    (hexpected : ∀ e ∈ expected, P e) : (t.expecting expected).AllSlots P := by
  have hchild : ∀ step, (t.expecting expected).child? step = t.child? step := by
    intro step
    cases step <;> rfl
  rw [allSlots_iff] at h ⊢
  refine ⟨SlotAll.some_iff.mpr hexpected, fun step u hu => ?_⟩
  rw [hchild] at hu
  exact h.2 step u hu

/-- Empty slots hold nothing. -/
theorem allSlots_clear (t : Node) : t.clear.AllSlots P := by
  intro u hu
  obtain ⟨v, -, rfl⟩ := holds_clear.mp hu
  rw [expectation_clear]
  exact SlotAll.none

end Node

end Slots

/-- An expectation nests other expectations in its fields, keys and items at most some levels deep. -/
def Expectation.NestsWithin : Nat → Expectation → Prop
  | 0, e => e.fields = none ∧ e.keys = none ∧ e.items = none
  | n + 1, e =>
    (∀ fields, e.fields = some fields → ∀ field ∈ fields, SlotAll (NestsWithin n) field.value) ∧
      SlotAll (NestsWithin n) e.keys ∧ SlotAll (NestsWithin n) e.items

/-- What describes no parts nests nothing. -/
theorem Expectation.nestsWithin_of_bare {e : Expectation} (hfields : e.fields = none)
    (hkeys : e.keys = none) (hitems : e.items = none) (n : Nat) : e.NestsWithin n := by
  cases n with
  | zero => exact ⟨hfields, hkeys, hitems⟩
  | succ n =>
    refine ⟨fun fields h => ?_, ?_, ?_⟩
    · rw [hfields] at h
      cases h
    · rw [hkeys]
      exact SlotAll.none
    · rw [hitems]
      exact SlotAll.none

namespace Check

variable {ε : Type}

/-- How many levels of descriptions are left in a scope. -/
def levels (env : Environment ε) (sc : Scope) : Nat :=
  (env.settings.expectationDepth + 1 - sc.depth).toNat

/-- A run that nests nothing deeper than its scope allows. -/
def Bounded (env : Environment ε) (run : Run ε) : Prop :=
  ∀ s sc t n, levels env sc ≤ n → t.AllSlots (Expectation.NestsWithin n) →
    (run s sc t).node.AllSlots (Expectation.NestsWithin n)

section Step

variable {env : Environment ε} {run : Run ε} (hrun : Bounded env run) {sc : Scope} {t : Node} {n : Nat}

/-- Levels are left where parts are described. -/
theorem levels_pos (h : sc.Describes env.settings) : 0 < levels env sc := by
  unfold levels
  unfold Scope.Describes at h
  omega

/-- One scope aside, there is one level less. -/
theorem levels_aside : levels env sc.aside = levels env sc - 1 := by
  unfold levels Scope.aside
  dsimp only
  omega

include hrun

/-! ### Descriptions -/

/-- What a schema says of itself nests one level less. -/
theorem nestsWithin_describe (s : Schema ε) (h : levels env sc ≤ n + 1) :
    SlotAll (Expectation.NestsWithin n) (describe run s sc).expected := by
  have haside : levels env sc.aside ≤ n := by
    rw [levels_aside]
    omega
  exact (hrun s sc.aside nowhere n haside (Node.allSlots_clear nowhere)).slot

/-- The keys of an expected object, or the items of an expected array, nest one level more than what
describes them. -/
theorem nestsWithin_of_part {e : Expectation} {s : Schema ε} (hfields : e.fields = none)
    (hkeys : e.keys = none ∨ e.keys = (describePart run env.settings s sc).expected)
    (hitems : e.items = none ∨ e.items = (describePart run env.settings s sc).expected)
    (h : levels env sc ≤ n) : e.NestsWithin n := by
  by_cases hdescribes : sc.Describes env.settings
  · have hpos := levels_pos hdescribes
    obtain ⟨k, rfl⟩ : ∃ k, n = k + 1 := ⟨n - 1, by omega⟩
    rw [describePart, if_pos hdescribes] at hkeys hitems
    have hpart := nestsWithin_describe hrun s h
    refine ⟨fun fields hsome => ?_, ?_, ?_⟩
    · rw [hfields] at hsome
      cases hsome
    · rcases hkeys with hnone | hsome
      · exact hnone ▸ SlotAll.none
      · exact hsome ▸ hpart
    · rcases hitems with hnone | hsome
      · exact hnone ▸ SlotAll.none
      · exact hsome ▸ hpart
  · rw [describePart, if_neg hdescribes] at hkeys hitems
    exact Expectation.nestsWithin_of_bare hfields (hkeys.elim id id) (hitems.elim id id) n

theorem nestsWithin_describeShape (shape : Shape (Schema ε)) (h : levels env sc ≤ n) :
    (describeShape run env.settings sc shape).1.NestsWithin n := by
  cases shape with
  | free => exact Expectation.nestsWithin_of_bare rfl rfl rfl n
  | keyed keys fields => exact nestsWithin_of_part hrun rfl (Or.inr rfl) (Or.inl rfl) h
  | fixed keys fields =>
    unfold describeShape
    dsimp only
    by_cases hdescribes : sc.Describes env.settings
    · have hpos := levels_pos hdescribes
      obtain ⟨k, rfl⟩ : ∃ k, n = k + 1 := ⟨n - 1, by omega⟩
      rw [if_pos hdescribes]
      refine ⟨?_, SlotAll.none, SlotAll.none⟩
      rintro _ ⟨⟩ field hfield
      simp only [List.map_map, List.mem_map, Function.comp_apply] at hfield
      obtain ⟨key, -, rfl⟩ := hfield
      exact nestsWithin_describe hrun _ h
    · rw [if_neg hdescribes]
      exact Expectation.nestsWithin_of_bare rfl rfl rfl n

/-! ### Objects and arrays -/

/-- The values of members are checked as deep as the object. -/
theorem bounded_checkMembers {members : List (Member Node)} (h : levels env sc ≤ n)
    (hmembers : ∀ m ∈ members, ∀ u, m.value = some u → u.AllSlots (Expectation.NestsWithin n))
    (span : Span) (shape : Shape (Schema ε)) :
    ∀ m ∈ (checkMembers env run sc span members shape).1, ∀ u, m.value = some u →
      u.AllSlots (Expectation.NestsWithin n) := by
  cases shape with
  | free => exact hmembers
  | fixed keys fields =>
    simp only [checkMembers, List.map_map, List.forall_mem_map, Function.comp_apply]
    rintro ⟨_ | key, value⟩ hm u hu
    · exact hmembers _ hm u hu
    · by_cases hmem : key.text ∈ keys
      · rw [checkDeclared_of_mem hmem] at hu
        obtain ⟨u₀, hvalue, rfl⟩ := Option.map_eq_some_iff.mp hu
        cases hvalue
        refine hrun _ _ _ n ?_ (hmembers _ hm u₀ rfl)
        unfold levels
        rw [depth_propertyScope]
        exact h
      · rw [checkDeclared_of_not_mem hmem] at hu
        exact hmembers _ hm u hu
  | keyed keys fields =>
    simp only [checkMembers, List.map_map, List.forall_mem_map, Function.comp_apply]
    rintro ⟨_ | key, _ | u₀⟩ hm u hu
    · cases hu
    · exact hmembers _ hm u hu
    · cases hu
    · cases hu
      exact hrun _ _ _ n h (hmembers _ hm u₀ rfl)

theorem bounded_checkObject (shape : Shape (Schema ε)) (h : levels env sc ≤ n)
    (ht : t.AllSlots (Expectation.NestsWithin n)) :
    (checkObject env run shape sc t).node.AllSlots (Expectation.NestsWithin n) := by
  have hdescribed : ∀ e ∈ [(describeShape run env.settings sc shape).1], e.NestsWithin n :=
    List.forall_mem_singleton.mpr (nestsWithin_describeShape hrun shape h)
  cases hmembers : t.members? with
  | none =>
    rw [checkObject_of_none hmembers]
    exact ht.expecting hdescribed
  | some members =>
    rw [checkObject_of_members hmembers, Node.allSlots_of_members rfl]
    exact ⟨SlotAll.some_iff.mpr hdescribed, bounded_checkMembers hrun h
      ((Node.allSlots_of_members hmembers).mp ht).2 t.span shape⟩

theorem bounded_checkArray (item : Schema ε) (h : levels env sc ≤ n)
    (ht : t.AllSlots (Expectation.NestsWithin n)) :
    (checkArray env run item sc t).node.AllSlots (Expectation.NestsWithin n) := by
  have hdescribed : ∀ e ∈ [{ Expectation.array with
      items := (describePart run env.settings item sc).expected }], e.NestsWithin n :=
    List.forall_mem_singleton.mpr (nestsWithin_of_part hrun rfl (Or.inl rfl) (Or.inr rfl) h)
  cases hitems : t.items? with
  | none =>
    rw [checkArray_of_none hitems]
    exact ht.expecting hdescribed
  | some items =>
    rw [checkArray_of_items hitems, Node.allSlots_of_items rfl]
    refine ⟨SlotAll.some_iff.mpr hdescribed, ?_⟩
    simp only [List.map_map, List.forall_mem_map, Function.comp_apply]
    intro u hu
    exact hrun _ _ _ n h (((Node.allSlots_of_items hitems).mp ht).2 u hu)

/-! ### Alternatives -/

/-- Trials nest no deeper, each on what the one before has left. -/
theorem bounded_trials (alternatives : List (Schema ε)) (h : levels env sc ≤ n)
    (ht : t.AllSlots (Expectation.NestsWithin n)) :
    ∀ o ∈ trials run sc alternatives t, o.node.AllSlots (Expectation.NestsWithin n) := by
  induction alternatives generalizing t with
  | nil => nofun
  | cons s rest ih =>
    have hnode := hrun s sc t n h ht
    rw [trials]
    split
    · exact List.forall_mem_singleton.mpr hnode
    · exact List.forall_mem_cons.mpr ⟨hnode, ih hnode⟩

theorem bounded_checkUnion (hkeeps : Keeps run) (alternatives : List (Schema ε))
    (h : levels env sc ≤ n) (ht : t.AllSlots (Expectation.NestsWithin n)) :
    (checkUnion run alternatives sc t).node.AllSlots (Expectation.NestsWithin n) := by
  rcases checkUnion_cases hkeeps alternatives sc t with
    ⟨rfl, heq⟩ | ⟨index, best, -, -, heq⟩
  · rw [heq]
    exact ht
  · have hchosen := hrun best sc t.clear n h (Node.allSlots_clear t)
    rw [heq]
    refine hchosen.expecting fun e he => ?_
    obtain ⟨slot, hslot, he⟩ := List.mem_flatMap.mp he
    have hall : SlotAll (Expectation.NestsWithin n) slot := by
      rcases List.mem_append.mp hslot with htried | huntried
      · obtain ⟨o, ho, rfl⟩ := List.mem_map.mp htried
        rcases List.mem_or_eq_of_mem_set ho with ho | rfl
        · exact (bounded_trials hrun alternatives h ht o ho).slot
        · exact hchosen.slot
      · simp only [List.map_map, List.mem_map, Function.comp_apply] at huntried
        obtain ⟨s, -, rfl⟩ := huntried
        exact nestsWithin_describe hrun s (Nat.le_succ_of_le h)
    cases slot with
    | none => cases he
    | some expected => exact hall expected rfl e he

end Step

/-! ### Any check -/

variable [CustomCheck ε] [Picking ε]

/-- A node that is handed on stays as far aside. -/
theorem levels_of_relay {env : Environment ε} {sc : Scope} {t : Node} {s : Schema ε} {r : Relay ε}
    (h : relay? env sc t s = some r) : levels env r.scope = levels env sc := by
  obtain ⟨-, hdepth⟩ := hands_of_relay h
  unfold levels
  rw [hdepth]

omit [CustomCheck ε] [Picking ε] in
/-- What is checked by itself nests nothing. -/
theorem bounded_alone {t : Node} {n : Nat} (ht : t.AllSlots (Expectation.NestsWithin n))
    (s : Schema ε) : (alone t s).node.AllSlots (Expectation.NestsWithin n) := by
  have hbare : ∀ {e : Expectation}, e.fields = none → e.keys = none → e.items = none →
      (t.expecting [e]).AllSlots (Expectation.NestsWithin n) := fun hfields hkeys hitems =>
    ht.expecting (List.forall_mem_singleton.mpr
      (Expectation.nestsWithin_of_bare hfields hkeys hitems n))
  cases s with
  | named name => exact ht
  | scalar scalar => cases scalar <;> exact hbare rfl rfl rfl
  | anything | oneOf _ | matching _ | object _ | array _ | union _ | documented _ _ | switch _ _
  | select _ | custom _ _ => exact hbare rfl rfl rfl

/-- **One step** nests nothing deeper than its scope allows if nothing further inside does. -/
theorem step_bounded (env : Environment ε) {run : Run ε} (hkeeps : Keeps run)
    (hrun : Bounded env run) : Bounded env (Check.step env run) := by
  intro s sc t n h ht
  cases way env sc t s with
  | relay hrelay =>
    rw [step_of_relay hrelay]
    exact hrun _ _ _ n (levels_of_relay hrelay ▸ h) ht
  | alone hs hrelay =>
    rw [step_of_alone hs hrelay]
    exact bounded_alone ht s
  | object shape => exact bounded_checkObject hrun shape h ht
  | array item => exact bounded_checkArray hrun item h ht
  | union alternatives => exact bounded_checkUnion hrun hkeeps alternatives h ht

/-- **Checks nest nothing deeper** than their scope allows, with any fuel. -/
theorem check_bounded (env : Environment ε) (fuel : Nat) : Bounded env (check env fuel) := by
  induction fuel with
  | zero => exact fun _ _ _ _ _ ht => ht
  | succ fuel ih =>
    exact fun s sc t n h ht => step_bounded env (check_keeps env fuel) ih s sc t n h ht

end Check

end DocShape
