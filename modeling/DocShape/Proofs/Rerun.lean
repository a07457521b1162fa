import DocShape.Proofs.History
import DocShape.Proofs.Slot

/-!
# Running a check once more

A check that is run twice in a row finds the same both times, but it need not leave the same. At a
union that passes on what was in the slot, the second run passes on what the first one has made of
it, and so the list in the slot may grow with every run.

`Wavers` says where this happens: at a union that is checked on a node of the document itself, down
through objects and arrays. `rerun_iff` says that it happens nowhere else: a second run leaves every
slot as it is if and only if there is no such union.
-/

namespace DocShape

/-- Two fillings of one slot are the same if and only if what is filled in is. -/
theorem Node.expecting_inj (t : Node) (x y : List Expectation) :
    t.expecting x = t.expecting y ↔ x = y := by
  constructor
  · intro h
    exact Option.some.inj (congrArg Node.expectation h)
  · intro h
    rw [h]

namespace Check

/-- Whether a rerun of one schema changes a slot, given which schemas further inside change one. -/
def StepWavers (env : Environment Chooser) (run : Run Chooser)
    (passesOn wavers : Schema Chooser → Scope → Node → Prop) (s : Schema Chooser) (sc : Scope)
    (t : Node) : Prop :=
  match handsTo? env.schemas sc t s, s with
  | some (c, sc'), _ => wavers c sc' t
  | none, .object (.fixed keys fields) => ∃ members, t.members? = some members ∧
    ∃ m ∈ members, ∃ key u, m.key = some key ∧ m.value = some u ∧ key.text ∈ keys ∧
      wavers (fields.property key.text).schema
        (propertyScope (fields.property key.text) key.text sc) u
  | none, .object (.keyed _ fields) => ∃ members, t.members? = some members ∧
    ∃ m ∈ members, ∃ key u, m.key = some key ∧ m.value = some u ∧
      wavers (fields.property key.text).schema sc u
  | none, .array item => ∃ items, t.items? = some items ∧ ∃ u ∈ items, wavers item sc u
  | none, .union alternatives => StepPassesOn env run passesOn (.union alternatives) sc t ∧
    (checkUnion run alternatives sc t).node.expected ≠ t.expected
  | none, _ => False

/-- Whether a check with some fuel comes to a union, on a node of the document itself, that passes
on what it finds in the slot and leaves another list there than it has found. -/
def Wavers (env : Environment Chooser) : Nat → Schema Chooser → Scope → Node → Prop
  | 0 => fun _ _ _ => False
  | fuel + 1 => StepWavers env (check env fuel) (PassesOn env fuel) (Wavers env fuel)

/-- A second run leaves what the first has left, unless the first wavers. -/
def RerunLawAt (run : Run Chooser) (wavers : Prop) (s : Schema Chooser) (sc : Scope) (t : Node) :
    Prop :=
  (run s sc (run s sc t).node).node = (run s sc t).node ↔ ¬ wavers

/-- A run that changes nothing the second time unless it wavers, whatever it is run on. -/
def RerunLaw (run : Run Chooser) (wavers : Schema Chooser → Scope → Node → Prop) : Prop :=
  ∀ s sc t, RerunLawAt run (wavers s sc t) s sc t

section Step

variable {env : Environment Chooser} {run : Run Chooser} {sc : Scope}
  {passesOn wavers : Schema Chooser → Scope → Node → Prop}

/-- The law for one run is that for another one that leaves the same nodes. -/
theorem RerunLawAt.of_same {run' : Run Chooser} {s c : Schema Chooser} {sc sc' : Scope} {t : Node}
    {P : Prop} (h : RerunLawAt run P c sc' t) (hrun : Blind run)
    (hsame : ∀ v, v.clear = t.clear → (run' s sc v).node = (run c sc' v).node) :
    RerunLawAt run' P s sc t := by
  unfold RerunLawAt
  rw [hsame t rfl, hsame _ (hrun.clear_node c sc' t)]
  exact h

/-! ### Objects and arrays -/

/-- A declared member is left the same again if the node of its value is: its hover is made from
that node, and where there is no value, the same null node stands in again. -/
theorem rerun_checkDeclared (hlaw : RerunLaw run wavers) (keys : List String)
    (fields : Fields (Schema Chooser)) (m : Member Node) :
    (checkDeclared env run keys fields sc (checkDeclared env run keys fields sc m).1).1 =
        (checkDeclared env run keys fields sc m).1 ↔
      ¬ ∃ key u, m.key = some key ∧ m.value = some u ∧ key.text ∈ keys ∧
        wavers (fields.property key.text).schema
          (propertyScope (fields.property key.text) key.text sc) u := by
  obtain ⟨_ | key, value⟩ := m
  · exact iff_of_true rfl fun ⟨_, _, h, _⟩ => nomatch h
  · by_cases hmem : key.text ∈ keys
    · have hmem' : ∀ hover, ({ key with hover := hover } : Key).text ∈ keys := fun _ => hmem
      cases value with
      | none =>
        refine iff_of_true ?_ fun ⟨_, _, _, h, _⟩ => nomatch h
        rw [checkDeclared_of_mem hmem, checkProperty]
        dsimp only [Option.map_none]
        rw [checkDeclared_of_mem (hmem' _)]
        rfl
      | some u =>
        have hvalue := hlaw (fields.property key.text).schema
          (propertyScope (fields.property key.text) key.text sc) u
        rw [checkDeclared_of_mem hmem, checkProperty]
        dsimp only [Option.map_some]
        rw [checkDeclared_of_mem (hmem' _)]
        constructor
        · intro h
          have hnode := hvalue.mp (Option.some.inj (congrArg Member.value h))
          rintro ⟨_, _, hkey, hu, _, hwavers⟩
          cases hkey
          cases hu
          exact hnode hwavers
        · intro h
          have hnode := hvalue.mpr fun hwavers => h ⟨key, u, rfl, rfl, hmem, hwavers⟩
          simp only [checkProperty, valueOrNull, Option.getD_some, Option.map_some, hnode]
    · rw [checkDeclared_of_not_mem hmem, checkDeclared_of_not_mem hmem]
      refine iff_of_true rfl ?_
      rintro ⟨_, _, hkey, _, hmem', _⟩
      cases hkey
      exact hmem hmem'

/-- A member whose key has a schema is left the same again if the node of its value is. -/
theorem rerun_checkKeyed (hlaw : RerunLaw run wavers) (keys : Schema Chooser)
    (fields : Fields (Schema Chooser)) (m : Member Node) :
    (checkKeyed run keys fields sc (checkKeyed run keys fields sc m).1).1 =
        (checkKeyed run keys fields sc m).1 ↔
      ¬ ∃ key u, m.key = some key ∧ m.value = some u ∧
        wavers (fields.property key.text).schema sc u := by
  obtain ⟨_ | key, _ | u⟩ := m
  · exact iff_of_true rfl fun ⟨_, _, h, _⟩ => nomatch h
  · exact iff_of_true rfl fun ⟨_, _, h, _⟩ => nomatch h
  · exact iff_of_true rfl fun ⟨_, _, _, h, _⟩ => nomatch h
  · have hvalue := hlaw (fields.property key.text).schema sc u
    constructor
    · intro h
      have hnode := hvalue.mp (Option.some.inj (congrArg Member.value h))
      rintro ⟨_, _, hkey, hu, hwavers⟩
      cases hkey
      cases hu
      exact hnode hwavers
    · intro h
      have hnode := hvalue.mpr fun hwavers => h ⟨key, u, rfl, rfl, hwavers⟩
      simp only [checkKeyed, hnode]

/-- Running something twice on each element of a list comes to the same as running it once if and
only if it does so on every element. -/
theorem map_map_eq_map_iff {α : Type} (f : α → α) (xs : List α) :
    (xs.map f).map f = xs.map f ↔ ∀ x ∈ xs, f (f x) = f x := by
  rw [List.map_map, List.map_inj_left]
  exact Iff.rfl

theorem rerun_checkObject (hlaw : RerunLaw run wavers) (shape : Shape (Schema Chooser)) (t : Node) :
    (checkObject env run shape sc (checkObject env run shape sc t).node).node =
        (checkObject env run shape sc t).node ↔
      ¬ StepWavers env run passesOn wavers (.object shape) sc t := by
  obtain ⟨span, expectation, body⟩ := t
  cases body with
  | array _ | string _ | number _ | boolean _ | null =>
    refine iff_of_true rfl fun h => ?_
    cases shape with
    | free => exact h
    | fixed _ _ | keyed _ _ =>
      obtain ⟨_, hmembers, _⟩ := h
      cases hmembers
  | object members =>
    cases shape with
    | free => exact iff_of_true rfl not_false
    | fixed keys fields =>
      have hmembers : ∀ ms, (checkMembers env run sc span ms (.fixed keys fields)).1 =
          ms.map fun m => (checkDeclared env run keys fields sc m).1 := fun ms => List.map_map
      simp only [checkObject, hmembers, Node.mk.injEq, Body.object.injEq, true_and,
        map_map_eq_map_iff, rerun_checkDeclared hlaw]
      constructor
      · rintro h ⟨_, heq, m, hm, hwavers⟩
        cases heq
        exact h m hm hwavers
      · intro h m hm hwavers
        exact h ⟨members, rfl, m, hm, hwavers⟩
    | keyed keys fields =>
      have hmembers : ∀ ms, (checkMembers env run sc span ms (.keyed keys fields)).1 =
          ms.map fun m => (checkKeyed run keys fields sc m).1 := fun ms => List.map_map
      simp only [checkObject, hmembers, Node.mk.injEq, Body.object.injEq, true_and,
        map_map_eq_map_iff, rerun_checkKeyed hlaw]
      constructor
      · rintro h ⟨_, heq, m, hm, hwavers⟩
        cases heq
        exact h m hm hwavers
      · intro h m hm hwavers
        exact h ⟨members, rfl, m, hm, hwavers⟩

theorem rerun_checkArray (hlaw : RerunLaw run wavers) (item : Schema Chooser) (t : Node) :
    (checkArray env run item sc (checkArray env run item sc t).node).node =
        (checkArray env run item sc t).node ↔
      ¬ StepWavers env run passesOn wavers (.array item) sc t := by
  obtain ⟨span, expectation, body⟩ := t
  cases body with
  | object _ | string _ | number _ | boolean _ | null =>
    refine iff_of_true rfl ?_
    rintro ⟨_, hitems, _⟩
    cases hitems
  | array items =>
    have hitem : ∀ u, (run item sc (run item sc u).node).node = (run item sc u).node ↔
        ¬ wavers item sc u := fun u => hlaw item sc u
    have hitems : ∀ us : List Node, (us.map (run item sc)).map (·.node) =
        us.map fun u => (run item sc u).node := fun us => List.map_map
    simp only [checkArray, hitems, Node.mk.injEq, Body.array.injEq, true_and, map_map_eq_map_iff,
      hitem]
    constructor
    · rintro h ⟨_, heq, u, hu, hwavers⟩
      cases heq
      exact h u hu hwavers
    · intro h u hu hwavers
      exact h ⟨items, rfl, u, hu, hwavers⟩

/-! ### Alternatives -/

/-- **A union** is left the same again unless it passes on and leaves another list than it finds:
the second run fills the draft of the first with the list that the first has left. -/
theorem rerun_checkUnion (hrun : Blind run) (hslots : SlotLaw run passesOn)
    (alternatives : List (Schema Chooser)) (t : Node) :
    (checkUnion run alternatives sc (checkUnion run alternatives sc t).node).node =
        (checkUnion run alternatives sc t).node ↔
      ¬ StepWavers env run passesOn wavers (.union alternatives) sc t := by
  have hclear := clear_checkUnion hrun.keeps alternatives sc t
  rcases union_slotLaw hrun hslots env alternatives sc t with
    ⟨huntouched, _⟩ | ⟨w, hdrafted, hopen⟩
  · have honce : (checkUnion run alternatives sc t).node = t := huntouched t rfl
    refine iff_of_true (by rw [honce, honce]) fun h => h.2 (by rw [honce])
  rcases checkUnion_eq hrun alternatives sc t with ⟨rfl, _⟩ | ⟨i, best, hbest, _, hi, _⟩
  · exact iff_of_true rfl fun h => h.2 rfl
  obtain ⟨x, honce⟩ := node_winner hrun hbest hi
  have hi' := (fewest?_trials_congr hrun sc alternatives hclear).trans hi
  obtain ⟨y, htwice⟩ := node_winner hrun hbest hi'
  have hx : x = w.fill t.expected := by
    have := hdrafted t rfl
    rw [Check.step, honce] at this
    exact Option.some.inj this
  have hy : y = w.fill x := by
    have := hdrafted _ hclear
    rw [Check.step, htwice, honce] at this
    exact Option.some.inj this
  have hwavers : StepWavers env run passesOn wavers (.union alternatives) sc t ↔
      none ∈ w ∧ x ≠ t.expected := by
    refine and_congr hopen ?_
    rw [honce]
    exact Iff.rfl
  rw [htwice, hclear, honce, Node.expecting_inj, hwavers, hy, hx, Draft.fill_fill_iff, not_and_or,
    not_not]

/-! ### Every schema -/

/-- **One step** is the same again, unless it wavers, if everything further inside is. -/
theorem step_rerunLaw (env : Environment Chooser) (hrun : Blind run)
    (hslots : SlotLaw run passesOn) (hlaw : RerunLaw run wavers) :
    RerunLaw (Check.step env run) (StepWavers env run passesOn wavers) := by
  intro s sc t
  cases hnext : handsTo? env.schemas sc t s with
  | some next =>
    obtain ⟨c, sc'⟩ := next
    have hwavers : StepWavers env run passesOn wavers s sc t = wavers c sc' t := by
      unfold StepWavers
      rw [hnext]
    rw [hwavers]
    exact (hlaw c sc' t).of_same hrun fun v hv => node_of_handsTo hnext hv
  | none =>
    cases s with
    | anything | scalar _ | oneOf _ | matching _ => exact iff_of_true rfl not_false
    | documented _ _ | select _ => cases hnext
    | object shape => exact rerun_checkObject hlaw shape t
    | array item => exact rerun_checkArray hlaw item t
    | union alternatives => exact rerun_checkUnion hrun hslots alternatives t
    -- nothing is handed on and nothing further inside is checked, so that nothing can waver
    | named name =>
      refine iff_of_true ?_ ?_
      · rw [node_of_unregistered hnext, node_of_unregistered hnext]
      · unfold StepWavers
        rw [hnext]
        exact not_false
    | switch key selector =>
      refine iff_of_true ?_ ?_
      · rw [node_of_no_object hnext rfl, node_of_no_object hnext (Node.clear_expecting t _)]
        rfl
      · unfold StepWavers
        rw [hnext]
        exact not_false
    | custom chooser parts =>
      refine iff_of_true ?_ ?_
      · rw [node_of_no_part hnext rfl, node_of_no_part hnext (Node.clear_expecting t _)]
        rfl
      · unfold StepWavers
        rw [hnext]
        exact not_false

end Step

/-- With any fuel, a second run leaves what the first has left unless it wavers. -/
theorem check_rerunLaw (env : Environment Chooser) (fuel : Nat) :
    RerunLaw (check env fuel) (Wavers env fuel) := by
  induction fuel with
  | zero => exact fun _ _ _ => iff_of_true rfl not_false
  | succ fuel ih =>
    intro s sc t
    exact step_rerunLaw env (check_blind env fuel) (check_slotLaw env fuel) ih s sc t

end Check

/-- **A rerun** of a check reports the same and leaves the same on every node and key, if and only
if no union that it comes to in the document passes on what it finds in the slot and leaves another
list there. -/
theorem rerun_iff (u : Setup Chooser) (s : Schema Chooser) (sc : Scope) (t : Node) :
    let once := u.check s sc t
    let twice := u.check s sc once.node
    u.report twice.log = u.report once.log ∧
      (twice.node = once.node ↔ ¬ Check.Wavers u.toEnvironment (u.budget s sc t) s sc t) := by
  intro once twice
  have hclear : once.node.clear = t.clear := u.clear_check s sc t
  refine ⟨congrArg u.report (u.log_check_congr s sc hclear), ?_⟩
  have hbudget : u.budget s sc once.node = u.budget s sc t := by
    rw [← Environment.budget_clear, hclear, Environment.budget_clear]
  have htwice : twice = check u.toEnvironment (u.budget s sc t) s sc once.node := by
    rw [← hbudget]
    rfl
  rw [htwice]
  exact Check.check_rerunLaw u.toEnvironment _ s sc t

/-- The hover of a key grows with every run where its value is checked against a union whose first
alternative has no schema. -/
theorem rerun_unregistered :
    let u : Setup Chooser := {}
    let value : Schema Chooser := .union [.named "nowhere", .scalar .string]
    let s := Schema.record ⟨[("a", ⟨value, none⟩)]⟩
    let t : Node := ⟨⟨0, 10⟩, none, .object [⟨some ⟨"a", ⟨1, 4⟩, none⟩, some (.string "s" ⟨6, 9⟩)⟩]⟩
    let once := u.check s {} t
    let twice := u.check s {} once.node
    (once.node.memberKey? 0).bind (·.hover) = some "```typescript\na: String\n```" ∧
      (twice.node.memberKey? 0).bind (·.hover) = some "```typescript\na: String | String\n```" := by
  decide +kernel

end DocShape
