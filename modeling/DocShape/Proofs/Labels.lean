import DocShape.Proofs.Termination

/-!
# Labels hang on the schema alone

What a check leaves in the slot of a node has labels. For a schema that is `Definite` they are a fixed
list (`labels_eq_of_definite`): its own label, or for a union the labels of all alternatives in order
(`Schema.Labelled`), whether or not the node fits. The node, what its slots held before, the scope and
the settings make no difference.

A slot is filled in three ways by a union, by the trial of an alternative, by its last run and by its
description, and in two ways by an object of declared keys, for a value and for a description of the
field. All of them are checks of one schema, so the labels in the hover of a key are those of its field,
and there is one list for each key.
-/

namespace DocShape

variable {ε : Type}

/-! ### Labels of schemas -/

/-- The label of a schema that has one of its own. A schema that decides on another one has the label of
an object. -/
def Schema.label? : Schema ε → Option String
  | .anything => some Expectation.any.label
  | .scalar kind => some kind.expectation.label
  | .oneOf _ | .matching _ => some Expectation.string.label
  | .object _ | .switch _ _ | .select _ | .custom _ _ => some Expectation.object.label
  | .array _ => some Expectation.array.label
  | .union _ | .named _ | .documented _ _ => none

/-- The labels of a schema: those of a union are the labels of its alternatives in order, one list after
the other. -/
inductive Schema.Labelled (schemas : Table (Schema ε)) : Schema ε → List String → Prop
  | own {s : Schema ε} {label : String} (h : s.label? = some label) : Labelled schemas s [label]
  | alternative {s : Schema ε} {labels : List String} (h : Labelled schemas s labels) :
    Labelled schemas (.union [s]) labels
  | alternatives {s : Schema ε} {rest : List (Schema ε)} {labels labels' : List String}
    (h : Labelled schemas s labels) (hrest : Labelled schemas (.union rest) labels') :
    Labelled schemas (.union (s :: rest)) (labels ++ labels')
  | named {name : String} {s : Schema ε} {labels : List String} (hget : schemas.get? name = some s)
    (h : Labelled schemas s labels) : Labelled schemas (.named name) labels
  | documented {path : String} {s : Schema ε} {labels : List String} (h : Labelled schemas s labels) :
    Labelled schemas (.documented path s) labels

namespace Schema.Labelled

variable {schemas : Table (Schema ε)} {s : Schema ε} {labels labels' : List String}

/-- A schema has no two lists of labels. -/
theorem unique (h : s.Labelled schemas labels) (h' : s.Labelled schemas labels') :
    labels = labels' := by
  induction h generalizing labels' with
  | own h =>
    cases h' with
    | own h' => rw [Option.some.inj (h.symm.trans h')]
    | alternative _ | alternatives _ _ | named _ _ | documented _ => cases h
  | alternative _ ih =>
    cases h' with
    | own h' => cases h'
    | alternative h' => exact ih h'
    | alternatives _ hrest =>
      cases hrest with
      | own h' => cases h'
  | alternatives _ hrest ih ihrest =>
    cases h' with
    | own h' => cases h'
    | alternative _ =>
      cases hrest with
      | own h' => cases h'
    | alternatives h' hrest' => rw [ih h', ihrest hrest']
  | named hget _ ih =>
    cases h' with
    | own h' => cases h'
    | named hget' h' =>
      cases hget.symm.trans hget'
      exact ih h'
  | documented _ ih =>
    cases h' with
    | own h' => cases h'
    | documented h' => exact ih h'

/-- The labels of a union are put together from those of its alternatives. -/
theorem union {ss : List (Schema ε)} {lists : List (List String)} (hne : ss ≠ [])
    (h : List.Forall₂ (Schema.Labelled schemas) ss lists) :
    (Schema.union ss).Labelled schemas lists.flatten := by
  induction h with
  | nil => exact absurd rfl hne
  | @cons s labels rest lists hs hrest ih =>
    rw [List.flatten_cons]
    cases hrest with
    | nil =>
      rw [List.flatten_nil, List.append_nil]
      exact .alternative hs
    | cons hs' hrest' => exact .alternatives hs (ih (List.cons_ne_nil _ _))

end Schema.Labelled

/-- A slot that has been filled with the labels of a schema. -/
def Schema.Fills (schemas : Table (Schema ε)) (s : Schema ε) (slot : Option (List Expectation)) :
    Prop :=
  ∃ expected, slot = some expected ∧ s.Labelled schemas (expected.map (·.label))

/-! ### Schemas whose labels are fixed -/

section Definite

variable [CustomCheck ε] [Picking ε]

/-- A schema that has alternatives, if it is a union, refers to a registered schema, if it is a name,
and hands every node on to an object, if it decides on another schema by the node. -/
def Schema.Settled (schemas : Table (Schema ε)) : Schema ε → Prop
  | .union alternatives => alternatives ≠ []
  | .named name => ∃ s, schemas.get? name = some s
  | .switch _ selector | .select selector => ∀ t value, ∃ shape,
    (selector.choose Schema.record t value).1 = .object shape
  | .custom choice parts => ∀ settings sc t, ∃ shape,
    parts[(Picking.picker choice).index settings sc t]? = some (.object shape)
  | .anything | .scalar _ | .oneOf _ | .matching _ | .object _ | .array _ | .documented _ _ => True

/-- A schema that uses settled schemas only. -/
def Schema.Definite (schemas : Table (Schema ε)) (s : Schema ε) : Prop :=
  ∀ p, s.Uses schemas p → p.Settled schemas

variable {schemas : Table (Schema ε)} {s p : Schema ε}

theorem Schema.Definite.settled (h : s.Definite schemas) : s.Settled schemas := h s (.self s)

theorem Schema.Definite.part (h : s.Definite schemas) (hp : p ∈ s.parts) : p.Definite schemas :=
  fun q huses => h q (.part hp huses)

theorem Schema.Definite.registered {name : String} (h : (Schema.named name).Definite schemas)
    (hget : schemas.get? name = some p) : p.Definite schemas :=
  fun q huses => h q (.named hget huses)

/-- Schemas are definite if they are settled and use no others. -/
theorem Schema.definite_of_closed (ss : List (Schema ε)) (hsettled : ∀ p ∈ ss, p.Settled schemas)
    (hparts : ∀ p ∈ ss, ∀ q ∈ p.parts, q ∈ ss)
    (hnames : ∀ name, .named name ∈ ss → ∀ q, schemas.get? name = some q → q ∈ ss) (hs : s ∈ ss) :
    s.Definite schemas := by
  intro q huses
  exact hsettled q (huses.mem_of_closed hparts hnames hs)

end Definite

namespace Check

/-! ### One step -/

section Step

variable {schemas : Table (Schema ε)} {env : Environment ε} {run : Run ε} {sc : Scope} {t : Node}
  {s : Schema ε}

/-- One thing is expected of what is checked as an object. -/
theorem expectation_checkObject (shape : Shape (Schema ε)) :
    (checkObject env run shape sc t).node.expectation =
      some [(describeShape run env.settings sc shape).1] := by
  cases hmembers : t.members? with
  | none =>
    rw [checkObject_of_none hmembers]
    rfl
  | some members => rw [checkObject_of_members hmembers]

/-- An object has been described when it has been checked. -/
theorem finished_describeShape {shape : Shape (Schema ε)}
    (hfinished : (checkObject env run shape sc t).log.finished = true) :
    (describeShape run env.settings sc shape).2.finished = true := by
  cases hmembers : t.members? with
  | none =>
    rw [checkObject_of_none hmembers] at hfinished
    exact Log.finished_left hfinished
  | some members =>
    rw [checkObject_of_members hmembers] at hfinished
    exact Log.finished_left hfinished

/-- One thing is expected of what is checked as an array. -/
theorem expectation_checkArray (item : Schema ε) :
    (checkArray env run item sc t).node.expectation = some [{ Expectation.array with
      items := (describePart run env.settings item sc).expected }] := by
  cases hitems : t.items? with
  | none =>
    rw [checkArray_of_none hitems]
    rfl
  | some items => rw [checkArray_of_items hitems]

/-- The items of an array have been described when it has been checked. -/
theorem finished_describeItem {item : Schema ε}
    (hfinished : (checkArray env run item sc t).log.finished = true) :
    (describePart run env.settings item sc).log.finished = true := by
  cases hitems : t.items? with
  | none =>
    rw [checkArray_of_none hitems] at hfinished
    exact Log.finished_left hfinished
  | some items =>
    rw [checkArray_of_items hitems] at hfinished
    exact Log.finished_left hfinished

/-- An object has its label however far it is described. -/
theorem label_describeShape (settings : Settings) (shape : Shape (Schema ε)) :
    (describeShape run settings sc shape).1.label = Expectation.object.label := by
  cases shape with
  | free | keyed _ _ => rfl
  | fixed keys fields =>
    simp only [describeShape]
    split <;> rfl

/-- What is checked as an object gets the label of one. -/
theorem fills_checkObject (shape : Shape (Schema ε))
    (hs : s.label? = some Expectation.object.label) :
    s.Fills schemas (checkObject env run shape sc t).node.expectation := by
  refine ⟨_, expectation_checkObject shape, ?_⟩
  rw [List.map_singleton, label_describeShape]
  exact .own hs

theorem fills_checkArray (item : Schema ε) :
    (Schema.array item).Fills schemas (checkArray env run item sc t).node.expectation :=
  ⟨_, expectation_checkArray item, .own rfl⟩

/-- A union gets the labels of its alternatives in order, if each check of an alternative leaves the
labels of that alternative when it comes to its end. -/
theorem fills_checkUnion (hkeeps : Keeps run) {alternatives : List (Schema ε)}
    (hne : alternatives ≠ [])
    (h : ∀ s ∈ alternatives, ∀ sc t, (run s sc t).log.finished = true →
      s.Fills schemas (run s sc t).node.expectation)
    (hfinished : (checkUnion run alternatives sc t).log.finished = true) :
    (Schema.union alternatives).Fills schemas
      (checkUnion run alternatives sc t).node.expectation := by
  rcases checkUnion_cases hkeeps alternatives sc t with
    ⟨hnil, -⟩ | ⟨index, best, hbest, hindex, -⟩
  · exact absurd hnil hne
  obtain ⟨slots, hslots, hexpectation⟩ := exists_slots_chosen hkeeps hbest hindex
    (S := fun s slot => s ∈ alternatives → s.Fills schemas slot)
    (fun s sc v hfin hs => h s hs sc v hfin) hfinished
  have hfills : List.Forall₂ (Schema.Labelled schemas) alternatives
      (slots.map fun slot => (slot.getD []).map (·.label)) := by
    rw [List.forall₂_map_right_iff]
    refine ((List.forall₂_and_left _ _).mpr ⟨fun s hs => hs, hslots⟩).imp ?_
    rintro s slot ⟨hs, hslot⟩
    obtain ⟨expected, rfl, hlabels⟩ := hslot hs
    exact hlabels
  refine ⟨_, hexpectation, ?_⟩
  rw [List.map_flatMap, List.flatMap_def]
  exact .union hne hfills

variable [CustomCheck ε] [Picking ε]

/-- A settled schema that is checked by itself has its own label. -/
theorem fills_alone (hs : ¬ s.Compound) (hsettled : s.Settled env.schemas)
    (h : relay? env sc t s = none) : s.Fills schemas (alone t s).node.expectation := by
  cases s with
  | anything | scalar _ | oneOf _ | matching _ | switch _ _ => exact ⟨_, rfl, .own rfl⟩
  | object _ | array _ | union _ => exact absurd trivial hs
  | documented _ _ | select _ => cases h
  | named name =>
    obtain ⟨p, hget⟩ := hsettled
    rw [relay?, hget] at h
    cases h
  | custom choice parts =>
    obtain ⟨shape, hpart⟩ := hsettled env.settings sc t
    rw [relay?, hpart] at h
    cases h

end Step

/-! ### Records -/

section Record

variable {env : Environment ε} {run : Run ε} {keys : List String} {fields : Fields (Schema ε)}
  {sc : Scope} {t : Node}

/-- A declared key that comes out of an object of declared keys went in with the same text, and its hover
shows what its value was checked to be. -/
theorem hover_checkDeclared {keys : List String} {fields : Fields (Schema ε)}
    {m : Member Node} {key : Key}
    (hkey : (checkDeclared env run keys fields sc m).1.key = some key) (hmem : key.text ∈ keys) :
    ∃ before, m.key = some before ∧ before.text = key.text ∧
      let inside := propertyScope (fields.property key.text) key.text sc
      key.hover = some (env.settings.hover inside.path
        (run (fields.property key.text).schema inside (valueOrNull before m)).node.labels
        (env.documentation inside.path)) := by
  obtain ⟨_ | before, value⟩ := m
  · cases hkey
  · by_cases hbefore : before.text ∈ keys
    · rw [checkDeclared_of_mem hbefore] at hkey
      cases hkey
      exact ⟨before, rfl, rfl, rfl⟩
    · rw [checkDeclared_of_not_mem hbefore] at hkey
      cases hkey
      exact absurd hmem hbefore

/-- The fields that a record describes are its declared keys, each with what its schema says of itself. -/
theorem fields_describeShape {settings : Settings} (hdescribes : sc.Describes settings)
    (keys : List String) (fields : Fields (Schema ε)) :
    (describeShape run settings sc (.fixed keys fields)).1.fields =
      some (keys.map fun key => fieldOf key (fields.property key)
        (describe run (fields.property key).schema sc)) := by
  simp only [describeShape, if_pos hdescribes, List.map_map]
  rfl

/-- A declared key of a record shows what its value was checked to be, by a check that came to its end. -/
theorem hover_checkObject
    (hfinished : (checkObject env run (.fixed keys fields) sc t).log.finished = true)
    {members : List (Member Node)}
    (hmembers : (checkObject env run (.fixed keys fields) sc t).node.members? = some members)
    {m : Member Node} (hm : m ∈ members) {key : Key} (hkey : m.key = some key)
    (hmem : key.text ∈ keys) :
    let inside := propertyScope (fields.property key.text) key.text sc
    ∃ value, let o := run (fields.property key.text).schema inside value
      o.log.finished = true ∧ key.hover = some (env.settings.hover inside.path o.node.labels
        (env.documentation inside.path)) := by
  cases hbefore : t.members? with
  | none =>
    rw [checkObject_of_none hbefore] at hmembers
    exact absurd (hbefore.symm.trans hmembers) nofun
  | some before =>
    rw [checkObject_of_members hbefore] at hmembers hfinished
    have hlog := Log.finished_right hfinished
    rw [joint_checkMembers_fixed Log.joint_finished] at hlog
    cases hmembers
    obtain ⟨_, hmem', rfl⟩ := List.mem_map.mp hm
    obtain ⟨m₀, hm₀, rfl⟩ := List.mem_map.mp hmem'
    obtain ⟨key₀, hkey₀, htext, hhover⟩ := hover_checkDeclared hkey hmem
    have hvalue := hlog.2 m₀ hm₀ key₀ hkey₀ (htext ▸ hmem)
    rw [htext] at hvalue
    exact ⟨valueOrNull key₀ m₀, hvalue, hhover⟩

/-- Where fields are described, a record describes its declared keys, each by what a check that came to
its end left on a null node. -/
theorem described_checkObject (hdescribes : sc.Describes env.settings)
    (hfinished : (checkObject env run (.fixed keys fields) sc t).log.finished = true) :
    ∃ e, (checkObject env run (.fixed keys fields) sc t).node.expectation = some [e] ∧
      e.fields = some (keys.map fun key => fieldOf key (fields.property key)
        (describe run (fields.property key).schema sc)) ∧
      ∀ key ∈ keys, (run (fields.property key).schema sc.aside nowhere).log.finished = true := by
  refine ⟨_, expectation_checkObject _, fields_describeShape hdescribes keys fields, ?_⟩
  have hlog := finished_describeShape hfinished
  rw [joint_describeShape Log.joint_finished] at hlog
  exact fun key hkey => hlog hdescribes _ (List.mem_map_of_mem hkey)

end Record

/-! ### Any check -/

variable [CustomCheck ε] [Picking ε]

/-- **A check of a definite schema** that comes to its end fills the slot of its node with the labels of
the schema. -/
theorem fills_check (env : Environment ε) (fuel : Nat) {s : Schema ε} (hs : s.Definite env.schemas)
    (sc : Scope) (t : Node) (hfinished : (check env fuel s sc t).log.finished = true) :
    s.Fills env.schemas (check env fuel s sc t).node.expectation := by
  induction fuel generalizing s sc t with
  | zero => cases hfinished
  | succ fuel ih =>
    rw [check_succ, Outcome.node_after]
    have hstep := Log.finished_right hfinished
    -- what is decided on by the node is checked as an object
    have hobject : ∀ {r : Relay ε} {shape : Shape (Schema ε)}, relay? env sc t s = some r →
        r.schema = .object shape → s.label? = some Expectation.object.label →
        s.Fills env.schemas (check env fuel r.schema r.scope t).node.expectation := by
      intro r shape hrelay hshape hlabel
      rw [step_of_relay hrelay] at hstep
      have hrun := Log.finished_right hstep
      rw [hshape] at hrun ⊢
      cases fuel with
      | zero => cases hrun
      | succ fuel => exact fills_checkObject shape hlabel
    cases way env sc t s with
    | alone hcompound hrelay =>
      rw [step_of_alone hcompound hrelay]
      exact fills_alone hcompound hs.settled hrelay
    | object shape => exact fills_checkObject shape rfl
    | array item => exact fills_checkArray item
    | union alternatives =>
      exact fills_checkUnion (check_keeps env fuel) hs.settled
        (fun s hmem sc t => ih (hs.part hmem) sc t) hstep
    | @relay s r hrelay =>
      rw [step_of_relay hrelay] at hstep ⊢
      have hrun := Log.finished_right hstep
      rw [Outcome.node_after]
      cases s with
      | anything | scalar _ | oneOf _ | matching _ | object _ | array _ | union _ => cases hrelay
      | named name =>
        obtain ⟨p, hget, rfl⟩ := Option.map_eq_some_iff.mp hrelay
        obtain ⟨expected, hexpected, hlabels⟩ := ih (hs.registered hget) sc t hrun
        exact ⟨expected, hexpected, .named hget hlabels⟩
      | documented path p =>
        cases hrelay
        obtain ⟨expected, hexpected, hlabels⟩ :=
          ih (hs.part (List.mem_singleton_self p)) _ t hrun
        exact ⟨expected, hexpected, .documented hlabels⟩
      | switch key selector =>
        obtain ⟨members, hmembers, rfl⟩ := Option.map_eq_some_iff.mp hrelay
        obtain ⟨shape, hshape⟩ := hs.settled t (t.textUnder? key)
        exact hobject hrelay hshape rfl
      | select selector =>
        cases hrelay
        obtain ⟨shape, hshape⟩ := hs.settled t none
        exact hobject rfl hshape rfl
      | custom choice parts =>
        obtain ⟨p, hpart, rfl⟩ := Option.map_eq_some_iff.mp hrelay
        obtain ⟨shape, hshape⟩ := hs.settled env.settings sc t
        exact hobject hrelay (Option.some.inj (hpart.symm.trans hshape)) rfl

end Check

section Ends

variable [CustomCheck ε] [Picking ε] {env : Environment ε} {s : Schema ε}

/-- A definite schema has one list of labels, and every check that comes to its end leaves them. -/
theorem exists_labels (hs : s.Definite env.schemas) : ∃ labels, ∀ sc t o, env.Ends s sc t o →
    s.Labelled env.schemas labels ∧
      ∃ expected, o.node.expectation = some expected ∧ expected.map (·.label) = labels := by
  by_cases h : ∃ labels, s.Labelled env.schemas labels
  · obtain ⟨labels, hlabels⟩ := h
    refine ⟨labels, ?_⟩
    rintro sc t o ⟨fuel, rfl, hfinished⟩
    obtain ⟨expected, hexpected, hlabelled⟩ := Check.fills_check env fuel hs sc t hfinished
    exact ⟨hlabels, expected, hexpected, hlabelled.unique hlabels⟩
  · refine ⟨[], ?_⟩
    rintro sc t o ⟨fuel, rfl, hfinished⟩
    obtain ⟨expected, -, hlabelled⟩ := Check.fills_check env fuel hs sc t hfinished
    exact absurd ⟨_, hlabelled⟩ h

end Ends

/-- **Labels hang on the schema alone**: every check of a definite schema that comes to its end leaves
the labels of the schema on the node, whatever the node, its slots and the scope. All checks do come to
their end where each circle of registered names passes through an object or an array.

If the schema is an object of declared keys, there is one list of labels for each key. The hover of the
key shows it, whether its value fits, does not fit or is not there, and where fields are described, the
field of the key has it, too. -/
theorem labels_eq_of_definite (u : Setup Picker) {s : Schema Picker} (hs : s.Definite u.schemas) :
    (∃ labels, ∀ sc t o, u.Ends s sc t o →
      s.Labelled u.schemas labels ∧ o.node.labels = labels) ∧
    (Guarded u.schemas → ∀ sc t, u.Ends s sc t (u.check s sc t)) ∧
    ∀ keys fields, s = .object (.fixed keys fields) → ∃ labelsOf : String → List String,
      ∀ sc t o, u.Ends s sc t o →
        (∀ members, o.node.members? = some members → ∀ m ∈ members, ∀ key, m.key = some key →
          key.text ∈ keys →
          let path := (Check.propertyScope (fields.property key.text) key.text sc).path
          (fields.property key.text).schema.Labelled u.schemas (labelsOf key.text) ∧
          key.hover = some (u.settings.hover path (labelsOf key.text) (u.documentation path))) ∧
        (sc.Describes u.settings → ∃ e described, o.node.expectation = some [e] ∧
          e.fields = some described ∧ described.map (·.key) = keys ∧
          ∀ field ∈ described, ∃ expected, field.value = some expected ∧
            expected.map (·.label) = labelsOf field.key) := by
  refine ⟨?_, fun hguard sc t => ⟨_, rfl, finished_check hguard s sc t _ (Nat.le_refl _)⟩, ?_⟩
  · obtain ⟨labels, hlabels⟩ := exists_labels hs
    refine ⟨labels, fun sc t o hends => ?_⟩
    obtain ⟨hlabelled, expected, hexpected, heq⟩ := hlabels sc t o hends
    refine ⟨hlabelled, ?_⟩
    rw [Node.labels, hexpected, Option.getD_some, heq]
  · rintro keys fields rfl
    have hfields : ∀ key, (fields.property key).schema.Definite u.schemas :=
      fun key => hs.part (fields.property_mem key)
    choose labelsOf hlabelsOf using fun key => exists_labels (hfields key)
    refine ⟨labelsOf, ?_⟩
    rintro sc t o ⟨fuel, rfl, hfinished⟩
    cases fuel with
    | zero => cases hfinished
    | succ fuel =>
      have hstep := Log.finished_right hfinished
      constructor
      · intro members hmembers m hm key hkey hmem path
        obtain ⟨value, hfin, hhover⟩ := Check.hover_checkObject hstep hmembers hm hkey hmem
        obtain ⟨hlabelled, expected, hexpected, heq⟩ :=
          hlabelsOf key.text _ _ _ ⟨fuel, rfl, hfin⟩
        refine ⟨hlabelled, hhover.trans ?_⟩
        rw [Node.labels, hexpected, Option.getD_some, heq]
      · intro hdescribes
        obtain ⟨e, hexpectation, hdescribed, hfin⟩ := Check.described_checkObject hdescribes hstep
        refine ⟨e, _, hexpectation, hdescribed, ?_, ?_⟩
        · rw [List.map_map]
          exact List.map_id keys
        · intro field hfield
          obtain ⟨key, hkey, rfl⟩ := List.mem_map.mp hfield
          obtain ⟨-, hslot⟩ := hlabelsOf key _ _ _ ⟨fuel, rfl, hfin key hkey⟩
          exact hslot

/-- Numbers in arrays of any depth. -/
def nestedNumbers : Setup Picker where
  schemas := ⟨[("numbers", .union [.scalar .number, .array (.named "numbers")])]⟩

/-- An object with numbers under one key. -/
def numbersRecord : Schema Picker :=
  .object (.fixed ["a"] ⟨[("a", ⟨.named "numbers", none⟩)], ⟨.anything, none⟩⟩)

theorem definite_numbersRecord : numbersRecord.Definite nestedNumbers.schemas := by
  refine Schema.definite_of_closed [numbersRecord, .named "numbers", .anything,
    .union [.scalar .number, .array (.named "numbers")], .scalar .number,
    .array (.named "numbers")] ?_ ?_ ?_ List.mem_cons_self
  · simp [Schema.Settled, numbersRecord, nestedNumbers, Table.get?]
  · simp [Schema.parts, numbersRecord, Shape.schemas, Fields.schemas]
  · simp [numbersRecord, nestedNumbers, Table.get?]

/-- A string is no number, and the key shows what it should have been. -/
theorem labels_numbersRecord :
    ∃ o members m key, nestedNumbers.Ends numbersRecord {}
        ⟨⟨0, 9⟩, none, .object [⟨some ⟨"a", ⟨1, 4⟩, none⟩, some (.string "" ⟨6, 8⟩)⟩]⟩ o ∧
      o.node.labels = ["Object"] ∧ o.node.members? = some members ∧ m ∈ members ∧
      m.key = some key ∧ key.hover = some (nestedNumbers.settings.hover "a" ["Number", "Array"] none) := by
  obtain ⟨⟨labels, hlabels⟩, -, hrecord⟩ := labels_eq_of_definite nestedNumbers definite_numbersRecord
  obtain ⟨labelsOf, hlabelsOf⟩ := hrecord _ _ rfl
  obtain ⟨o, m, key, hends, hmembers, hkey, htext⟩ : ∃ o m key,
      nestedNumbers.Ends numbersRecord {}
        ⟨⟨0, 9⟩, none, .object [⟨some ⟨"a", ⟨1, 4⟩, none⟩, some (.string "" ⟨6, 8⟩)⟩]⟩ o ∧
      o.node.members? = some [m] ∧ m.key = some key ∧ key.text = "a" :=
    ⟨_, _, _, ⟨8, rfl, rfl⟩, rfl, rfl, rfl⟩
  obtain ⟨hlabelled, hnode⟩ := hlabels _ _ _ hends
  obtain ⟨hvalue, hhover⟩ := (hlabelsOf _ _ _ hends).1 _ hmembers m (List.mem_singleton_self m) key
    hkey (htext ▸ List.mem_singleton_self "a")
  have hobject : labels = ["Object"] := hlabelled.unique (.own rfl)
  rw [htext] at hvalue hhover
  have hnumbers : labelsOf "a" = ["Number", "Array"] :=
    hvalue.unique (.named rfl (.alternatives (.own rfl) (.alternative (.own rfl))))
  rw [hnumbers] at hhover
  exact ⟨o, [m], m, key, hends, hnode.trans hobject, hmembers, List.mem_singleton_self m, hkey, hhover⟩

end DocShape
