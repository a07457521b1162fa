import DocShape.Proofs.Guard
import DocShape.Proofs.Related
import DocShape.Proofs.Relay

/-!
# Schemas that ask for less

A property is loosened by marking it optional or deprecated, any number of times and in any order
(`Marks.Loosened`). A schema is loosened by loosening some of its properties, wherever they are
(`Schema.Loosened`), and a registry by loosening some of its schemas.

Loosened schemas are put together as before. So the same node is handed on to a loosened schema
(`Check.relay?_loosened`), a schema that looks at a node by itself says the same
(`Check.log_alone_loosened`), and circles of names stay guarded (`Guarded.loosened`).
-/

namespace DocShape

/-! ### Marks -/

/-- Marks with the key marked as optional or deprecated, any number of times. -/
inductive Marks.Loosened (marks : Option Marks) : Option Marks → Prop
  | refl : Loosened marks marks
  | optional {marks' : Option Marks} (h : Loosened marks marks') :
    Loosened marks (some (Mark.optional.apply (marks'.getD {})))
  | deprecated {marks' : Option Marks} (h : Loosened marks marks') :
    Loosened marks (some (Mark.deprecated.apply (marks'.getD {})))

/-- Marks that are changed on both sides stay loosened: all changes go along with each other. -/
theorem marksRelation_loosened : MarksRelation Marks.Loosened where
  none := .refl
  apply m {marks marks'} h := by
    induction h with
    | refl => exact .refl
    | @optional marks' _ ih =>
      have hcomm : m.apply (Mark.optional.apply (marks'.getD {})) =
          Mark.optional.apply (m.apply (marks'.getD {})) := by cases m <;> rfl
      rw [Option.getD_some, hcomm]
      exact ih.optional
    | @deprecated marks' _ ih =>
      have hcomm : m.apply (Mark.deprecated.apply (marks'.getD {})) =
          Mark.deprecated.apply (m.apply (marks'.getD {})) := by cases m <;> rfl
      rw [Option.getD_some, hcomm]
      exact ih.deprecated

section Property

variable {σ : Type} {R : σ → σ → Prop} {p q : Property σ}

/-- A key that may be absent may still be absent. -/
theorem Property.Rel.mayBeAbsent_of_loosened (h : Property.Rel Marks.Loosened R p q)
    (hp : p.mayBeAbsent = true) : q.mayBeAbsent = true := by
  obtain ⟨_, hmarks⟩ := h
  unfold mayBeAbsent isOptional isDeprecated at hp ⊢
  dsimp only at hp ⊢
  induction hmarks with
  | refl => exact hp
  | optional _ _ => rfl
  | deprecated _ _ => exact Bool.or_true _

/-- The segment in front of the key is the same. -/
theorem Property.Rel.docPath?_eq_of_loosened (h : Property.Rel Marks.Loosened R p q) :
    p.docPath? = q.docPath? := by
  obtain ⟨_, hmarks⟩ := h
  unfold docPath?
  dsimp only
  induction hmarks with
  | refl => rfl
  | @optional marks' _ ih | @deprecated marks' _ ih => cases marks' <;> exact ih

end Property

/-! ### Schemas -/

/-- The same schema with some properties loosened, anywhere inside. -/
inductive Schema.Loosened {ε : Type} : Schema ε → Schema ε → Prop
  | anything : Loosened .anything .anything
  | scalar (scalar : Scalar) : Loosened (.scalar scalar) (.scalar scalar)
  | oneOf (pool : List String) : Loosened (.oneOf pool) (.oneOf pool)
  | matching (pattern : Pattern) : Loosened (.matching pattern) (.matching pattern)
  | object {shape shape' : Shape (Schema ε)} (h : Shape.Rel Marks.Loosened Loosened shape shape') :
    Loosened (.object shape) (.object shape')
  | array {item item' : Schema ε} (h : Loosened item item') : Loosened (.array item) (.array item')
  | union {ss ss' : List (Schema ε)} (h : List.Forall₂ Loosened ss ss') :
    Loosened (.union ss) (.union ss')
  | named (name : String) : Loosened (.named name) (.named name)
  | documented (path : String) {s s' : Schema ε} (h : Loosened s s') :
    Loosened (.documented path s) (.documented path s')
  | switch (key : String) {sel sel' : Selector (Schema ε)}
    (h : Selector.Rel Marks.Loosened Loosened sel sel') :
    Loosened (.switch key sel) (.switch key sel')
  | select {sel sel' : Selector (Schema ε)} (h : Selector.Rel Marks.Loosened Loosened sel sel') :
    Loosened (.select sel) (.select sel')
  | custom (custom : ε) {ss ss' : List (Schema ε)} (h : List.Forall₂ Loosened ss ss') :
    Loosened (.custom custom ss) (.custom custom ss')

/-- Two registries with the same names, the schemas of the second being loosened. -/
def LoosenedRegistry {ε : Type} (schemas schemas' : Table (Schema ε)) : Prop :=
  ∀ name, Option.Rel Schema.Loosened (schemas.get? name) (schemas'.get? name)

variable {ε : Type}

/-- Objects with the properties of a loosened record. -/
theorem Schema.Loosened.record {r r' : Record (Schema ε)}
    (h : Table.Rel (Property.Rel Marks.Loosened Schema.Loosened) r r') :
    (Schema.record r).Loosened (Schema.record r') := by
  have hkeys := h.keys_eq
  obtain ⟨hrows⟩ := h
  unfold Schema.record
  rw [hkeys]
  exact .object (.fixed _ ⟨hrows, ⟨.anything, .refl⟩⟩)

/-- The same node selects a loosened schema, with the same log. -/
theorem Schema.Loosened.choose {sel sel' : Selector (Schema ε)}
    (h : Selector.Rel Marks.Loosened Schema.Loosened sel sel') (value : Option String) (t : Node) :
    (sel.choose Schema.record t value).1.Loosened (sel'.choose Schema.record t value).1 ∧
      (sel.choose Schema.record t value).2 = (sel'.choose Schema.record t value).2 :=
  Selector.choose_rel marksRelation_loosened (fun _ _ => Schema.Loosened.record) h value t

theorem Schema.Loosened.not_compound {s s' : Schema ε} (h : s.Loosened s') (hs : ¬ s.Compound) :
    ¬ s'.Compound := by
  cases h with
  | object _ | array _ | union _ => exact absurd trivial hs
  | anything | scalar _ | oneOf _ | matching _ | named _ | documented _ _ | switch _ _ | select _
  | custom _ _ => exact id

/-! ### Handing on -/

namespace Check

/-- Two places to hand a node on to: in the same scope, with the same log, to a loosened schema. -/
structure LoosenedRelay (r r' : Relay ε) : Prop where
  schema : r.schema.Loosened r'.schema
  scope : r.scope = r'.scope
  log : r.log = r'.log

/-- A loosened schema hands the same node on to a loosened schema, if steady checks pick. -/
theorem relay?_loosened [CustomCheck ε] [Picking ε] [Steady ε] {env env' : Environment ε}
    (hregistry : LoosenedRegistry env.schemas env'.schemas) {s s' : Schema ε} (h : s.Loosened s')
    (sc : Scope) (t : Node) :
    Option.Rel LoosenedRelay (relay? env sc t s) (relay? env' sc t s') := by
  cases h with
  | anything | scalar _ | oneOf _ | matching _ | object _ | array _ | union _ => exact .none
  | named name => exact map_rel (hregistry name) fun _ _ hs => ⟨hs, rfl, rfl⟩
  | documented path h => exact .some ⟨h, rfl, rfl⟩
  | switch key h =>
    obtain ⟨hschema, hlog⟩ := Schema.Loosened.choose h (t.textUnder? key) t
    rw [relay?, relay?]
    cases t.members? with
    | none => exact .none
    | some members => exact .some ⟨hschema, rfl, hlog⟩
  | select h =>
    obtain ⟨hschema, hlog⟩ := Schema.Loosened.choose h none t
    exact .some ⟨hschema, rfl, hlog⟩
  | custom custom h =>
    have hindex : (Picking.picker custom).index env.settings sc t =
        (Picking.picker custom).index env'.settings sc t := Steady.index_eq custom _ _ sc rfl
    rw [relay?, relay?, hindex]
    exact map_rel (getElem?_rel h _) fun _ _ hs => ⟨hs, rfl, rfl⟩

/-- A schema that looks at a node by itself says the same when it is loosened. -/
theorem log_alone_loosened {s s' : Schema ε} (h : s.Loosened s') (t : Node) :
    (alone t s).log = (alone t s').log := by
  cases h <;> rfl

end Check

/-! ### Circles of names -/

/-- What a loosened selector may hand on to is loosened. -/
theorem Schema.Loosened.openSchemas {sel sel' : Selector (Schema ε)}
    (h : Selector.Rel Marks.Loosened Schema.Loosened sel sel') :
    List.Forall₂ Schema.Loosened sel.openSchemas sel'.openSchemas := by
  have hrows : ∀ {κ : Type} {rows rows' : List (κ × Schema ε)},
      List.Forall₂ (SameKey Schema.Loosened) rows rows' →
      List.Forall₂ Schema.Loosened (rows.map (·.2)) (rows'.map (·.2)) := by
    intro κ rows rows' hrows
    rw [List.forall₂_map_left_iff, List.forall₂_map_right_iff]
    refine hrows.imp ?_
    rintro _ _ ⟨_, hvalue⟩
    exact hvalue
  induction h with
  | record _ => exact .nil
  | byValue h ha hb => exact .cons ha (.cons hb (hrows h))
  | byKind h hb => exact .cons hb (hrows h)
  | sibling _ _ ih => exact ih

/-- What a loosened schema checks on the same node is loosened. -/
theorem Schema.Loosened.openParts {s s' : Schema ε} (h : s.Loosened s') :
    List.Forall₂ Schema.Loosened s.openParts s'.openParts := by
  cases h with
  | anything | scalar _ | oneOf _ | matching _ | object _ | array _ | named _ => exact .nil
  | union h | custom _ h => exact h
  | documented _ h => exact .cons h .nil
  | switch _ h | select h => exact Schema.Loosened.openSchemas h

/-- A loosened schema exposes no new names. -/
theorem Schema.Exposes.of_loosened {s s' : Schema ε} {name : String} (h : s'.Exposes name)
    (hs : s.Loosened s') : s.Exposes name := by
  induction h generalizing s with
  | named name =>
    cases hs
    exact .named name
  | part hp _ ih =>
    obtain ⟨i, hi⟩ := List.getElem?_of_mem hp
    obtain ⟨q, hq, hloosened⟩ := exists_of_rel_some (hi ▸ getElem?_rel hs.openParts i)
    exact .part (List.mem_of_getElem? hq) (ih hloosened)

/-- **Circles stay guarded** when schemas are loosened. -/
theorem Guarded.loosened {schemas schemas' : Table (Schema ε)} (hguard : Guarded schemas)
    (h : LoosenedRegistry schemas schemas') : Guarded schemas' := by
  intro name hcircle
  refine hguard name (hcircle.lift id ?_)
  rintro name other ⟨s', hget', hexposes⟩
  obtain ⟨s, hget, hs⟩ := exists_of_rel_some (hget' ▸ h name)
  exact ⟨s, hget, hexposes.of_loosened hs⟩

end DocShape
