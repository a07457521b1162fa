import DocShape.Check.Bounded
import DocShape.Check.Picker
import DocShape.Proofs.Selection

/-!
# Schemas that hand their node on

Names, documented schemas, selections and custom checks do not look into the node that they are
checked on. They decide on another schema and leave the node to it; `Check.relay?` says to which one,
in which scope, and what is found on the way. One step of such a schema is one run of the other
(`step_of_relay`).

Objects, arrays and unions are `Compound`. What is neither relayed nor compound is checked without a
run of anything else, and comes to what `Check.alone` says (`step_of_alone`). So there are five ways
to take one step (`Check.Way`), and a law about steps has five cases.
-/

namespace DocShape

variable {ε : Type}

@[simp] theorem Outcome.node_after (log : Log) (o : Outcome) : (o.after log).node = o.node := rfl

@[simp] theorem Outcome.log_after (log : Log) (o : Outcome) : (o.after log).log = log ++ o.log := rfl

@[simp] theorem Outcome.after_empty (o : Outcome) : o.after {} = o := by
  obtain ⟨node, log⟩ := o
  simp [Outcome.after]

/-- Where a node is handed on to. -/
structure Relay (ε : Type) where
  /-- The schema that the node is left to. -/
  schema : Schema ε
  /-- The scope in which it is checked. -/
  scope : Scope
  /-- What is found on the way. -/
  log : Log := {}

/-- Whether a schema is checked by going into the node, or by running it against other schemas more
than once. -/
def Schema.Compound : Schema ε → Prop
  | .object _ | .array _ | .union _ => True
  | _ => False

namespace Check

variable [CustomCheck ε] [Picking ε] {env : Environment ε} {run : Run ε} {sc : Scope} {t : Node}
  {s : Schema ε} {r : Relay ε}

/-- Where a schema hands its node on to, if it does. -/
def relay? (env : Environment ε) (sc : Scope) (t : Node) : Schema ε → Option (Relay ε)
  | .named name => (env.schemas.get? name).map fun s => { schema := s, scope := sc }
  | .documented path s => some { schema := s, scope := sc.withPath path }
  | .switch key selector => t.members?.map fun _ =>
    let chosen := selector.choose Schema.record t (t.textUnder? key)
    { schema := chosen.1, scope := sc, log := chosen.2 }
  | .select selector =>
    let chosen := selector.choose Schema.record t none
    some { schema := chosen.1, scope := sc, log := chosen.2 }
  | .custom custom parts =>
    (parts[(Picking.picker custom).index env.settings sc t]?).map fun s =>
      { schema := s, scope := sc }
  | .anything | .scalar _ | .oneOf _ | .matching _ | .object _ | .array _ | .union _ => none

/-- What a check comes to that runs nothing else. -/
def alone (t : Node) : Schema ε → Outcome
  | .scalar scalar => checkScalar scalar t
  | .oneOf pool => checkPool pool t
  | .matching pattern => checkPattern pattern t
  | .named name => ⟨t, .report (.unresolvedReference name) t.span⟩
  | .switch _ _ => ⟨t.expecting [.object], .report (.wrongKind Kind.object.name t) t.span⟩
  | _ => ⟨t.expecting [.any], {}⟩

/-- A node that is handed on is left to one run of the other schema. -/
theorem step_of_relay (h : relay? env sc t s = some r) :
    Check.step env run s sc t = (run r.schema r.scope t).after r.log := by
  cases s with
  | anything | scalar _ | oneOf _ | matching _ | object _ | array _ | union _ => cases h
  | named name =>
    obtain ⟨c, hget, rfl⟩ := Option.map_eq_some_iff.mp h
    rw [Check.step, checkNamed, hget, Outcome.after_empty]
  | documented path c =>
    cases h
    rw [Check.step, Outcome.after_empty]
  | switch key selector =>
    obtain ⟨members, hmembers, rfl⟩ := Option.map_eq_some_iff.mp h
    rw [Check.step, checkSwitch, hmembers]
    rfl
  | select selector =>
    cases h
    rfl
  | custom custom parts =>
    obtain ⟨c, hpart, rfl⟩ := Option.map_eq_some_iff.mp h
    rw [Check.step, Picking.run_eq, Picker.run, List.getElem?_map, hpart, Option.map_some,
      Outcome.after_empty]

/-- What is found when a node is handed on is that an object has no marker. -/
theorem isUndecided_of_relay {f : Finding} (h : relay? env sc t s = some r)
    (hf : f ∈ r.log.findings) : f.IsUndecided t := by
  cases s with
  | anything | scalar _ | oneOf _ | matching _ | object _ | array _ | union _ => cases h
  | named name =>
    obtain ⟨c, -, rfl⟩ := Option.map_eq_some_iff.mp h
    cases hf
  | documented path c =>
    cases h
    cases hf
  | switch key selector =>
    obtain ⟨members, -, rfl⟩ := Option.map_eq_some_iff.mp h
    exact Selector.isUndecided_of_mem hf
  | select selector =>
    cases h
    exact Selector.isUndecided_of_mem hf
  | custom custom parts =>
    obtain ⟨c, -, rfl⟩ := Option.map_eq_some_iff.mp h
    cases hf

/-- A node that is neither handed on nor gone into is checked without a run of anything else. -/
theorem step_of_alone (hs : ¬ s.Compound) (h : relay? env sc t s = none) :
    Check.step env run s sc t = alone t s := by
  cases s with
  | object _ | array _ | union _ => exact absurd trivial hs
  | documented _ _ | select _ => cases h
  | anything | scalar _ | oneOf _ | matching _ => rfl
  | named name =>
    have hget : env.schemas.get? name = none := Option.map_eq_none_iff.mp h
    rw [Check.step, checkNamed, hget]
    rfl
  | switch key selector =>
    have hmembers : t.members? = none := Option.map_eq_none_iff.mp h
    rw [Check.step, checkSwitch, hmembers]
    rfl
  | custom custom parts =>
    have hpart : parts[(Picking.picker custom).index env.settings sc t]? = none :=
      Option.map_eq_none_iff.mp h
    rw [Check.step, Picking.run_eq, Picker.run, List.getElem?_map, hpart]
    rfl

/-- The ways in which one step is taken. -/
inductive Way (env : Environment ε) (sc : Scope) (t : Node) : Schema ε → Prop
  | relay {s : Schema ε} {r : Relay ε} (h : relay? env sc t s = some r) : Way env sc t s
  | alone {s : Schema ε} (hs : ¬ s.Compound) (h : relay? env sc t s = none) : Way env sc t s
  | object (shape : Shape (Schema ε)) : Way env sc t (.object shape)
  | array (item : Schema ε) : Way env sc t (.array item)
  | union (alternatives : List (Schema ε)) : Way env sc t (.union alternatives)

/-- Every step is taken in one of these ways. -/
theorem way (env : Environment ε) (sc : Scope) (t : Node) (s : Schema ε) : Way env sc t s := by
  cases hrelay : relay? env sc t s with
  | some r => exact .relay hrelay
  | none =>
    cases s with
    | object shape => exact .object shape
    | array item => exact .array item
    | union alternatives => exact .union alternatives
    | anything | scalar _ | oneOf _ | matching _ | named _ | documented _ _ | switch _ _
    | select _ | custom _ _ => exact .alone id hrelay

end Check

end DocShape
