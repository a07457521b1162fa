import DocShape.Proofs.Provenance
import DocShape.Proofs.Relay

/-!
# What findings quote

The texts in a finding come from two sides. Some are the schema's own: its keys and markers, pools,
patterns and names (`Schema.ownTexts`), and the names of kinds. The others are written in the document:
keys and strings of the tree. `Cause.said` and `Cause.written` tell them apart.

A property of all texts of a schema, and of the schemas that it uses, is kept along visits
(`Visit.Leads.saysOnly`), so it holds for whatever is said in a finding (`Visit.Reports.said`). What a
finding quotes besides is written in the tree (`Visit.Reports.written`).
-/

namespace DocShape

/-! ### Texts of schemas -/

section Texts

variable {σ : Type}

/-- The markers of an open record. -/
def OpenRecord.markers : OpenRecord σ → List String
  | .fixed _ | .byCase _ => []
  | .merged first second | .ifAmong _ first second => first.markers ++ second.markers
  | .byMarker markers => Table.keys markers
  | .marked _ inner => inner.markers

/-- The markers of the record that a selector settles, if it does. -/
def Selector.markers : Selector σ → List String
  | .record properties => properties.markers
  | .byValue .. | .byKind .. => []
  | .sibling _ next => next.markers

/-- The keys and markers, pools, patterns and names of a schema itself, without those of its parts. -/
def Schema.ownTexts {ε : Type} : Schema ε → List String
  | .oneOf pool => pool
  | .matching pattern => [pattern.source]
  | .object (.fixed keys _) => keys
  | .named name => [name]
  | .switch _ selector | .select selector => selector.keys ++ selector.markers
  | .object .free | .object (.keyed ..) | .anything | .scalar _ | .array _ | .union _
  | .documented .. | .custom .. => []

end Texts

/-- A schema has only certain texts, in itself and in all that it uses. -/
def Schema.SaysOnly {ε : Type} (schemas : Table (Schema ε)) (P : String → Prop) (s : Schema ε) :
    Prop :=
  ∀ q, s.Uses schemas q → ∀ text ∈ q.ownTexts, P text

namespace Cause

/-- What is said in a cause besides texts of the document: kinds and texts of the schema. -/
def said : Cause → List String
  | .typeMismatch expected got => [expected, got]
  | .missingProperty property | .deprecatedProperty property => [property]
  | .unknownProperty _ => []
  | .missingDiscriminant candidates => candidates
  | .unexpectedValue _ allowed => allowed
  | .patternMismatch _ pattern => [pattern]
  | .unresolvedReference name => [name]

/-- The text of the document that a cause quotes: a key that nobody declared, or a string that does
not fit. -/
def written : Cause → List String
  | .unknownProperty property => [property]
  | .unexpectedValue value _ | .patternMismatch value _ => [value]
  | .typeMismatch .. | .missingProperty _ | .deprecatedProperty _ | .missingDiscriminant _
  | .unresolvedReference _ => []

end Cause

/-! ### Settled records -/

section Settle

variable {σ : Type} {t : Node} {f : Finding}

/-- What is found when an open record is settled speaks of its markers. -/
theorem OpenRecord.said_settle {properties : OpenRecord σ} {value : Option String}
    (h : f ∈ (properties.settle value t).2.findings) :
    ∀ text ∈ f.cause.said, text ∈ properties.markers := by
  induction properties with
  | fixed _ | byCase _ => cases h
  | merged first second ih₁ ih₂ | ifAmong _ first second ih₁ ih₂ =>
    rw [settle, Log.findings_append, List.mem_append] at h
    intro text htext
    rcases h with h | h
    · exact List.mem_append_left _ (ih₁ h text htext)
    · exact List.mem_append_right _ (ih₂ h text htext)
  | byMarker markers =>
    obtain ⟨-, rfl⟩ := MarkerTable.eq_of_mem_findings h
    intro text htext
    exact htext
  | marked mark inner ih => exact ih h

/-- What is found when a schema is selected speaks of markers of the selector. -/
theorem Selector.said_choose {ofRecord : Record σ → σ} {selector : Selector σ}
    {value : Option String} (h : f ∈ (selector.choose ofRecord t value).2.findings) :
    ∀ text ∈ f.cause.said, text ∈ selector.markers := by
  induction selector generalizing value with
  | record properties => cases value <;> exact OpenRecord.said_settle h
  | byValue _ _ _ | byKind _ _ => cases value <;> cases h
  | sibling key next ih => cases value <;> exact ih h

end Settle

/-! ### Texts are kept -/

namespace Schema.SaysOnly

variable {ε : Type} {schemas : Table (Schema ε)} {P : String → Prop} {s p : Schema ε}

/-- The texts of the schema itself. -/
theorem own (h : s.SaysOnly schemas P) : ∀ text ∈ s.ownTexts, P text := h s (.self s)

/-- The texts of a part. -/
theorem part (h : s.SaysOnly schemas P) (hp : p ∈ s.parts) : p.SaysOnly schemas P :=
  fun q huses => h q (.part hp huses)

/-- The texts of a registered schema. -/
theorem named {name : String} (h : (Schema.named name).SaysOnly schemas P)
    (hget : schemas.get? name = some p) : p.SaysOnly schemas P :=
  fun q huses => h q (.named hget huses)

/-- A schema that allows anything has no texts. -/
theorem anything : (Schema.anything : Schema ε).SaysOnly schemas P := by
  intro q huses
  cases huses with
  | self _ => exact nofun
  | part hp _ => cases hp

/-- The texts of a record are its keys and those of its schemas. -/
theorem record {r : Record (Schema ε)} (hkeys : ∀ key ∈ Table.keys r, P key)
    (hschemas : ∀ p ∈ Record.schemas r, p.SaysOnly schemas P) :
    (Schema.record r).SaysOnly schemas P := by
  intro q huses
  cases huses with
  | self _ => exact hkeys
  | part hp huses =>
    rcases List.mem_cons.mp hp with rfl | hp
    · exact anything q huses
    · exact hschemas _ hp q huses

/-- What is selected has no other texts than the schema that selects. -/
theorem selected {selector : Selector (Schema ε)} (h : s.SaysOnly schemas P)
    (htexts : s.ownTexts = selector.keys ++ selector.markers) (hparts : s.parts = selector.schemas)
    (t : Node) (value : Option String) :
    (selector.choose Schema.record t value).1.SaysOnly schemas P := by
  have hschema : ∀ p ∈ selector.schemas, p.SaysOnly schemas P := by
    intro p hp
    apply h.part
    rwa [hparts]
  rcases selector.choose_cases Schema.record t value with hopen | ⟨r, hr, hrows, hkeys⟩
  · exact hschema _ (Selector.mem_schemas_of_mem_open hopen)
  · rw [hr]
    apply record
    · intro key hkey
      apply h.own
      rw [htexts]
      exact List.mem_append_left _ (hkeys key hkey)
    · intro p hp
      exact hschema p (hrows p hp)

end Schema.SaysOnly

section Visits

variable {ε : Type} [CustomCheck ε] [Picking ε] {env : Environment ε} {v w : Visit ε} {t : Node}
  {f : Finding} {P : String → Prop}

/-- A node is handed on to a schema without other texts. -/
theorem Check.saysOnly_relay {s : Schema ε} {sc : Scope} {r : Relay ε}
    (hrelay : relay? env sc t s = some r) (h : s.SaysOnly env.schemas P) :
    r.schema.SaysOnly env.schemas P := by
  cases s with
  | anything | scalar _ | oneOf _ | matching _ | object _ | array _ | union _ => cases hrelay
  | named name =>
    obtain ⟨p, hget, rfl⟩ := Option.map_eq_some_iff.mp hrelay
    exact h.named hget
  | documented path p =>
    cases hrelay
    exact h.part List.mem_cons_self
  | switch key selector =>
    obtain ⟨members, -, rfl⟩ := Option.map_eq_some_iff.mp hrelay
    exact h.selected rfl rfl t _
  | select selector =>
    cases hrelay
    exact h.selected rfl rfl t _
  | custom custom parts =>
    obtain ⟨p, hpart, rfl⟩ := Option.map_eq_some_iff.mp hrelay
    exact h.part (List.mem_of_getElem? hpart)

/-- What is found when a node is handed on speaks of texts of the schema. -/
theorem Check.said_relay {s : Schema ε} {sc : Scope} {r : Relay ε}
    (hrelay : relay? env sc t s = some r) (hf : f ∈ r.log.findings) :
    ∀ text ∈ f.cause.said, text ∈ s.ownTexts := by
  cases s with
  | anything | scalar _ | oneOf _ | matching _ | object _ | array _ | union _ => cases hrelay
  | named name =>
    obtain ⟨p, -, rfl⟩ := Option.map_eq_some_iff.mp hrelay
    cases hf
  | documented path p =>
    cases hrelay
    cases hf
  | switch key selector =>
    obtain ⟨members, -, rfl⟩ := Option.map_eq_some_iff.mp hrelay
    intro text htext
    apply List.mem_append_right
    exact Selector.said_choose hf text htext
  | select selector =>
    cases hrelay
    intro text htext
    apply List.mem_append_right
    exact Selector.said_choose hf text htext
  | custom custom parts =>
    obtain ⟨p, -, rfl⟩ := Option.map_eq_some_iff.mp hrelay
    cases hf

/-- **One step** of a visit leads to no other texts. -/
theorem Visit.Leads.saysOnly (hleads : v.Leads env w) (h : v.schema.SaysOnly env.schemas P) :
    w.schema.SaysOnly env.schemas P := by
  cases hleads with
  | relay hrelay => exact Check.saysOnly_relay hrelay h
  | property _ _ _ _ => exact h.part (Fields.property_mem _ _)
  | key _ _ _ => exact h.part List.mem_cons_self
  | value _ _ _ _ => exact h.part (List.mem_cons_of_mem _ (Fields.property_mem _ _))
  | item _ _ => exact h.part List.mem_cons_self
  | winner hbest _ => exact h.part (List.mem_of_getElem? hbest)

/-- All that a visit leads to has no other texts. -/
theorem Visit.saysOnly_of_leads (hpath : Relation.ReflTransGen (Visit.Leads env) v w)
    (h : v.schema.SaysOnly env.schemas P) : w.schema.SaysOnly env.schemas P := by
  induction hpath with
  | refl => exact h
  | tail _ hleads ih => exact hleads.saysOnly ih

/-- What a visit reports speaks of kinds and of texts of its schema. -/
theorem Visit.Reports.said (hreports : v.Reports env f) :
    ∀ text ∈ f.cause.said, text ∈ v.schema.ownTexts ∨ ∃ kind : Kind, text = kind.name := by
  intro text htext
  cases hreports with
  | @wrongKind _ _ t kind _ _ =>
    right
    rcases List.mem_pair.mp htext with rfl | rfl
    · exact ⟨kind, rfl⟩
    · exact ⟨t.kind, rfl⟩
  | unexpected _ _ | mismatch _ _ | unresolved _ => exact Or.inl htext
  | missing _ hlisted _ _ | deprecated _ _ _ hlisted _ =>
    left
    rw [List.mem_singleton.mp htext]
    exact hlisted
  | unknown _ _ _ _ => cases htext
  | undecided hrelay hf => exact Or.inl (Check.said_relay hrelay hf text htext)

end Visits

/-! ### Texts of the document -/

/-- The texts that are written in a tree: its keys and its strings. -/
def Node.Writes (t : Node) (text : String) : Prop :=
  (∃ m key, t.HoldsMember m ∧ m.key = some key ∧ key.text = text) ∨
    ∃ u, t.Holds u ∧ u.text? = some text

/-- The text of what is offered is written in the tree. -/
theorem Node.Offers.writes {t v : Node} (h : t.Offers v) {text : String}
    (htext : v.text? = some text) : t.Writes text := by
  cases h with
  | @held u _ hu hv =>
    refine Or.inr ⟨u, hu, ?_⟩
    rw [← Node.text?_clear, ← hv, Node.text?_clear, htext]
  | @key m key _ hm hkey hv =>
    refine Or.inl ⟨m, key, hm, hkey, ?_⟩
    rw [← Node.text?_clear, hv] at htext
    exact Option.some.inj htext
  | unwritten _ _ _ hv =>
    rw [← Node.text?_clear, hv] at htext
    cases htext

/-- What a visit quotes is written in the tree. -/
theorem Visit.Reports.written {ε : Type} [CustomCheck ε] [Picking ε] {env : Environment ε}
    {v : Visit ε} {t : Node} {f : Finding} (hreports : v.Reports env f) (h : t.Offers v.node) :
    ∀ text ∈ f.cause.written, t.Writes text := by
  intro text htext
  cases hreports with
  | wrongKind _ _ | missing _ _ _ _ | deprecated _ _ _ _ _ | unresolved _ => cases htext
  | unexpected hvalue _ | mismatch hvalue _ =>
    rw [List.mem_singleton.mp htext]
    exact h.writes hvalue
  | unknown hmembers hm hkey _ =>
    obtain ⟨m', hm', hsame⟩ := h.member hmembers hm
    obtain ⟨key', hkey', hkeys, -⟩ := Node.exists_key_of_clear hsame hkey
    rw [List.mem_singleton.mp htext]
    exact Or.inl ⟨m', key', hm', hkey', hkeys⟩
  | undecided hrelay hf =>
    obtain ⟨-, candidates, rfl⟩ := Check.isUndecided_of_relay hrelay hf
    cases htext

end DocShape
