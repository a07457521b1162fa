import DocShape.Schema.Basic

/-!
# The parts of a schema

`Schema.parts` are the schemas directly inside a schema, in every row, case and marker. They are
smaller (`Schema.sizeOf_lt_of_mem_parts`), so that one may recurse from a schema to its parts;
`Schema.height` does. What a schema comes to by parts and by names is what it uses (`Schema.Uses`).
-/

namespace DocShape

/-! ### Parts -/

section Parts

variable {σ : Type}

/-- The schemas of a record. -/
def Record.schemas (r : Record σ) : List σ := r.entries.map (·.2.schema)

/-- The schemas of some fields. -/
def Fields.schemas (f : Fields σ) : List σ := f.otherwise.schema :: f.rows.map (·.2.schema)

/-- The schemas of a shape. -/
def Shape.schemas : Shape σ → List σ
  | .free => []
  | .fixed _ fields => fields.schemas
  | .keyed keys fields => keys :: fields.schemas

/-- The schemas of an open record, of every case and marker. -/
def OpenRecord.schemas : OpenRecord σ → List σ
  | .fixed record => Record.schemas record
  | .merged first second => first.schemas ++ second.schemas
  | .byCase cases => cases.records.entries.flatMap fun row => Record.schemas row.2
  | .ifAmong _ yes no => yes.schemas ++ no.schemas
  | .byMarker markers => markers.entries.flatMap fun row => Record.schemas row.2.record
  | .marked _ inner => inner.schemas

/-- The schemas of a selector, of every row. -/
def Selector.schemas : Selector σ → List σ
  | .record properties => properties.schemas
  | .byValue rows absent otherwise => absent :: otherwise :: rows.map (·.2)
  | .byKind rows otherwise => otherwise :: rows.map (·.2)
  | .sibling _ next => next.schemas

/-- The schemas directly inside a schema. -/
def Schema.parts {ε : Type} : Schema ε → List (Schema ε)
  | .anything | .scalar _ | .oneOf _ | .matching _ | .named _ => []
  | .object shape => shape.schemas
  | .array item => [item]
  | .union alternatives => alternatives
  | .documented _ schema => [schema]
  | .switch _ selector | .select selector => selector.schemas
  | .custom _ parts => parts

end Parts

/-- A schema uses itself, its parts, and the schemas that are registered under names in it, and all
that these use. -/
inductive Schema.Uses {ε : Type} (schemas : Table (Schema ε)) : Schema ε → Schema ε → Prop
  | self (s : Schema ε) : Uses schemas s s
  | part {s p q : Schema ε} (hp : p ∈ s.parts) (h : Uses schemas p q) : Uses schemas s q
  | named {name : String} {p q : Schema ε} (hget : schemas.get? name = some p)
    (h : Uses schemas p q) : Uses schemas (.named name) q

/-- Some schemas that have all their parts and registered schemas among them use no others. -/
theorem Schema.Uses.mem_of_closed {ε : Type} {schemas : Table (Schema ε)} {s q : Schema ε}
    (h : s.Uses schemas q) {ss : List (Schema ε)} (hparts : ∀ p ∈ ss, ∀ q ∈ p.parts, q ∈ ss)
    (hnames : ∀ name, .named name ∈ ss → ∀ q, schemas.get? name = some q → q ∈ ss) (hs : s ∈ ss) :
    q ∈ ss := by
  induction h with
  | self _ => exact hs
  | part hp _ ih => exact ih (hparts _ hs _ hp)
  | named hget _ ih => exact ih (hnames _ hs _ hget)

/-! ### Parts are smaller -/

section Size

variable {σ : Type} [SizeOf σ]

/-- The schemas of a record are smaller than the record. -/
theorem Record.sizeOf_lt_of_mem_schemas {r : Record σ} {s : σ} (h : s ∈ Record.schemas r) :
    sizeOf s < sizeOf r := by
  obtain ⟨row, hrow, rfl⟩ := List.mem_map.mp h
  have h₁ := List.sizeOf_lt_of_mem hrow
  obtain ⟨entries⟩ := r
  obtain ⟨key, schema, marks⟩ := row
  simp only [Table.mk.sizeOf_spec, Prod.mk.sizeOf_spec, Property.mk.sizeOf_spec] at *
  omega

/-- The schemas of some fields are smaller than the fields. -/
theorem Fields.sizeOf_lt_of_mem_schemas {f : Fields σ} {s : σ} (h : s ∈ f.schemas) :
    sizeOf s < sizeOf f := by
  obtain ⟨rows, schema, marks⟩ := f
  simp only [Fields.schemas, List.mem_cons, List.mem_map] at h
  simp only [Fields.mk.sizeOf_spec, Property.mk.sizeOf_spec]
  rcases h with rfl | ⟨row, hrow, rfl⟩
  · omega
  · have h₁ := List.sizeOf_lt_of_mem hrow
    obtain ⟨key, schema, marks⟩ := row
    simp only [Prod.mk.sizeOf_spec, Property.mk.sizeOf_spec] at *
    omega

/-- The schemas of a shape are smaller than the shape. -/
theorem Shape.sizeOf_lt_of_mem_schemas {shape : Shape σ} {s : σ} (h : s ∈ shape.schemas) :
    sizeOf s < sizeOf shape := by
  cases shape with
  | free => simp [Shape.schemas] at h
  | fixed keys fields =>
    have := Fields.sizeOf_lt_of_mem_schemas h
    simp only [Shape.fixed.sizeOf_spec]
    omega
  | keyed keys fields =>
    simp only [Shape.schemas, List.mem_cons] at h
    simp only [Shape.keyed.sizeOf_spec]
    rcases h with rfl | h
    · omega
    · have := Fields.sizeOf_lt_of_mem_schemas h
      omega

/-- The schemas of an open record are smaller than the open record. -/
theorem OpenRecord.sizeOf_lt_of_mem_schemas {v : OpenRecord σ} {s : σ} (h : s ∈ v.schemas) :
    sizeOf s < sizeOf v := by
  induction v with
  | fixed record =>
    have := Record.sizeOf_lt_of_mem_schemas h
    simp only [OpenRecord.fixed.sizeOf_spec]
    omega
  | merged first second ih₁ ih₂ =>
    simp only [OpenRecord.schemas, List.mem_append] at h
    simp only [OpenRecord.merged.sizeOf_spec]
    rcases h with h | h
    · have := ih₁ h; omega
    · have := ih₂ h; omega
  | byCase cases =>
    obtain ⟨row, hrow, h⟩ := List.mem_flatMap.mp h
    have h₁ := Record.sizeOf_lt_of_mem_schemas h
    have h₂ := List.sizeOf_lt_of_mem hrow
    obtain ⟨space, ⟨entries⟩⟩ := cases
    obtain ⟨key, record⟩ := row
    simp only [OpenRecord.byCase.sizeOf_spec, CaseTable.mk.sizeOf_spec, Table.mk.sizeOf_spec,
      Prod.mk.sizeOf_spec] at *
    omega
  | ifAmong allowed yes no ih₁ ih₂ =>
    simp only [OpenRecord.schemas, List.mem_append] at h
    simp only [OpenRecord.ifAmong.sizeOf_spec]
    rcases h with h | h
    · have := ih₁ h; omega
    · have := ih₂ h; omega
  | byMarker markers =>
    obtain ⟨row, hrow, h⟩ := List.mem_flatMap.mp h
    have h₁ := Record.sizeOf_lt_of_mem_schemas h
    have h₂ := List.sizeOf_lt_of_mem hrow
    obtain ⟨entries⟩ := markers
    obtain ⟨key, record, deferred⟩ := row
    simp only [OpenRecord.byMarker.sizeOf_spec, Table.mk.sizeOf_spec, Prod.mk.sizeOf_spec,
      MarkerRow.mk.sizeOf_spec] at *
    omega
  | marked mark inner ih =>
    have := ih h
    simp only [OpenRecord.marked.sizeOf_spec]
    omega

/-- The schemas of a selector are smaller than the selector. -/
theorem Selector.sizeOf_lt_of_mem_schemas {sel : Selector σ} {s : σ} (h : s ∈ sel.schemas) :
    sizeOf s < sizeOf sel := by
  induction sel with
  | record properties =>
    have := OpenRecord.sizeOf_lt_of_mem_schemas h
    simp only [Selector.record.sizeOf_spec]
    omega
  | byValue rows absent otherwise =>
    simp only [Selector.schemas, List.mem_cons, List.mem_map] at h
    simp only [Selector.byValue.sizeOf_spec]
    rcases h with rfl | rfl | ⟨row, hrow, rfl⟩
    · omega
    · omega
    · have h₁ := List.sizeOf_lt_of_mem hrow
      obtain ⟨value, schema⟩ := row
      simp only [Prod.mk.sizeOf_spec] at *
      omega
  | byKind rows otherwise =>
    simp only [Selector.schemas, List.mem_cons, List.mem_map] at h
    simp only [Selector.byKind.sizeOf_spec]
    rcases h with rfl | ⟨row, hrow, rfl⟩
    · omega
    · have h₁ := List.sizeOf_lt_of_mem hrow
      obtain ⟨kind, schema⟩ := row
      simp only [Prod.mk.sizeOf_spec] at *
      omega
  | sibling key next ih =>
    have := ih h
    simp only [Selector.sibling.sizeOf_spec]
    omega

end Size

namespace Schema

variable {ε : Type}

/-- The parts of a schema are smaller than the schema. -/
theorem sizeOf_lt_of_mem_parts {s p : Schema ε} (h : p ∈ s.parts) : sizeOf p < sizeOf s := by
  cases s with
  | anything | scalar _ | oneOf _ | matching _ | named _ => simp [parts] at h
  | object shape =>
    have := Shape.sizeOf_lt_of_mem_schemas h
    simp only [object.sizeOf_spec]
    omega
  | array item =>
    simp only [parts, List.mem_singleton] at h
    subst h
    simp only [array.sizeOf_spec]
    omega
  | union alternatives =>
    have : sizeOf p < sizeOf alternatives := List.sizeOf_lt_of_mem h
    simp only [union.sizeOf_spec]
    omega
  | documented path schema =>
    simp only [parts, List.mem_singleton] at h
    subst h
    simp only [documented.sizeOf_spec]
    omega
  | switch key selector =>
    have := Selector.sizeOf_lt_of_mem_schemas h
    simp only [switch.sizeOf_spec]
    omega
  | select selector =>
    have := Selector.sizeOf_lt_of_mem_schemas h
    simp only [select.sizeOf_spec]
    omega
  | custom check inner =>
    have : sizeOf p < sizeOf inner := List.sizeOf_lt_of_mem h
    simp only [custom.sizeOf_spec]
    omega

/-- The number of schemas on the longest way down through parts. -/
def height (s : Schema ε) : Nat :=
  (s.parts.attach.map fun ⟨p, _⟩ => p.height).foldr max 0 + 1
termination_by sizeOf s
decreasing_by exact sizeOf_lt_of_mem_parts ‹_›

end Schema

end DocShape
