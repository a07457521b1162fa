import DocShape.Log
import DocShape.Schema.Record

/-!
# Open records

Which properties an object has may hang on what it holds: on a discriminating value (`CaseTable`,
`ifAmong`) or on which of some marker keys is present (`MarkerTable`). An `OpenRecord` is settled
only when such a value and the object are known; `OpenRecord.settle` settles it.

Names of values may carry a namespace in front, `minecraft` by default, which is left out when they
are compared.
-/

namespace DocShape

/-- The namespace that names carry by default. -/
def commonNamespace : String := "minecraft"

/-- A value without its namespace, if it carries that one. It is taken away once. -/
def dropNamespace (value name : String) : String :=
  let front := name.toList ++ [':']
  if front.isPrefixOf value.toList then String.ofList (value.toList.drop front.length) else value

variable {σ : Type}

/-! ### By value -/

/-- Records by discriminating value. -/
structure CaseTable (σ : Type) where
  /-- The namespace that values may carry; without one they are taken as they are. -/
  space : Option String := some commonNamespace
  /-- The records by name. -/
  records : Table (Table (Property σ))

namespace CaseTable

/-- A value as it is looked up. -/
def normalize (cases : CaseTable σ) (value : String) : String :=
  cases.space.elim value (dropNamespace value)

/-- The case of a value and its record. -/
def find? (cases : CaseTable σ) (value : String) : Option (String × Record σ) :=
  (cases.records.get? (cases.normalize value)).map (cases.normalize value, ·)

/-- The properties of the case of a value, each documented under the name of the case. Without a
value, or with one that no case has, there are none. -/
def recordFor (cases : CaseTable σ) (value : Option String) : Record σ :=
  match value.bind cases.find? with
  | some (name, record) => record.mark (.docPath name)
  | none => ⟨[]⟩

end CaseTable

/-- One of two records, by whether the value is among some allowed ones; both are compared without
the default namespace. Without a value there are no properties. -/
def recordAmong (value : Option String) (allowed : List String) (yes no : Record σ) : Record σ :=
  match value with
  | none => ⟨[]⟩
  | some value =>
    if (allowed.map (dropNamespace · commonNamespace)).contains
        (dropNamespace value commonNamespace) then yes
    else no

/-! ### By presence of a key -/

/-- The record of a marker. -/
structure MarkerRow (σ : Type) where
  /-- The properties. -/
  record : Table (Property σ)
  /-- Whether the properties are made only when they are asked for. -/
  deferred : Bool := false

/-- Records by marker key, the first of those present deciding. -/
abbrev MarkerTable (σ : Type) := Table (MarkerRow σ)

namespace MarkerTable

/-- The log of asking for the record of a marker. -/
def ask (marker : String) (row : MarkerRow σ) : Log where
  forced := if row.deferred then [marker] else []

/-- The property of every marker that its own record declares, none of them required. -/
def fallback (markers : MarkerTable σ) : Record σ :=
  .ofList (markers.entries.filterMap fun entry =>
    (entry.2.record.get? entry.1).map fun p => (entry.1, p.mark .optional))

/-- The first marker among some keys. -/
def present? (markers : MarkerTable σ) (keys : List String) : Option (String × MarkerRow σ) :=
  markers.entries.find? (keys.contains ·.1)

/-- The properties of a node by the marker it has. An object without any is reported once, at its
start, and then has the markers themselves as optional properties. A node that is no object gets
those without a report. -/
def settle (markers : MarkerTable σ) (t : Node) : Record σ × Log :=
  let asked := Log.join (markers.entries.map fun entry => ask entry.1 entry.2)
  match t.members? with
  | none => (markers.fallback, asked)
  | some members =>
    match markers.present? (Member.keys members) with
    | some (marker, row) => (row.record, ask marker row)
    | none =>
      (markers.fallback, .report (.missingDiscriminant markers.keys) t.span.head ++ asked)

end MarkerTable

/-! ### Open records -/

/-- A record that hangs on a discriminating value and on the node itself. -/
inductive OpenRecord (σ : Type) where
  /-- The same properties for all. -/
  | fixed (record : Table (Property σ))
  /-- The properties of both, those of the second winning. -/
  | merged (first second : OpenRecord σ)
  /-- The properties of the case of the value. -/
  | byCase (cases : CaseTable σ)
  /-- The properties of one of two records, by whether the value is among some. -/
  | ifAmong (allowed : List String) (yes no : OpenRecord σ)
  /-- The properties of the marker that the node has. -/
  | byMarker (markers : Table (MarkerRow σ))
  /-- The same properties with a change of their marks. -/
  | marked (mark : Mark) (inner : OpenRecord σ)

/-- The properties of an open record for a value and a node, and what was found on the way. Every
part is settled, whether or not its properties are chosen in the end. -/
def OpenRecord.settle (value : Option String) (t : Node) : OpenRecord σ → Record σ × Log
  | .fixed record => (record, {})
  | .merged first second =>
    let a := first.settle value t
    let b := second.settle value t
    (a.1.merge b.1, a.2 ++ b.2)
  | .byCase cases => (cases.recordFor value, {})
  | .ifAmong allowed yes no =>
    let a := yes.settle value t
    let b := no.settle value t
    (recordAmong value allowed a.1 b.1, a.2 ++ b.2)
  | .byMarker markers => MarkerTable.settle markers t
  | .marked mark inner =>
    let a := inner.settle value t
    (Record.mark a.1 mark, a.2)

end DocShape
