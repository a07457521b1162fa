import DocShape.Table

/-!
# Properties and records

A `Property` is what an object's schema says of one key: the schema of its value, and perhaps some
marks. A bare property has no marks and is required. A `Record` is a table of properties by key, and
`Properties` are a record of which it is known that no key stands twice. `σ` stands for the type of
schemas throughout.
-/

namespace DocShape

/-- What is marked of a property. -/
structure Marks where
  /-- The key may be left out. -/
  optional : Bool := false
  /-- The key should no longer be used. -/
  deprecated : Bool := false
  /-- A segment put in front of the key in the documentation path. -/
  docPath : Option String := none
  deriving DecidableEq, Repr

/-- What an object's schema says of one key. -/
structure Property (σ : Type) where
  /-- The schema of the value. -/
  schema : σ
  /-- The marks; a bare property has none, not even empty ones. -/
  marks : Option Marks := none

/-- Properties by key, in order of declaration. -/
abbrev Record (σ : Type) := Table (Property σ)

/-- A record with distinct keys, as every one is that has been built. Schemas hold the bare record: no
proof about schemas can be a part of one. -/
structure Properties (σ : Type) where
  /-- The properties by key. -/
  record : Record σ
  /-- No key stands twice. -/
  nodup : record.keys.Nodup

/-- A change of the marks of a property. -/
inductive Mark where
  | optional
  | deprecated
  /-- Puts a segment in front of the key in the documentation path, in place of any other. -/
  | docPath (segment : String)
  deriving DecidableEq, Repr

/-- The marks after a change. -/
def Mark.apply : Mark → Marks → Marks
  | .optional, marks => { marks with optional := true }
  | .deprecated, marks => { marks with deprecated := true }
  | .docPath segment, marks => { marks with docPath := some segment }

namespace Property

variable {σ : Type}

/-- The same property with a change of its marks. A bare one is marked from then on. -/
def mark (p : Property σ) (m : Mark) : Property σ :=
  { p with marks := some (m.apply (p.marks.getD {})) }

/-- Whether the key is marked as one that may be left out. -/
def isOptional (p : Property σ) : Bool := p.marks.any (·.optional)

/-- Whether the key should no longer be used. -/
def isDeprecated (p : Property σ) : Bool := p.marks.any (·.deprecated)

/-- Whether nothing is said when the key is absent. Nobody has to use a deprecated key. -/
def mayBeAbsent (p : Property σ) : Bool := p.isOptional || p.isDeprecated

/-- The segment put in front of the key in the documentation path. -/
def docPath? (p : Property σ) : Option String := p.marks.bind (·.docPath)

end Property

/-- The same record with a change of the marks of every property. -/
def Record.mark {σ : Type} (r : Record σ) (m : Mark) : Record σ := r.map (·.mark m)

end DocShape
