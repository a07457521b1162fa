import DocShape.Schema.Selector
import DocShape.Schema.Pattern

/-!
# Schemas

A `Schema` is data: it says what a node may be, and refers to other schemas by name where it does
not contain them. What it means is said by the check. `ε` is a type of custom checks; a schema over
`Empty` has none and is made of the constructors below alone.
-/

namespace DocShape

/-- The kinds of scalars that a schema can ask for. -/
inductive Scalar where
  | boolean | number | string
  deriving DecidableEq, Repr

/-- The kind of a scalar. -/
def Scalar.kind : Scalar → Kind
  | .boolean => .boolean
  | .number => .number
  | .string => .string

/-- What is expected where a scalar is asked for. -/
def Scalar.expectation : Scalar → Expectation
  | .boolean => .boolean
  | .number => .number
  | .string => .string

/-- The properties of an object by key, one row each, with a property for every other key. -/
structure Fields (σ : Type) where
  /-- The properties that have a key of their own. -/
  rows : List (String × Property σ)
  /-- The property of every other key. -/
  otherwise : Property σ

/-- What a schema says about the members of an object. -/
inductive Shape (σ : Type) where
  /-- Nothing. -/
  | free
  /-- The keys are declared; each has a property. -/
  | fixed (keys : List String) (fields : Fields σ)
  /-- The keys have a schema of their own; each has a property. -/
  | keyed (keys : σ) (fields : Fields σ)

/-- What a node may be. -/
inductive Schema (ε : Type) where
  /-- Anything. -/
  | anything
  /-- A scalar of some kind. -/
  | scalar (scalar : Scalar)
  /-- A string from a closed set. -/
  | oneOf (pool : List String)
  /-- A string that matches a regular expression. -/
  | matching (pattern : Pattern)
  /-- An object of some shape. -/
  | object (shape : Shape (Schema ε))
  /-- An array whose items all fit a schema. -/
  | array (item : Schema ε)
  /-- Whatever fits the best of some alternatives. -/
  | union (alternatives : List (Schema ε))
  /-- Whatever fits the schema registered under a name. -/
  | named (name : String)
  /-- The same as another schema, documented under a path of its own. -/
  | documented (path : String) (schema : Schema ε)
  /-- An object whose schema is selected by the text under a key. -/
  | switch (key : String) (selector : Selector (Schema ε))
  /-- Whatever fits the schema that is selected for it. -/
  | select (selector : Selector (Schema ε))
  /-- A custom check, which may use other schemas. -/
  | custom (check : ε) (parts : List (Schema ε))

/-! ### Lookups -/

/-- The property of a key: that of its first row, or else the one for every other key. -/
def Fields.property {σ : Type} (f : Fields σ) (key : String) : Property σ :=
  (f.rows.lookup key).getD f.otherwise

namespace Schema

variable {ε : Type}

/-- An object with the properties of a record. -/
def record (r : Record (Schema ε)) : Schema ε :=
  .object (.fixed r.keys ⟨r.entries, ⟨.anything, none⟩⟩)

/-- Any object. -/
def anyObject : Schema ε := .object .free

end Schema

end DocShape
