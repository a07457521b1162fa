/-!
# What is expected at a place in a document

An `Expectation` describes one accepted type: its broad kind, the label an editor shows, and, where
known, the fields and keys of an object, the items of an array and the pool a string is drawn from.
An optional part that is absent says nothing; an empty list says that there is none.

Equality is decided by `Expectation.same`, which compares part by part; `same_iff` says that it is
equality.
-/

namespace DocShape

/-- The broad type of an expectation. -/
inductive ExpectedKind where
  | any | object | array | string | number | boolean | null
  deriving DecidableEq, Repr

/-- A declared field of an expected object; `τ` is the type of the expectations inside. -/
structure Field (τ : Type) where
  /-- The key under which the field stands. -/
  key : String
  /-- What its value may be, when the field's schema says so. -/
  value : Option (List τ)
  /-- The field may be left out. -/
  optional : Bool := false
  /-- The field should no longer be used. -/
  deprecated : Bool := false

/-- One accepted type at a place in a document. -/
structure Expectation where
  /-- The broad type. -/
  kind : ExpectedKind
  /-- The label shown to a reader. -/
  label : String
  /-- The fields of an object with a fixed set of keys. -/
  fields : Option (List (Field Expectation)) := none
  /-- What the keys of an object with free keys may be. -/
  keys : Option (List Expectation) := none
  /-- What the items of an array may be. -/
  items : Option (List Expectation) := none
  /-- The strings of a closed set. -/
  pool : Option (List String) := none

namespace Expectation

/-! ### The plain expectations -/

/-- Anything goes. -/
def any : Expectation where kind := .any; label := "Any"

/-- Some object. -/
def object : Expectation where kind := .object; label := "Object"

/-- Some array. -/
def array : Expectation where kind := .array; label := "Array"

/-- Some string. -/
def string : Expectation where kind := .string; label := "String"

/-- Some number. -/
def number : Expectation where kind := .number; label := "Number"

/-- One of the two booleans. -/
def boolean : Expectation where kind := .boolean; label := "Boolean"

/-- The null value, whose label is written as the value itself. -/
def null : Expectation where kind := .null; label := "null"

/-- The first declared field with a key. -/
def field? (e : Expectation) (key : String) : Option (Field Expectation) :=
  e.fields.bind (·.find? (·.key == key))

/-! ### Equality -/

mutual

/-- Whether two expectations agree in every part. -/
def same : Expectation → Expectation → Bool
  | ⟨kind, label, fields, keys, items, pool⟩, ⟨kind', label', fields', keys', items', pool'⟩ =>
    kind == kind' && label == label' && sameFieldsIfGiven fields fields'
      && sameIfGiven keys keys' && sameIfGiven items items' && pool == pool'

/-- Whether two lists of expectations agree one by one. -/
def sameAll : List Expectation → List Expectation → Bool
  | [], [] => true
  | x :: xs, y :: ys => x.same y && sameAll xs ys
  | _, _ => false

/-- Whether two optional lists are both absent, or agree one by one. -/
def sameIfGiven : Option (List Expectation) → Option (List Expectation) → Bool
  | none, none => true
  | some xs, some ys => sameAll xs ys
  | _, _ => false

/-- Whether two lists of fields agree one by one. -/
def sameFields : List (Field Expectation) → List (Field Expectation) → Bool
  | [], [] => true
  | ⟨key, value, optional, deprecated⟩ :: fs, ⟨key', value', optional', deprecated'⟩ :: gs =>
    key == key' && sameIfGiven value value' && optional == optional' && deprecated == deprecated'
      && sameFields fs gs
  | _, _ => false

/-- Whether two optional lists of fields are both absent, or agree one by one. -/
def sameFieldsIfGiven : Option (List (Field Expectation)) → Option (List (Field Expectation)) → Bool
  | none, none => true
  | some fs, some gs => sameFields fs gs
  | _, _ => false

end

mutual

/-- `same` is equality. -/
theorem same_iff : ∀ d e : Expectation, d.same e = true ↔ d = e
  | ⟨_, _, fields, keys, items, _⟩, ⟨_, _, fields', keys', items', _⟩ => by
    simp [same, sameFieldsIfGiven_iff fields fields', sameIfGiven_iff keys keys',
      sameIfGiven_iff items items', and_assoc]

/-- `sameAll` is equality. -/
theorem sameAll_iff : ∀ xs ys : List Expectation, sameAll xs ys = true ↔ xs = ys
  | [], [] => by simp [sameAll]
  | [], _ :: _ => by simp [sameAll]
  | _ :: _, [] => by simp [sameAll]
  | x :: xs, y :: ys => by simp [sameAll, same_iff x y, sameAll_iff xs ys]

/-- `sameIfGiven` is equality. -/
theorem sameIfGiven_iff : ∀ xs ys : Option (List Expectation), sameIfGiven xs ys = true ↔ xs = ys
  | none, none => by simp [sameIfGiven]
  | none, some _ => by simp [sameIfGiven]
  | some _, none => by simp [sameIfGiven]
  | some xs, some ys => by simp [sameIfGiven, sameAll_iff xs ys]

/-- `sameFields` is equality. -/
theorem sameFields_iff : ∀ fs gs : List (Field Expectation), sameFields fs gs = true ↔ fs = gs
  | [], [] => by simp [sameFields]
  | [], _ :: _ => by simp [sameFields]
  | _ :: _, [] => by simp [sameFields]
  | ⟨_, value, _, _⟩ :: fs, ⟨_, value', _, _⟩ :: gs => by
    simp [sameFields, sameIfGiven_iff value value', sameFields_iff fs gs, and_assoc]

/-- `sameFieldsIfGiven` is equality. -/
theorem sameFieldsIfGiven_iff :
    ∀ fs gs : Option (List (Field Expectation)), sameFieldsIfGiven fs gs = true ↔ fs = gs
  | none, none => by simp [sameFieldsIfGiven]
  | none, some _ => by simp [sameFieldsIfGiven]
  | some _, none => by simp [sameFieldsIfGiven]
  | some fs, some gs => by simp [sameFieldsIfGiven, sameFields_iff fs gs]

end

instance : DecidableEq Expectation := fun d e => decidable_of_iff _ (same_iff d e)

end Expectation

end DocShape
