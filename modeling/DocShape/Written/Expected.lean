import DocShape.Tree.Expected
import DocShape.Json.Record

/-!
# Expectations as JSON

An expectation is written as a record of which absent parts and false flags are left out. Reading
goes level by level: `Expectation.decode` has to be given the number of levels, and
`Expectation.ofJson?` takes it from the value.
-/

namespace DocShape

namespace ExpectedKind

/-- The name of a kind. -/
def name : ExpectedKind → String
  | .any => "any"
  | .object => "object"
  | .array => "array"
  | .string => "string"
  | .number => "number"
  | .boolean => "boolean"
  | .null => "null"

/-- All kinds. -/
def all : List ExpectedKind := [.any, .object, .array, .string, .number, .boolean, .null]

end ExpectedKind

namespace Expectation

mutual

/-- An expectation as a value. -/
def toJson : Expectation → Json
  | ⟨kind, label, fields, keys, items, pool⟩ => .ofEntries [
    ("kind", some (.str kind.name)),
    ("typedoc", some (.str label)),
    ("fields", fieldsToJson fields),
    ("keys", optionToJson keys),
    ("items", optionToJson items),
    ("pool", pool.map .ofTexts)]

/-- Some expectations as values. -/
def listToJson : List Expectation → List Json
  | [] => []
  | e :: es => e.toJson :: listToJson es

/-- Some expectations as a value, if they are given. -/
def optionToJson : Option (List Expectation) → Option Json
  | none => none
  | some es => some (.arr (listToJson es))

/-- Some fields as values. -/
def fieldListToJson : List (Field Expectation) → List Json
  | [] => []
  | ⟨key, value, optional, deprecated⟩ :: fs =>
    .ofEntries [
      ("key", some (.str key)),
      ("value", optionToJson value),
      ("optional", if optional then some (.bool true) else none),
      ("deprecated", if deprecated then some (.bool true) else none)] :: fieldListToJson fs

/-- Some fields as a value, if they are given. -/
def fieldsToJson : Option (List (Field Expectation)) → Option Json
  | none => none
  | some fs => some (.arr (fieldListToJson fs))

end

/-- A field of which the values are decoded by `decode`. -/
def decodeField (decode : Json → Option Expectation) (j : Json) : Option (Field Expectation) := do
  let part ← j.parts? ["key", "value", "optional", "deprecated"] 2
  let key ← (part "key").bind Json.text?
  let value ← Json.optional? (Json.listOf? decode) (part "value")
  let optional ← Json.withDefault? false Json.bool? (part "optional")
  let deprecated ← Json.withDefault? false Json.bool? (part "deprecated")
  return ⟨key, value, optional, deprecated⟩

/-- The expectation in a value of at most `levels` levels. -/
def decode (levels : Nat) (j : Json) : Option Expectation :=
  match levels with
  | 0 => none
  | levels + 1 => do
    let part ← j.parts? ["kind", "typedoc", "fields", "keys", "items", "pool"] 6
    let kind ← (part "kind").bind (Json.named? ExpectedKind.name ExpectedKind.all)
    let label ← (part "typedoc").bind Json.text?
    let fields ← Json.optional? (Json.listOf? (decodeField (decode levels))) (part "fields")
    let keys ← Json.optional? (Json.listOf? (decode levels)) (part "keys")
    let items ← Json.optional? (Json.listOf? (decode levels)) (part "items")
    let pool ← Json.optional? Json.texts? (part "pool")
    return ⟨kind, label, fields, keys, items, pool⟩

/-- The expectation in a value. -/
def ofJson? (j : Json) : Option Expectation := decode j.depth j

end Expectation

/-- A field of an expectation as a value. -/
def Field.toJson (f : Field Expectation) : Json :=
  .ofEntries [
    ("key", some (.str f.key)),
    ("value", Expectation.optionToJson f.value),
    ("optional", if f.optional then some (.bool true) else none),
    ("deprecated", if f.deprecated then some (.bool true) else none)]

end DocShape
