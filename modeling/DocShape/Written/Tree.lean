import DocShape.Tree.Basic
import DocShape.Written.Expected
import DocShape.Written.Report

/-!
# Trees as JSON

A node is written as a record of its kind, its span, its value and its slot, as far as it has them;
a null node has no value. A number that is not finite is written as null, and a finite one in some
form (`NumberForm`), which is the business of whoever writes JSON numbers. A filled slot is written
even when it is filled with nothing, so it differs from an unfilled one.
-/

namespace DocShape

/-- A key as a value. -/
def Key.toJson (k : Key) : Json := .ofEntries [
  ("value", some (.str k.text)),
  ("range", some k.span.toJson),
  ("hover", k.hover.map .str)]

/-- How finite numbers are written. -/
class NumberForm where
  /-- A finite number as a value. -/
  write : Number → Json

/-- A form that loses nothing: every finite number is written as a JSON number, by a literal that
belongs to no other finite number. That holds of every writer whose literals read back as the numbers
they were written for. -/
structure NumberForm.Lossless [NumberForm] : Prop where
  /-- Finite numbers are written as JSON numbers. -/
  literal {x : Number} (h : x.isFinite = true) : ∃ text, write x = .real text
  /-- Finite numbers that are written alike are the same. -/
  injective {x y : Number} (hx : x.isFinite = true) (hy : y.isFinite = true)
    (h : write x = write y) : x = y

variable [NumberForm]

/-- A number as a value. -/
def Number.toJson (x : Number) : Json := if x.isFinite then NumberForm.write x else .null

namespace Node

/-- A node as a value, given its value. -/
def record (kind : Kind) (span : Span) (expectation : Option (List Expectation))
    (value : Option Json) : Json := .ofEntries [
  ("type", some (.str kind.name)),
  ("value", value),
  ("range", some span.toJson),
  ("expectation", Expectation.optionToJson expectation)]

/-- A member as a value, given the value of its value. -/
def memberRecord (key : Option Key) (value : Option Json) : Json := .ofEntries [
  ("key", key.map (·.toJson)),
  ("value", value)]

mutual

/-- A tree as a value. -/
def toJson : Node → Json
  | ⟨span, expectation, .object members⟩ =>
    record .object span expectation (some (.arr (membersToJson members)))
  | ⟨span, expectation, .array items⟩ =>
    record .array span expectation (some (.arr (itemsToJson items)))
  | ⟨span, expectation, .string text⟩ => record .string span expectation (some (.str text))
  | ⟨span, expectation, .number value⟩ => record .number span expectation (some value.toJson)
  | ⟨span, expectation, .boolean value⟩ => record .boolean span expectation (some (.bool value))
  | ⟨span, expectation, .null⟩ => record .null span expectation none

/-- The items of an array as values. -/
def itemsToJson : List Node → List Json
  | [] => []
  | t :: ts => t.toJson :: itemsToJson ts

/-- The members of an object as values. -/
def membersToJson : List (Member Node) → List Json
  | [] => []
  | ⟨key, none⟩ :: ms => memberRecord key none :: membersToJson ms
  | ⟨key, some t⟩ :: ms => memberRecord key (some t.toJson) :: membersToJson ms

end

end Node

end DocShape
