import DocShape.Finding
import DocShape.Json.Record

/-!
# Causes as JSON

A cause is a record of its type's name and its data, and the data a record of what the type says.
-/

namespace DocShape.Cause

/-- The types of causes. -/
inductive Form where
  | typeMismatch | missingProperty | unknownProperty | deprecatedProperty
  | missingDiscriminant | unexpectedValue | patternMismatch | unresolvedReference
  deriving DecidableEq, Repr

namespace Form

/-- The name of a type of causes. -/
def name : Form → String
  | .typeMismatch => "TypeMismatch"
  | .missingProperty => "MissingProperty"
  | .unknownProperty => "UnknownProperty"
  | .deprecatedProperty => "DeprecatedProperty"
  | .missingDiscriminant => "MissingDiscriminant"
  | .unexpectedValue => "UnexpectedValue"
  | .patternMismatch => "PatternMismatch"
  | .unresolvedReference => "UnresolvedReference"

/-- All types of causes. -/
def all : List Form := [.typeMismatch, .missingProperty, .unknownProperty, .deprecatedProperty,
  .missingDiscriminant, .unexpectedValue, .patternMismatch, .unresolvedReference]

end Form

/-- A value with a type's name and data. -/
def tagged (form : Form) (data : List (String × Json)) : Json :=
  .obj [("type", .str form.name), ("data", .obj data)]

/-- A cause as a value. -/
def toJson : Cause → Json
  | .typeMismatch expected got =>
    tagged .typeMismatch [("expected", .str expected), ("got", .str got)]
  | .missingProperty property => tagged .missingProperty [("property", .str property)]
  | .unknownProperty property => tagged .unknownProperty [("property", .str property)]
  | .deprecatedProperty property => tagged .deprecatedProperty [("property", .str property)]
  | .missingDiscriminant candidates =>
    tagged .missingDiscriminant [("candidates", .ofTexts candidates)]
  | .unexpectedValue value allowed =>
    tagged .unexpectedValue [("value", .str value), ("allowed", .ofTexts allowed)]
  | .patternMismatch value pattern =>
    tagged .patternMismatch [("value", .str value), ("pattern", .str pattern)]
  | .unresolvedReference name => tagged .unresolvedReference [("name", .str name)]

/-- A field of a cause's data. -/
def dataField {α : Type} (entries : List (String × Json)) (name : String)
    (decode : Json → Option α) : Option α :=
  ((Json.obj entries).get? name).bind decode

/-- The cause of a type with the fields of its data. -/
def ofFields? (data : List (String × Json)) : Form → Option Cause
  | .typeMismatch => do
    return .typeMismatch (← dataField data "expected" Json.text?)
      (← dataField data "got" Json.text?)
  | .missingProperty => (dataField data "property" Json.text?).map .missingProperty
  | .unknownProperty => (dataField data "property" Json.text?).map .unknownProperty
  | .deprecatedProperty => (dataField data "property" Json.text?).map .deprecatedProperty
  | .missingDiscriminant => (dataField data "candidates" Json.texts?).map .missingDiscriminant
  | .unexpectedValue => do
    return .unexpectedValue (← dataField data "value" Json.text?)
      (← dataField data "allowed" Json.texts?)
  | .patternMismatch => do
    return .patternMismatch (← dataField data "value" Json.text?)
      (← dataField data "pattern" Json.text?)
  | .unresolvedReference => (dataField data "name" Json.text?).map .unresolvedReference

/-- The type's name and the data of a cause in a value: the fields of an object, or a pair of which
the first part is a plain string. The data are always an object. -/
def formAndData? : Json → Option (Form × List (String × Json))
  | .obj entries => do
    let form ← ((Json.obj entries).get? "type").bind (Json.named? Form.name Form.all)
    match (Json.obj entries).get? "data" with
    | some (.obj data) => some (form, data)
    | _ => none
  | .arr [.str name, .obj data] => (Json.named? Form.name Form.all (.str name)).map (·, data)
  | _ => none

/-- The cause in a value. -/
def ofJson? (j : Json) : Option Cause := do
  let (form, data) ← formAndData? j
  ofFields? data form

end DocShape.Cause
