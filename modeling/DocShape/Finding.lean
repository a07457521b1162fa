import DocShape.Message.Phrasebook
import DocShape.Report
import DocShape.Tree.Basic

/-!
# Findings

A check finds `Cause`s at places. A `Finding` keeps the two apart from their wording: code, severity
and tags follow from the cause, and a phrasebook puts the finding into words when it is rendered.
-/

namespace DocShape

/-- What can be wrong with a document. -/
inductive Cause where
  /-- A node is not of the kind that its place asks for. -/
  | typeMismatch (expected got : String)
  /-- A required key is absent. -/
  | missingProperty (property : String)
  /-- A key is not declared. -/
  | unknownProperty (property : String)
  /-- A key should no longer be used. -/
  | deprecatedProperty (property : String)
  /-- None of the keys that tell the kinds of an object apart is present. -/
  | missingDiscriminant (candidates : List String)
  /-- A string is outside a closed set. -/
  | unexpectedValue (value : String) (allowed : List String)
  /-- A string does not match a regular expression. -/
  | patternMismatch (value pattern : String)
  /-- A schema is named that nobody has registered. -/
  | unresolvedReference (name : String)
  deriving DecidableEq, Repr

namespace Cause

/-- A node of the wrong kind. -/
def wrongKind (expected : String) (t : Node) : Cause := .typeMismatch expected t.kind.name

/-- The stable code of a cause. -/
def code : Cause → String
  | .typeMismatch .. => "C-1-1"
  | .missingProperty .. => "C-1-2"
  | .unknownProperty .. => "C-1-3"
  | .deprecatedProperty .. => "C-1-4"
  | .missingDiscriminant .. => "C-1-5"
  | .unexpectedValue .. => "C-1-6"
  | .patternMismatch .. => "C-1-7"
  | .unresolvedReference .. => "C-1-8"

/-- How grave a cause is: unknown keys are a warning, deprecated ones a hint, and all else is an
error. -/
def severity : Cause → Severity
  | .unknownProperty .. => .warning
  | .deprecatedProperty .. => .hint
  | _ => .error

/-- How a cause is shown. -/
def tag? : Cause → Option Tag
  | .deprecatedProperty .. => some .deprecated
  | _ => none

/-- What a phrasebook says about a cause. Keys and values are quoted; kinds and patterns are not. -/
def message (book : Phrasebook) : Cause → String
  | .typeMismatch expected got => book.message "type.mismatch" [expected, got]
  | .missingProperty property => book.message "property.missing" [quoted property]
  | .unknownProperty property => book.message "property.unknown" [quoted property]
  | .deprecatedProperty property => book.message "property.deprecated" [quoted property]
  | .missingDiscriminant candidates =>
    book.message "property.missing.one_of" [book.alternatives (candidates.map quoted)]
  | .unexpectedValue value allowed =>
    book.message "value.unexpected" [book.alternatives (allowed.map quoted), quoted value]
  | .patternMismatch value pattern => book.message "value.pattern" [quoted value, pattern]
  | .unresolvedReference name => book.message "reference.unresolved" [quoted name]

end Cause

/-- A cause at a place. -/
structure Finding where
  /-- What is wrong. -/
  cause : Cause
  /-- Where. -/
  span : Span
  deriving DecidableEq, Repr

namespace Finding

/-- Whether the finding is an error. -/
def isError (f : Finding) : Bool := f.cause.severity == .error

/-- The diagnostic of a finding in the words of a phrasebook. -/
def render (book : Phrasebook) (f : Finding) : Diagnostic where
  span := f.span
  message := f.cause.message book
  severity := f.cause.severity
  tags := .ofList f.cause.tag?.toList
  code := some f.cause.code

end Finding

end DocShape
