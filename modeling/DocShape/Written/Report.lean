import DocShape.Report
import DocShape.Json.Record

/-!
# Diagnostics as JSON

A span is a record of two offsets, and a diagnostic a record of which an empty set of tags and an
absent code are left out.
-/

namespace DocShape

namespace Span

/-- A span as a value. -/
def toJson (s : Span) : Json := .obj [("start", .int s.start), ("end", .int s.stop)]

/-- The span in a value. -/
def ofJson? (j : Json) : Option Span := do
  let part ← j.parts? ["start", "end"] 2
  let start ← (part "start").bind Json.offset?
  let stop ← (part "end").bind Json.offset?
  return ⟨start, stop⟩

end Span

namespace Severity

/-- The name of a severity in a value. It differs from the one on a line of text for information
only. -/
def key : Severity → String
  | .error => "error"
  | .warning => "warning"
  | .information => "information"
  | .hint => "hint"

/-- All severities, the gravest first. -/
def all : List Severity := [.error, .warning, .information, .hint]

/-- The severity in a value. -/
def ofJson? (j : Json) : Option Severity := j.named? key all

end Severity

namespace Tag

/-- The name of a tag. -/
def name : Tag → String
  | .unnecessary => "unnecessary"
  | .deprecated => "deprecated"

/-- All tags. -/
def all : List Tag := [.unnecessary, .deprecated]

/-- The tag in a value. -/
def ofJson? (j : Json) : Option Tag := j.named? name all

end Tag

namespace Tags

/-- A set of tags as a value; the empty set has none. -/
def toJson? (s : Tags) : Option Json :=
  if s.toList.isEmpty then none else some (.ofTexts (s.toList.map (·.name)))

/-- The set of tags in a value. -/
def ofJson? (j : Json) : Option Tags := (j.listOf? Tag.ofJson?).map .ofList

end Tags

namespace Diagnostic

/-- A diagnostic as a value. -/
def toJson (d : Diagnostic) : Json := .ofEntries [
  ("range", some d.span.toJson),
  ("message", some (.str d.message)),
  ("severity", some (.str d.severity.key)),
  ("tags", d.tags.toJson?),
  ("code", d.code.map .str)]

/-- The diagnostic in a value. -/
def ofJson? (j : Json) : Option Diagnostic := do
  let part ← j.parts? ["range", "message", "severity", "tags", "code"] 3
  let span ← (part "range").bind Span.ofJson?
  let message ← (part "message").bind Json.text?
  let severity ← (part "severity").bind Severity.ofJson?
  let tags ← Json.withDefault? {} Tags.ofJson? (part "tags")
  let code ← Json.optional? Json.text? (part "code")
  return ⟨span, message, severity, tags, code⟩

end Diagnostic

end DocShape
