import DocShape.Text.Span
import DocShape.Text.LineTable

/-!
# Diagnostics and reports

A `Diagnostic` is a rendered finding: a message at a span with a severity, perhaps a stable code,
and hints on how to show it. A `Report` is a list of diagnostics in the order in which they were
made.
-/

namespace DocShape

/-- How grave a diagnostic is. -/
inductive Severity where
  | error | warning | information | hint
  deriving DecidableEq, Repr

/-- The name of a severity on a line of text. -/
def Severity.name : Severity → String
  | .error => "error"
  | .warning => "warning"
  | .information => "info"
  | .hint => "hint"

/-- A hint on how a diagnostic is shown. -/
inductive Tag where
  /-- Shown faded. -/
  | unnecessary
  /-- Shown struck through. -/
  | deprecated
  deriving DecidableEq, Repr

/-- A set of tags. -/
structure Tags where
  unnecessary : Bool := false
  deprecated : Bool := false
  deriving DecidableEq, Repr

namespace Tags

/-- The set with one more tag. -/
def insert (s : Tags) : Tag → Tags
  | .unnecessary => { s with unnecessary := true }
  | .deprecated => { s with deprecated := true }

/-- The set of some tags. -/
def ofList (tags : List Tag) : Tags := tags.foldl insert {}

/-- The tags of a set, in their fixed order. -/
def toList (s : Tags) : List Tag :=
  (if s.unnecessary then [.unnecessary] else []) ++ (if s.deprecated then [.deprecated] else [])

end Tags

/-- A rendered finding at a place in the source. -/
structure Diagnostic where
  /-- Where it applies. -/
  span : Span
  /-- What is said. -/
  message : String
  /-- How grave it is. -/
  severity : Severity := .error
  /-- How it is shown. -/
  tags : Tags := {}
  /-- A code that names the kind of finding. -/
  code : Option String := none
  deriving DecidableEq, Repr

namespace Diagnostic

/-- Whether the diagnostic is an error. -/
def isError (d : Diagnostic) : Bool := d.severity == .error

/-- Where the diagnostic stands, as text: line and column counted from one if the source is known
and the offset falls on a character, and else the bare offsets. -/
def place (d : Diagnostic) (source : Option String) : String :=
  match source.bind (Source.locate? · d.span.start) with
  | some p => toString (p.row + 1) ++ ":" ++ toString (p.column + 1)
  | none => toString d.span.start ++ ".." ++ toString d.span.stop

/-- The diagnostic as text: severity, code, place and message. -/
def line (d : Diagnostic) (source : Option String) : String :=
  d.severity.name ++ d.code.elim "" (fun code => "[" ++ code ++ "]") ++ " " ++ d.place source
    ++ ": " ++ d.message

end Diagnostic

/-- Diagnostics in the order in which they were made. -/
abbrev Report := List Diagnostic

namespace Report

/-- How many diagnostics have exactly this severity. -/
def count (r : Report) (severity : Severity) : Nat := r.countP (·.severity == severity)

/-- The number of errors. -/
def errors (r : Report) : Nat := r.count .error

/-- Only errors make a document invalid. -/
def isValid (r : Report) : Bool := !r.any (·.isError)

end Report

end DocShape
