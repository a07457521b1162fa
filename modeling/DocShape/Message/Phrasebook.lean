import DocShape.Table
import DocShape.Json.Reader
import DocShape.Message.Template

/-!
# Phrasebooks

A `Phrasebook` gives the template of every message under a name. It may fall back on the built-in
English one for names it lacks. A name that has no template anywhere is rendered as itself, so that
a missing phrase is seen.
-/

namespace DocShape

/-- Templates by name. -/
structure Phrasebook where
  /-- The templates of this phrasebook. -/
  templates : Table String
  /-- Whether the built-in templates stand in for missing ones. -/
  fallsBack : Bool := false

namespace Phrasebook

/-- The built-in English templates. -/
def builtinTemplates : Table String := .ofList [
  ("conjunction.or", " or "),
  ("conjunction.separator", ", "),
  ("type.mismatch", "Expected %0%, got %1%"),
  ("property.missing", "Missing property %0%"),
  ("property.missing.one_of", "Missing one of the properties %0%"),
  ("property.unknown", "Unknown property %0%"),
  ("property.deprecated", "Property %0% is deprecated"),
  ("value.unexpected", "Expected %0%, got %1%"),
  ("value.pattern", "Value %0% does not match the pattern %1%"),
  ("reference.unresolved", "Unresolved schema reference %0%")]

/-- The built-in English phrasebook. -/
def builtin : Phrasebook := ⟨builtinTemplates, false⟩

/-- A phrasebook without any template. -/
def empty : Phrasebook := ⟨⟨[]⟩, false⟩

/-- The phrasebook written by a text: one JSON object whose values are all strings. The last of
several templates under one name counts. -/
def read? (text : String) : Option Phrasebook :=
  match Json.read? text with
  | some (.obj entries) =>
    let rows := entries.mapM fun (entry : String × Json) => entry.2.text?.map (entry.1, ·)
    rows.map (⟨.ofList ·, false⟩)
  | _ => none

/-- Writes a template under a name. -/
def insert (b : Phrasebook) (name template : String) : Phrasebook :=
  { b with templates := b.templates.insert name template }

/-- The same phrasebook, falling back on the built-in one. -/
def withFallback (b : Phrasebook) : Phrasebook := { b with fallsBack := true }

/-- The template under a name. -/
def template? (b : Phrasebook) (name : String) : Option String :=
  (b.templates.get? name).or (if b.fallsBack then builtinTemplates.get? name else none)

/-- The message under a name, with its arguments put in. -/
def message (b : Phrasebook) (name : String) (arguments : List String) : String :=
  match b.template? name with
  | some template => Template.fill template arguments
  | none => name

/-- Alternatives in a row: `a, b or c`, with the phrasebook's own words between them. -/
def alternatives (b : Phrasebook) : List String → String
  | [] => ""
  | [only] => only
  | items =>
    let separator := (b.template? "conjunction.separator").getD ", "
    let last := (b.template? "conjunction.or").getD " or "
    String.intercalate separator items.dropLast ++ last ++ items.getLast?.getD ""

end Phrasebook

/-- A value in quotes, as it is shown inside a message. -/
def quoted (value : String) : String := "\"" ++ value ++ "\""

end DocShape
