import DocShape.Json.Reader

/-!
# Settings

What can be set for a run of checks: how deep expectations are described, and how hovers look.
Settings are read from a JSON text whose fields may all be left out.
-/

namespace DocShape

/-- Settings shared by all checks of a run. -/
structure Settings where
  /-- The deepest scope in which objects and arrays still describe their parts. Describing a part
  goes one scope deeper, so zero describes the fields of an object but not the fields of its fields.
  -/
  expectationDepth : Int := 0
  /-- The language named in the code fence of a hover. -/
  hoverLanguage : String := "typescript"
  /-- The line between the signature of a hover and its documentation. -/
  hoverSeparator : String := "******"
  deriving DecidableEq, Repr

namespace Settings

/-- The names of the settings in a JSON object; a JSON array lists them in this order. -/
def names : List String := ["expectationDepth", "hoverLanguage", "hoverSeparator"]

/-- Takes over one named setting. Other names are skipped. -/
def set? (s : Settings) (name : String) (value : Json) : Option Settings :=
  match name with
  | "expectationDepth" => value.int32?.map ({ s with expectationDepth := · })
  | "hoverLanguage" => value.text?.map ({ s with hoverLanguage := · })
  | "hoverSeparator" => value.text?.map ({ s with hoverSeparator := · })
  | _ => some s

/-- The settings in a value: an object that has no setting twice, or an array of the settings from
the first one on. -/
def ofJson? : Json → Option Settings
  | .obj entries =>
    if names.all fun name => entries.countP (·.1 == name) ≤ 1 then
      entries.foldlM (fun s (name, value) => s.set? name value) {}
    else none
  | .arr items =>
    if items.length ≤ names.length then
      (names.zip items).foldlM (fun s (name, value) => s.set? name value) {}
    else none
  | _ => none

/-- The settings written by a text. -/
def read? (text : String) : Option Settings := (Json.read? text).bind ofJson?

/-- The settings as a value. -/
def toJson (s : Settings) : Json := .obj [
  ("expectationDepth", .int s.expectationDepth),
  ("hoverLanguage", .str s.hoverLanguage),
  ("hoverSeparator", .str s.hoverSeparator)]

end Settings

end DocShape
