import DocShape.Json.Basic
import DocShape.Table

/-!
# Records and names in JSON

How the library's own types look as JSON values. A record is an object with a field per part, or an
array of its parts in their order. A name from a fixed list is a string, or an object whose only key
is the name and whose value is null.
-/

namespace DocShape.Json

/-- The parts of a record with some named parts, of which at least the first `least` have to be
there when they are listed by position. -/
def parts? (names : List String) (least : Nat) : Json → Option (String → Option Json)
  | .obj entries => some (get? (.obj entries))
  | .arr items =>
    if least ≤ items.length ∧ items.length ≤ names.length then
      some fun name => (names.zip items).lookup name
    else none
  | _ => none

/-- A part that may be absent, where null counts as absent. -/
def optional? {α : Type} (decode : Json → Option α) : Option Json → Option (Option α)
  | none | some .null => some none
  | some j => (decode j).map some

/-- A part that may be absent and then takes a given value. -/
def withDefault? {α : Type} (default : α) (decode : Json → Option α) : Option Json → Option α
  | none => some default
  | some j => decode j

/-- The value named by a JSON value, among some values with names. -/
def named? {α : Type} (name : α → String) (values : List α) (j : Json) : Option α :=
  match j with
  | .str text => values.find? (name · == text)
  | .obj entries =>
    match (Table.ofList entries).entries with
    | [(text, .null)] => values.find? (name · == text)
    | _ => none
  | _ => none

end DocShape.Json
