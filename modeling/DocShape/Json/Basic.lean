/-!
# JSON values

The exchange format of settings, phrasebooks and everything that is handed to an editor. A number
that is written as an integer and fits 64 bits is an integer; any other keeps its literal, because
nothing here computes with it. A repeated key of an object is kept by the value and answered by its
last entry.
-/

namespace DocShape

/-- A JSON value. -/
inductive Json where
  | null
  | bool (value : Bool)
  /-- A number written as an integer. -/
  | int (value : Int)
  /-- A number written with a fraction or an exponent, a negative zero, or one too large for 64
  bits. -/
  | real (literal : String)
  | str (text : String)
  /-- A well-formed value whose own text, be it a string or a key of an object, holds half of a
  surrogate pair and so is no text. -/
  | garbled
  | arr (items : List Json)
  | obj (entries : List (String × Json))

namespace Json

/-- The last entry of an object under a key. -/
def get? (j : Json) (key : String) : Option Json :=
  match j with
  | .obj entries => (entries.reverse.find? (·.1 == key)).map (·.2)
  | _ => none

/-- The text of a string. -/
def text? : Json → Option String
  | .str text => some text
  | _ => none

/-- The value of a boolean. -/
def bool? : Json → Option Bool
  | .bool value => some value
  | _ => none

/-- The items of an array. -/
def items? : Json → Option (List Json)
  | .arr items => some items
  | _ => none

/-- A list of decoded items. -/
def listOf? {α : Type} (decode : Json → Option α) (j : Json) : Option (List α) :=
  j.items?.bind (·.mapM decode)

/-- A list of strings. -/
def texts? (j : Json) : Option (List String) := j.listOf? text?

/-- A byte offset: an integer without a sign. -/
def offset? : Json → Option Nat
  | .int value => value.toNat?
  | _ => none

/-- An integer that fits 32 bits with a sign. -/
def int32? : Json → Option Int
  | .int value => if -0x80000000 ≤ value ∧ value < 0x80000000 then some value else none
  | _ => none

/-- An object of the given entries, of which the absent ones are left out. -/
def ofEntries (entries : List (String × Option Json)) : Json :=
  .obj (entries.filterMap fun (key, value) => value.map (key, ·))

/-- A list of strings as a value. -/
def ofTexts (texts : List String) : Json := .arr (texts.map .str)

mutual

/-- How deep arrays and objects are nested, scalars counting as one. -/
def depth : Json → Nat
  | .arr items => depthOfItems items + 1
  | .obj entries => depthOfEntries entries + 1
  | _ => 1

/-- The greatest depth of an item. -/
def depthOfItems : List Json → Nat
  | [] => 0
  | j :: js => max j.depth (depthOfItems js)

/-- The greatest depth of an entry. -/
def depthOfEntries : List (String × Json) → Nat
  | [] => 0
  | (_, j) :: es => max j.depth (depthOfEntries es)

end

end Json

end DocShape
