import DocShape.Pattern.Property.Age
import DocShape.Pattern.Property.Derived

/-!
# Sets by the name of a property

A set of characters can be asked for by one name, which is a property, a category or a script, or by
the name of a property and one of its values. Names are compared loosely: without regard to case, to
what separates the words of a name, and to an `is` at its beginning.
-/

namespace DocShape.Charset

/-- The name without an `is` at its beginning, if there is one. -/
def withoutIs? : List Char → Option (List Char)
  | 'i' :: 's' :: rest | 'I' :: 's' :: rest | 'i' :: 'S' :: rest | 'I' :: 'S' :: rest => some rest
  | _ => none

/-- The letters of a name that count, in ASCII and small. -/
def nameLetters (name : List Char) : List Char :=
  (name.filter fun c => c != ' ' && c != '_' && c != '-' && c.toNat < 0x80).map Char.toLower

/-- A name in the form in which names are compared. The short name of a property that begins with
`is` keeps it, as it would be the name of a category without. -/
def looseName (name : String) : String :=
  match withoutIs? name.toList with
  | some rest =>
    if nameLetters rest = ['c'] then "isc" else String.ofList (nameLetters rest)
  | none => String.ofList (nameLetters name.toList)

/-- The set that a single name stands for. The short names of two categories and of their union are
names of properties without a set as well. -/
def named? (name : String) : Option Charset :=
  let name := looseName name
  rowNamed? properties name <|> rowNamed? categories name <|> script? name

/-- The set of characters for which a property has a value. -/
def withValue? (property value : String) : Option Charset :=
  let value := looseName value
  match looseName property with
  | "gc" | "generalcategory" => rowNamed? categories value
  | "sc" | "script" => script? value
  | "scx" | "scriptextensions" => scriptExtension? value
  | "age" => age? value
  | "gcb" | "graphemeclusterbreak" => rowNamed? graphemeBreaks value
  | "wb" | "wordbreak" => rowNamed? wordBreaks value
  | "sb" | "sentencebreak" => rowNamed? sentenceBreaks value
  | _ => none

end DocShape.Charset
