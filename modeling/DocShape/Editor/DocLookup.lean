import DocShape.Message.Phrasebook

/-!
# Looking up documentation

A `DocLookup` answers for a dotted path such as `loot_table.pools.rolls`: it has a text, or it has
none.
-/

namespace DocShape

/-- The text on each path that has one. -/
abbrev DocLookup := String → Option String

namespace DocLookup

/-- No documentation at all. -/
def none : DocLookup := fun _ => Option.none

/-- The texts of a table. -/
def ofTable (texts : Table String) : DocLookup := texts.get?

/-- The templates of a phrasebook, under the path behind a given beginning. -/
def ofPhrasebook (book : Phrasebook) (front : String) : DocLookup :=
  fun path => book.template? (front ++ path)

/-- A stand-in text on every path with a given beginning. -/
def placeholders (front : String) : DocLookup :=
  fun path => if front.toList.isPrefixOf path.toList then some ("doc of <" ++ path ++ ">")
    else Option.none

end DocLookup

end DocShape
