import DocShape.Json.Basic

/-!
# Writing JSON

`Json.write` gives the compact text of a value: no blanks, and no character escaped that need not
be.
-/

namespace DocShape.Json

/-- The escape of a character inside a string. Quotes, backslashes and control characters have one.
-/
def escape (c : Char) : String :=
  match c with
  | '"' => "\\\""
  | '\\' => "\\\\"
  | '\n' => "\\n"
  | '\r' => "\\r"
  | '\t' => "\\t"
  | c =>
    if c.toNat < 0x20 then
      "\\u00" ++ String.ofList [Nat.digitChar (c.toNat / 16), Nat.digitChar (c.toNat % 16)]
    else c.toString

/-- A string in quotes, behind what has been written so far. -/
def quoteOnto (written text : String) : String :=
  text.foldl (fun out c => out ++ escape c) (written ++ "\"") ++ "\""

mutual

/-- The text of a value, behind what has been written so far. -/
def writeOnto (written : String) : Json → String
  | .null | .garbled => written ++ "null"
  | .bool value => written ++ (if value then "true" else "false")
  | .int value => written ++ toString value
  | .real literal => written ++ literal
  | .str text => quoteOnto written text
  | .arr items => writeItems (written ++ "[") "" items ++ "]"
  | .obj entries => writeEntries (written ++ "\x7b") "" entries ++ "\x7d"

/-- The items of an array, each behind a separator. -/
def writeItems (written separator : String) : List Json → String
  | [] => written
  | j :: js => writeItems (writeOnto (written ++ separator) j) "," js

/-- The entries of an object, each behind a separator. -/
def writeEntries (written separator : String) : List (String × Json) → String
  | [] => written
  | (key, j) :: es =>
    writeEntries (writeOnto (quoteOnto (written ++ separator) key ++ ":") j) "," es

end

/-- The compact text of a value. -/
def write (j : Json) : String := writeOnto "" j

end DocShape.Json
