import DocShape.Pattern.Charset

/-!
# Tables of characters

Large sets are written down as a table: ranges of code points in hexadecimal, in increasing order,
with blanks between them. `41` is one code point, `41-5A` are all from one to another, and
`100-12E/2` is every second one of them. `ofTable` reads such a text.
-/

namespace DocShape.Charset

/-- The number that hexadecimal digits write, of which the letters are capital. -/
def hexNumber (digits : String) : Nat :=
  digits.foldl
    (fun n c => 16 * n + (if c.isDigit then c.toNat - '0'.toNat else c.toNat - 'A'.toNat + 10)) 0

/-- The code points from one to another that are an even distance away from the first, each as a
range of its own. -/
def everySecond (low high : Nat) : List CodeRange :=
  (List.range ((high - low) / 2 + 1)).map fun i => ⟨low + 2 * i, low + 2 * i⟩

/-- The ranges that one entry of a table stands for. -/
def tableEntry (entry : String) : List CodeRange :=
  match entry.splitOn "-" with
  | [single] => [⟨hexNumber single, hexNumber single⟩]
  | [low, high] =>
    match high.splitOn "/" with
    | [high, _] => everySecond (hexNumber low) (hexNumber high)
    | _ => [⟨hexNumber low, hexNumber high⟩]
  | _ => []

/-- The set that the lines of a table describe. -/
def ofTable (lines : List String) : Charset :=
  .ofSorted (lines.flatMap fun line => (line.splitOn " ").flatMap tableEntry)

/-- Looks a name up among rows that each have some names, with blanks between them. -/
def rowNamed? (rows : List (String × α)) (name : String) : Option α :=
  (rows.find? fun row => (row.1.splitOn " ").contains name).map (·.2)

end DocShape.Charset
