import DocShape.Text.Position

/-!
# Tables of line starts

A `LineTable` keeps a text together with the offsets at which its lines start. To find the place of a
byte offset, `search` halves the table until it has the line, and only the characters of that line are
counted.

On the way there are three steps that only the contents of the table can justify: that the offset does
not come before the first line, that the line found has a start, and that the offsets of the start and
of the place cut a piece out of the text. Where one of them cannot be done, `locate` ends with a
`Fault`, which is something else than an offset without a place.
-/

namespace DocShape

/-- A place in a text, and the offset that it was found for. -/
structure Location extends Position where
  /-- The byte offset. -/
  offset : Nat
  deriving DecidableEq, Repr

/-- A text, and the offsets at which its lines start. -/
structure LineTable where
  /-- The text. -/
  text : String
  /-- The start of each line. -/
  starts : Array Nat

namespace LineTable

/-- A step of a lookup that cannot be done. -/
inductive Fault where
  /-- There is no line before the first one. -/
  | noLine
  /-- There is no start for a row. -/
  | noStart (row : Nat)
  /-- Two offsets do not cut out a piece of the text. -/
  | noPiece (start stop : Nat)
  deriving DecidableEq, Repr

/-- Where an offset belongs in a table. -/
inductive Hit where
  /-- A line starts there. -/
  | found (row : Nat)
  /-- No line starts there; a line that did would come to be this one. -/
  | missing (row : Nat)
  deriving DecidableEq, Repr

/-! ### Making a table -/

/-- The offsets of the line breaks in some characters, the first of which stands at `offset`. -/
def breaks (offset : Nat) : List Char → List Nat
  | [] => []
  | c :: cs => (if c = '\n' then [offset] else []) ++ breaks (offset + c.utf8Size) cs

/-- The offsets at which the lines of some characters start: the first line at the front, each other
one just behind a line break, which is one byte long. -/
def lineStarts (cs : List Char) : List Nat := 0 :: (breaks 0 cs).map (· + 1)

/-- The table of a text. -/
def ofText (text : String) : LineTable := ⟨text, (lineStarts text.toList).toArray⟩

/-- The number of lines; a final line break opens one more, empty line. -/
def lineCount (table : LineTable) : Nat := table.starts.size

/-! ### Looking a place up -/

/-- Looks for an offset among the rows from `low` up to and without `high` of an ascending table. -/
def search (starts : Array Nat) (offset low high : Nat) (hhigh : high ≤ starts.size) : Hit :=
  if hlow : low < high then
    let middle := low + (high - low) / 2
    have hmiddle : middle < starts.size := by omega
    if starts[middle] = offset then .found middle
    else if starts[middle] < offset then search starts offset (middle + 1) high hhigh
    else search starts offset low middle (by omega)
  else .missing low
termination_by high - low

/-- The row of the line that starts at a hit, or else of the one before the place where such a line
would come. -/
def Hit.row : Hit → Except Fault Nat
  | .found row => .ok row
  | .missing 0 => .error .noLine
  | .missing (row + 1) => .ok row

/-- The row that an offset is on. -/
def row (table : LineTable) (offset : Nat) : Except Fault Nat :=
  (search table.starts offset 0 table.starts.size (Nat.le_refl _)).row

/-- The start of a line. -/
def start (table : LineTable) (row : Nat) : Except Fault Nat :=
  match table.starts[row]? with
  | some start => .ok start
  | none => .error (.noStart row)

/-- The characters between two offsets. -/
def piece (table : LineTable) (start stop : Nat) : Except Fault (List Char) :=
  match Source.piece? table.text.toList start stop with
  | some piece => .ok piece
  | none => .error (.noPiece start stop)

/-- The place of an offset. An offset behind the end of the text or inside a character has none. -/
def locate (table : LineTable) (offset : Nat) : Except Fault (Option Location) :=
  if table.text.utf8ByteSize < offset ∨ ¬ (String.Pos.Raw.mk offset).IsValid table.text then .ok none
  else do
    let row ← table.row offset
    let start ← table.start row
    let piece ← table.piece start offset
    return some { row := row, column := piece.length, offset := offset }

end LineTable

namespace Source

/-- The position of a byte offset in a text, if it has one. -/
def locate? (text : String) (offset : Nat) : Option Position :=
  match (LineTable.ofText text).locate offset with
  | .ok place => place.map (·.toPosition)
  | .error _ => none

/-- The number of lines of a text. -/
def lineCount (text : String) : Nat := (LineTable.ofText text).lineCount

end Source

end DocShape
