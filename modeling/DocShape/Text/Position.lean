/-!
# Lines and columns of a source text

A `Position` is a line and a column, counted from zero. `Position.after` is the one just behind some
characters: the line breaks among them give the row, the characters behind the last line break the
column.

Byte offsets cut a text where characters end: `Source.before?` gives the characters before an offset,
`Source.piece?` those between two. An offset behind the end, or inside a character, cuts nothing.
-/

namespace DocShape

/-- A place in a text, both numbers counted from zero. -/
structure Position where
  /-- Number of line breaks before the place. -/
  row : Nat
  /-- Number of characters between the last line break and the place. -/
  column : Nat
  deriving DecidableEq, Repr

namespace Position

/-- The position just behind some text. -/
def after (cs : List Char) : Position :=
  ⟨cs.count '\n', (cs.reverse.takeWhile (· != '\n')).length⟩

/-- Whether a position comes before another one: on an earlier line, or earlier on the same line. -/
def Before (p q : Position) : Prop := p.row < q.row ∨ p.row = q.row ∧ p.column < q.column

instance (p q : Position) : Decidable (p.Before q) := inferInstanceAs (Decidable (_ ∨ _))

end Position

namespace Source

/-- The characters before a byte offset, or nothing when the offset lies behind the end or inside a
character. -/
def before? : List Char → Nat → Option (List Char)
  | _, 0 => some []
  | [], _ + 1 => none
  | c :: cs, offset + 1 =>
    if c.utf8Size ≤ offset + 1 then (before? cs (offset + 1 - c.utf8Size)).map (c :: ·) else none

/-- The characters between two byte offsets, or nothing when one of them lies behind the end or inside
a character, or when they are in the wrong order. -/
def piece? (cs : List Char) (start stop : Nat) : Option (List Char) :=
  if start ≤ stop then
    (before? cs start).bind fun front => before? (cs.drop front.length) (stop - start)
  else none

end Source

end DocShape
