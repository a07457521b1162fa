/-!
# Spans of bytes in a source text

A `Span` says where a piece of a document stands: the byte offset at which it starts and the one
just behind it. Nothing forces the two into order, because half-written documents and foreign tools
hand over whatever they have. `Span.Covers` is the test behind every position query.
-/

namespace DocShape

/-- A range of bytes, from `start` up to and without `stop`. -/
structure Span where
  /-- Offset of the first byte. -/
  start : Nat
  /-- Offset just behind the last byte. -/
  stop : Nat
  deriving DecidableEq, Repr, Inhabited

namespace Span

/-- The empty span at an offset. -/
def point (offset : Nat) : Span := ⟨offset, offset⟩

/-- The span of one byte at the start, where findings about a whole object are shown. -/
def head (s : Span) : Span := ⟨s.start, s.start + 1⟩

/-- The number of bytes covered; a span that ends before it starts has none. -/
def length? (s : Span) : Option Nat :=
  if s.start ≤ s.stop then some (s.stop - s.start) else none

/-- Whether the span starts where it ends. -/
def isEmpty (s : Span) : Bool := s.start == s.stop

/-- An offset is covered from the first byte up to and including the end: a cursor just behind a
word still counts as being on it. -/
def Covers (s : Span) (offset : Nat) : Prop := s.start ≤ offset ∧ offset ≤ s.stop

instance (s : Span) (offset : Nat) : Decidable (s.Covers offset) :=
  inferInstanceAs (Decidable (_ ∧ _))

end Span

end DocShape
