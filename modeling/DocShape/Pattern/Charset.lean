/-!
# Sets of characters

A `Charset` spells a set of characters out as ranges of code points. The ranges are in increasing
order and no two of them overlap or touch, so that a set has one form and `contains` can search it
by halves. Surrogates are no characters: no complement has any.
-/

namespace DocShape

/-- The code points from one to another, both included. -/
structure CodeRange where
  low : Nat
  high : Nat
  deriving DecidableEq, Repr

/-- Some ranges, the last one first, and one more that begins no earlier than the last. It joins the
last if they overlap or touch. -/
def CodeRange.addTo (done : List CodeRange) (r : CodeRange) : List CodeRange :=
  match done with
  | last :: rest =>
    if r.low ≤ last.high + 1 then ⟨last.low, max last.high r.high⟩ :: rest else r :: done
  | [] => [r]

/-- What lies between some ranges, from a code point on. -/
def CodeRange.gaps (start : Nat) : List CodeRange → List CodeRange
  | [] => if start ≤ 0x10FFFF then [⟨start, 0x10FFFF⟩] else []
  | r :: rest =>
    if start < r.low then ⟨start, r.low - 1⟩ :: gaps (r.high + 1) rest else gaps (r.high + 1) rest

/-- A set of characters. -/
structure Charset where
  ranges : Array CodeRange
  deriving DecidableEq, Repr

namespace Charset

/-! ### Making sets -/

/-- No character. -/
def empty : Charset := ⟨#[]⟩

/-- The characters from one code point to another. -/
def range (low high : Nat) : Charset := ⟨#[⟨low, high⟩]⟩

/-- The set of one character. -/
def char (c : Char) : Charset := .range c.toNat c.toNat

/-- The union of ranges that are in the order of their lower ends. -/
def ofSorted (ranges : List CodeRange) : Charset :=
  ⟨(ranges.foldl CodeRange.addTo []).reverse.toArray⟩

/-- The union of ranges in any order. -/
def ofRanges (ranges : List CodeRange) : Charset :=
  .ofSorted (ranges.mergeSort fun r s => r.low ≤ s.low)

/-! ### Combining sets -/

/-- The characters of either set. -/
def union (a b : Charset) : Charset :=
  .ofSorted (a.ranges.toList.merge b.ranges.toList fun r s => r.low ≤ s.low)

/-- The code points that encode half of a character in another form of text, and none in this one.
-/
def surrogates : Charset := .range 0xD800 0xDFFF

/-- All other characters. -/
def compl (a : Charset) : Charset :=
  ⟨(CodeRange.gaps 0 (a.union surrogates).ranges.toList).toArray⟩

/-- All characters. -/
def all : Charset := compl empty

/-- The characters of both sets. -/
def inter (a b : Charset) : Charset := (a.compl.union b.compl).compl

/-- The characters of the first set that are not in the second. -/
def diff (a b : Charset) : Charset := (a.compl.union b).compl

/-- The characters that are in one of two sets and not in both. -/
def symmDiff (a b : Charset) : Charset := (a.diff b).union (b.diff a)

/-- The union of a list of sets. -/
def unions (sets : List Charset) : Charset := sets.foldl union empty

/-! ### Asking a set -/

/-- Whether a code point is in one of the ranges from one index up to another. -/
def search (ranges : Array CodeRange) (n low high : Nat) : Bool :=
  if low < high then
    let middle := (low + high) / 2
    match ranges[middle]? with
    | some r =>
      if n < r.low then search ranges n low middle
      else if r.high < n then search ranges n (middle + 1) high
      else true
    | none => false
  else false
termination_by high - low

/-- Whether a set has a code point. -/
def has (a : Charset) (n : Nat) : Bool := search a.ranges n 0 a.ranges.size

/-- Whether a set has a character. -/
def contains (a : Charset) (c : Char) : Bool := a.has c.toNat

/-- Whether a set has no character. -/
def isEmpty (a : Charset) : Bool := a.ranges.isEmpty

/-- Whether a set has ASCII characters only. -/
def isAscii (a : Charset) : Bool := a.ranges.back?.all (·.high < 0x80)

/-- The code point of a set that has only one. -/
def single? (a : Charset) : Option Nat :=
  if a.ranges.size = 1 then
    a.ranges[0]?.bind fun r => if r.low = r.high then some r.low else none
  else none

end Charset

end DocShape
