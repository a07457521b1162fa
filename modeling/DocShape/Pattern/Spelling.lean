import DocShape.Pattern.Charset

/-!
# How characters are spelled in bytes

In UTF-8 a character takes one to four bytes. The characters of a range are spelled by a few
sequences of byte ranges, and by exactly the bytes that those allow: `Charset.spellings` lists the
sequences of a set in increasing order.
-/

namespace DocShape

/-- The bytes of a code point. -/
def codePointBytes (n : Nat) : List Nat :=
  if n < 0x80 then [n]
  else if n < 0x800 then [0xC0 + n / 0x40, 0x80 + n % 0x40]
  else if n < 0x10000 then [0xE0 + n / 0x1000, 0x80 + n / 0x40 % 0x40, 0x80 + n % 0x40]
  else [0xF0 + n / 0x40000, 0x80 + n / 0x1000 % 0x40, 0x80 + n / 0x40 % 0x40, 0x80 + n % 0x40]

/-- The bytes from one to another, for each place of a spelling. -/
abbrev ByteRanges := List (Nat × Nat)

namespace CodeRange

/-- The end of the first part, if the code points from one to another have to be taken apart at
multiples of a block: where they begin or end within one and not all in the same. -/
def cutAtBlock? (low high block : Nat) : Option Nat :=
  if low / block = high / block then none
  else if low % block ≠ 0 then some (low / block * block + (block - 1))
  else if high % block ≠ block - 1 then some (high / block * block - 1)
  else none

/-- The end of the first part, if some code points do not have one sequence of byte ranges. -/
def cut? (low high : Nat) : Option Nat :=
  if low < 0xE000 ∧ 0xD7FF < high then some 0xD7FF
  else
    match [0x7F, 0x7FF, 0xFFFF].find? fun last => low ≤ last ∧ last < high with
    | some last => some last
    | none =>
      if high < 0x80 then none
      else [0x40, 0x1000, 0x40000].findSome? (cutAtBlock? low high)

/-- The sequences for the code points from one to another. A range is cut a few times only, which
bounds the depth. -/
def spellings (depth low high : Nat) : List ByteRanges :=
  match depth with
  | 0 => []
  | depth + 1 =>
    match cut? low high with
    | some last =>
      let next := if last = 0xD7FF then 0xE000 else last + 1
      spellings depth low last ++ (if next ≤ high then spellings depth next high else [])
    | none => [(codePointBytes low).zip (codePointBytes high)]

end CodeRange

/-- The sequences that spell the characters of a set. -/
def Charset.spellings (a : Charset) : List ByteRanges :=
  a.ranges.toList.flatMap fun r => CodeRange.spellings 24 r.low r.high

end DocShape
