import DocShape.Written.Tree

/-!
# Numbers as tagged bits

Where trees are handed over to be compared text by text, a number is a string of a tag and sixteen
hexadecimal digits, which keeps every bit and needs no rounding to be read back. This is no JSON
number, and not what an editor is given.
-/

namespace DocShape.Number

/-- The last `width` hexadecimal digits of a natural number. -/
def hexDigits : Nat → Nat → List Char
  | 0, _ => []
  | width + 1, n => hexDigits width (n / 16) ++ [Nat.digitChar (n % 16)]

/-- What stands in front of the digits of a tagged number. -/
def tag : String := "f64:"

/-- The tagged form: the tag and sixteen lower-case hexadecimal digits. -/
def toText (x : Number) : String := tag ++ String.ofList (hexDigits 16 x.bits.toNat)

/-- The value of a lower-case hexadecimal digit. -/
def hexValue? (c : Char) : Option Nat :=
  if '0' ≤ c ∧ c ≤ '9' then some (c.toNat - '0'.toNat)
  else if 'a' ≤ c ∧ c ≤ 'f' then some (c.toNat - 'a'.toNat + 10)
  else none

/-- Reads the tagged form back. -/
def ofText? (text : String) : Option Number := do
  let (front, digits) := text.toList.splitAt 4
  guard (front = tag.toList ∧ digits.length = 16)
  let values ← digits.mapM hexValue?
  return ⟨UInt64.ofNat (values.foldl (16 * · + ·) 0)⟩

/-- Numbers in their tagged form. -/
instance tagged : NumberForm := ⟨fun x => .str x.toText⟩

end DocShape.Number
