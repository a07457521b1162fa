import DocShape.Pattern.Folding
import DocShape.Pattern.Regex

/-!
# Flags in a regular expression

Flags say how the parts of an expression are read from some place of its text on. They decide what a
letter, a set, the dot and the anchors stand for, and whether white space counts. Where Unicode is
switched off, sets have characters of ASCII only, as any other byte would be a part of a character.
-/

namespace DocShape.Regex.Reader

/-- The flags in force at a place of the text. -/
structure Flags where
  /-- Letters stand for both cases. -/
  ignoreCase : Bool := false
  /-- The anchors look at lines and not at the whole text. -/
  multiLine : Bool := false
  /-- The dot stands for line breaks, too. -/
  dotAll : Bool := false
  /-- A carriage return breaks a line as well. -/
  anyBreak : Bool := false
  /-- A repetition is greedy where a question mark follows it, and not where none does. -/
  swapGreed : Bool := false
  /-- Unicode is switched off. -/
  ascii : Bool := false
  /-- White space and comments are left out. -/
  spaced : Bool := false

namespace Flags

/-! ### White space -/

/-- The text without leading white space and comments. -/
def dropSpace (comment : Bool) : List Char → List Char
  | [] => []
  | c :: cs =>
    if comment then dropSpace (c != '\n') cs
    else if Charset.whiteSpace.contains c then dropSpace false cs
    else if c = '#' then dropSpace true cs
    else c :: cs

/-- The text from the next character on that counts. -/
def skip (flags : Flags) (cs : List Char) : List Char :=
  if flags.spaced then dropSpace false cs else cs

/-- The next character but white space and the sign of a comment, of which the text is not left out.
Where there is none, it is the first character of all. -/
def peek (flags : Flags) (cs : List Char) : Option Char :=
  let past (cs : List Char) : List Char := cs.dropWhile Charset.whiteSpace.contains
  if flags.spaced then
    match past cs with
    | '#' :: comment => (past comment).head? <|> cs.head?
    | rest => rest.head? <|> cs.head?
  else cs.head?

/-! ### Characters and sets -/

/-- A set with the other cases of its letters, where the case does not count. -/
def cased (flags : Flags) (set : Charset) : Charset :=
  if flags.ignoreCase then (if flags.ascii then set.anyAsciiCase else set.anyCase) else set

/-- The complement of a set, which has other characters than those of ASCII. -/
def compl? (flags : Flags) (set : Charset) : Option Charset :=
  if flags.ascii then none else some set.compl

/-- A set, or its complement. -/
def signed? (flags : Flags) (negated : Bool) (set : Charset) : Option Charset :=
  if negated then flags.compl? set else some set

/-- The set of a character that stands alone. A byte is one that was written by the two digits of
its number. -/
def char? (flags : Flags) (c : Char) (byte : Bool) : Option Charset :=
  if flags.ascii && byte && 0x80 ≤ c.toNat then none else some (flags.cased (.char c))

/-- The code point of a character in brackets. -/
def member? (flags : Flags) (c : Char) : Option Nat :=
  if flags.ascii && 0x80 ≤ c.toNat then none else some c.toNat

/-- The set of the dot. -/
def dot? (flags : Flags) : Option Charset :=
  if flags.ascii then none
  else if flags.dotAll then some .all
  else if flags.anyBreak then some (Charset.ofTable ["A D"]).compl
  else some (Charset.char '\n').compl

/-- The decimal digits. -/
def digit (flags : Flags) : Charset :=
  if flags.ascii then .range 0x30 0x39 else .decimalNumber

/-- White space. -/
def blank (flags : Flags) : Charset :=
  if flags.ascii then .ofTable ["9-D 20"] else .whiteSpace

/-- The word characters. -/
def word (flags : Flags) : Charset := if flags.ascii then .asciiWord else .word

/-! ### Edges -/

/-- The edge that a circumflex stands for. -/
def lineStart (flags : Flags) : Edge :=
  if flags.multiLine then .lineStart flags.anyBreak else .textStart

/-- The edge that a dollar sign stands for. -/
def lineEnd (flags : Flags) : Edge :=
  if flags.multiLine then .lineEnd flags.anyBreak else .textEnd

/-! ### Setting flags -/

/-- Sets one flag. -/
def set? (flags : Flags) (value : Bool) : Char → Option Flags
  | 'i' => some { flags with ignoreCase := value }
  | 'm' => some { flags with multiLine := value }
  | 's' => some { flags with dotAll := value }
  | 'R' => some { flags with anyBreak := value }
  | 'u' => some { flags with ascii := !value }
  | 'x' => some { flags with spaced := value }
  | 'U' => some { flags with swapGreed := value }
  | _ => none

/-- The flags written in a group up to its colon or parenthesis, which is left in front of what
follows. A flag is set or unset at most once, and there is one behind a minus. -/
def read? (flags : Flags) (value : Bool) (seen : List Char) : List Char → Option (Flags × List Char)
  | [] => none
  | c :: cs =>
    if c = ':' ∨ c = ')' then
      if seen.head? = some '-' then none else some (flags, c :: cs)
    else if c ∈ seen then none
    else if c = '-' then read? flags false (c :: seen) cs
    else
      match flags.set? value c with
      | some flags => read? flags value (c :: seen) cs
      | none => none

end Flags

end DocShape.Regex.Reader
