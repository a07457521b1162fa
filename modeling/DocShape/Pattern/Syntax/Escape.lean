import DocShape.Pattern.Property.Name
import DocShape.Pattern.Syntax.Flags

/-!
# Numbers and escapes in a regular expression

The numbers of repetitions and code points, and what a backslash with the text behind it stands for.
A backslash before a letter without a meaning stands for nothing and is refused.
-/

namespace DocShape.Regex.Reader

/-! ### Numbers -/

/-- The value of a digit to some base up to sixteen. -/
def digit? (base : Nat) (c : Char) : Option Nat :=
  let value :=
    if '0' ≤ c ∧ c ≤ '9' then c.toNat - '0'.toNat
    else if 'a' ≤ c ∧ c ≤ 'f' then c.toNat - 'a'.toNat + 10
    else if 'A' ≤ c ∧ c ≤ 'F' then c.toNat - 'A'.toNat + 10
    else base
  if value < base then some value else none

/-- The number that some digits write, of which there has to be one. -/
def number? (base : Nat) (digits : List Char) : Option Nat :=
  if digits.isEmpty then none
  else (digits.mapM (digit? base)).map (·.foldl (base * · + ·) 0)

/-- The leading digits of a text, and what follows them. -/
def spanDigits (flags : Flags) (done : List Char) (fuel : Nat) (cs : List Char) :
    List Char × List Char :=
  match fuel, cs with
  | fuel + 1, c :: rest =>
    if c.isDigit then spanDigits flags (c :: done) fuel (flags.skip rest) else (done.reverse, cs)
  | _, _ => (done.reverse, cs)

/-- A decimal number that fits 32 bits, between white space, and what follows. -/
def count? (flags : Flags) (cs : List Char) : Option (Nat × List Char) := do
  let cs := cs.dropWhile Charset.whiteSpace.contains
  let (digits, rest) := spanDigits flags [] cs.length cs
  let n ← number? 10 digits
  if n < UInt32.size then some (n, rest.dropWhile Charset.whiteSpace.contains) else none

/-! ### What an escape stands for -/

/-- What an escape stands for. -/
inductive Escape where
  /-- A character, and whether it was written by the two digits of its number. -/
  | char (c : Char) (byte : Bool)
  | set (s : Charset)
  | edge (e : Edge)

/-- The character with a code point written in hexadecimal. -/
def codePoint? (digits : List Char) : Option Char := do
  let n ← number? 16 digits
  if n.isValidChar then some (Char.ofNat n) else none

/-- A given number of characters that count, and what follows them. -/
def take? (flags : Flags) : Nat → List Char → Option (List Char × List Char)
  | 0, cs => some ([], cs)
  | _ + 1, [] => none
  | n + 1, c :: cs => (take? flags n (flags.skip cs)).map fun (taken, rest) => (c :: taken, rest)

/-- The characters that count behind an opening brace, and what follows the closing one. -/
def braced? (flags : Flags) (done : List Char) (fuel : Nat) (cs : List Char) :
    Option (List Char × List Char) :=
  match fuel, flags.skip cs with
  | 0, _ | _, [] => none
  | fuel + 1, c :: rest =>
    if c = '\x7d' then some (done.reverse, rest) else braced? flags (c :: done) fuel rest

/-- A code point of a fixed number of digits, or of any number between braces. -/
def hexEscape? (flags : Flags) (width : Nat) (cs : List Char) : Option (Escape × List Char) :=
  match flags.skip cs with
  | '\x7b' :: cs => do
    let (digits, rest) ← braced? flags [] (cs.length + 1) cs
    return (.char (← codePoint? digits) false, flags.skip rest)
  | cs => do
    let (digits, rest) ← take? flags width cs
    return (.char (← codePoint? digits) (width = 2), rest)

/-- The leading letters and dashes of a text, and what follows them. -/
def spanName (flags : Flags) (done : List Char) (fuel : Nat) (cs : List Char) :
    List Char × List Char :=
  match fuel, cs with
  | fuel + 1, c :: rest =>
    if c.isAlpha || c == '-' then spanName flags (c :: done) fuel (flags.skip rest)
    else (done.reverse, cs)
  | _, _ => (done.reverse, cs)

/-- The edge of a word: any, or the one named between braces. Braces that name nothing belong to a
repetition. -/
def wordEdge? (flags : Flags) (cs : List Char) : Option (Escape × List Char) :=
  let edge (e : WordEdge) (rest : List Char) : Option (Escape × List Char) :=
    some (.edge (.word e flags.ascii), rest)
  match cs with
  | '\x7b' :: inside =>
    match flags.skip inside with
    | [] => none
    | inside =>
      match spanName flags [] inside.length inside with
      | ([], _) => edge .atEdge cs
      | (name, '\x7d' :: rest) =>
        match String.ofList name with
        | "start" => edge .wordStart rest
        | "end" => edge .wordEnd rest
        | "start-half" => edge .wordStartHalf rest
        | "end-half" => edge .wordEndHalf rest
        | _ => none
      | _ => none
  | _ => edge .atEdge cs

/-! ### Properties -/

/-- The parts of a text before and behind the first of some characters. -/
def cutAt? (mark : Char) (cs : List Char) : Option (List Char × List Char) :=
  match cs.span (· != mark) with
  | (before, _ :: behind) => some (before, behind)
  | _ => none

/-- The parts of a text before and behind the first sign of inequality. -/
def cutAtUnequal? : List Char → Option (List Char × List Char)
  | '!' :: '=' :: behind => some ([], behind)
  | c :: cs => (cutAtUnequal? cs).map fun (before, behind) => (c :: before, behind)
  | [] => none

/-- The set that braces behind the letter of a property describe, and whether it is negated: a name,
or a name and a value. -/
def describedSet? (text : List Char) : Option (Charset × Bool) :=
  let valued (parts : List Char × List Char) (negated : Bool) : Option (Charset × Bool) :=
    (Charset.withValue? (String.ofList parts.1) (String.ofList parts.2)).map (·, negated)
  match cutAtUnequal? text, cutAt? ':' text, cutAt? '=' text with
  | some parts, _, _ => valued parts true
  | none, some parts, _ => valued parts false
  | none, none, some parts => valued parts false
  | none, none, none => (Charset.named? (String.ofList text)).map (·, false)

/-- The set of a property, of one letter or between braces. -/
def property? (flags : Flags) (negated : Bool) (cs : List Char) : Option (Escape × List Char) := do
  let (text, rest) ←
    match flags.skip cs with
    | '\x7b' :: cs => braced? flags [] (cs.length + 1) cs
    | c :: cs => some ([c], cs)
    | [] => none
  let (set, unequal) ← if text = ['\\'] then none else describedSet? text
  if flags.ascii then none
  else
    let set ← flags.signed? (negated != unequal) (flags.cased set)
    return (.set set, rest)

/-! ### Escapes -/

/-- The escape behind a backslash, and what follows. -/
def escape? (flags : Flags) : List Char → Option (Escape × List Char)
  | [] => none
  | c :: cs =>
    let char (c : Char) : Option (Escape × List Char) := some (.char c false, cs)
    let edge (e : Edge) : Option (Escape × List Char) := some (.edge e, cs)
    let set (s : Charset) (negated : Bool) : Option (Escape × List Char) :=
      (flags.signed? negated s).map (.set ·, cs)
    match c with
    | 'd' => set flags.digit false
    | 'D' => set flags.digit true
    | 's' => set flags.blank false
    | 'S' => set flags.blank true
    | 'w' => set flags.word false
    | 'W' => set flags.word true
    | 'p' => property? flags false cs
    | 'P' => property? flags true cs
    | 'x' => hexEscape? flags 2 cs
    | 'u' => hexEscape? flags 4 cs
    | 'U' => hexEscape? flags 8 cs
    | 'a' => char '\x07'
    | 'f' => char '\x0c'
    | 't' => char '\t'
    | 'n' => char '\n'
    | 'r' => char '\r'
    | 'v' => char '\x0b'
    | 'A' => edge .textStart
    | 'z' => edge .textEnd
    | 'b' => wordEdge? flags cs
    | 'B' => edge (.word .noEdge flags.ascii)
    | '<' => edge (.word .wordStart flags.ascii)
    | '>' => edge (.word .wordEnd flags.ascii)
    | c => if c.toNat < 0x80 && !c.isAlphanum then char c else none

end DocShape.Regex.Reader
