import DocShape.Json.Basic

/-!
# Reading JSON

`Json.read?` takes a whole text: one value, blanks around it, and nothing else. It is as strict as
the format: no comments, no trailing commas, no leading zeros, no raw control characters inside
strings.

A string may name half of a surrogate pair in an escape. Such a string is well formed and yet no
text, so it is read as `Json.garbled`, and an object with such a key likewise; whoever needs the
text refuses it, and whoever skips over the value need not care.
-/

namespace DocShape.Json

namespace Reader

/-- The four characters that may stand between the parts of a value. -/
def isBlank (c : Char) : Bool := c == ' ' || c == '\t' || c == '\n' || c == '\r'

/-- The text without leading blanks. -/
def skipBlanks (cs : List Char) : List Char := cs.dropWhile isBlank

/-- The text behind a given beginning. -/
def dropFront? : List Char → List Char → Option (List Char)
  | [], cs => some cs
  | f :: front, c :: cs => if f = c then dropFront? front cs else none
  | _ :: _, [] => none

/-! ### Strings -/

/-- The value of a hexadecimal digit of either case. -/
def hexValue? (c : Char) : Option Nat :=
  if '0' ≤ c ∧ c ≤ '9' then some (c.toNat - '0'.toNat)
  else if 'a' ≤ c ∧ c ≤ 'f' then some (c.toNat - 'a'.toNat + 10)
  else if 'A' ≤ c ∧ c ≤ 'F' then some (c.toNat - 'A'.toNat + 10)
  else none

/-- The number written by some hexadecimal digits. -/
def hexNumber? (digits : List Char) : Option Nat :=
  (digits.mapM hexValue?).map (·.foldl (16 * · + ·) 0)

/-- The character of a one-letter escape. -/
def escaped? : Char → Option Char
  | '"' => some '"'
  | '\\' => some '\\'
  | '/' => some '/'
  | 'b' => some '\x08'
  | 'f' => some '\x0c'
  | 'n' => some '\n'
  | 'r' => some '\r'
  | 't' => some '\t'
  | _ => none

/-- Joins code points and halves of surrogate pairs into text, if every half has its partner. -/
def assemble? : List Nat → Option (List Char)
  | [] => some []
  | u :: us =>
    if 0xD800 ≤ u ∧ u < 0xDC00 then
      match us with
      | v :: vs =>
        if 0xDC00 ≤ v ∧ v < 0xE000 then
          (assemble? vs).map (Char.ofNat (0x10000 + (u - 0xD800) * 0x400 + (v - 0xDC00)) :: ·)
        else none
      | [] => none
    else if 0xDC00 ≤ u ∧ u < 0xE000 then none
    else (assemble? us).map (Char.ofNat u :: ·)

/-- The rest of a string behind its opening quote, as code points and halves of surrogate pairs, and
the text behind its closing quote. `found` holds what has been read, last first. -/
def stringRest? (found : List Nat) : List Char → Option (List Nat × List Char)
  | '"' :: cs => some (found.reverse, cs)
  | '\\' :: 'u' :: a :: b :: c :: d :: cs =>
    match hexNumber? [a, b, c, d] with
    | some u => stringRest? (u :: found) cs
    | none => none
  | '\\' :: c :: cs =>
    match escaped? c with
    | some e => stringRest? (e.toNat :: found) cs
    | none => none
  | c :: cs => if c.toNat < 0x20 then none else stringRest? (c.toNat :: found) cs
  | [] => none

/-- A string behind its opening quote: its text, where it has one, and what follows. -/
def string? (cs : List Char) : Option (Option String × List Char) :=
  (stringRest? [] cs).map fun (units, rest) => ((assemble? units).map String.ofList, rest)

/-! ### Numbers -/

/-- Splits off the leading decimal digits. -/
def digits (cs : List Char) : List Char × List Char := cs.span Char.isDigit

/-- The digits of the integer part: a zero alone, or digits that do not start with one. -/
def integerPart? (cs : List Char) : Option (List Char × List Char) :=
  match digits cs with
  | ([], _) => none
  | (['0'], rest) => some (['0'], rest)
  | ('0' :: _, _) => none
  | (ds, rest) => some (ds, rest)

/-- The fraction, point included, if there is one. -/
def fraction? (cs : List Char) : Option (List Char × List Char) :=
  match cs with
  | '.' :: rest =>
    match digits rest with
    | ([], _) => none
    | (ds, rest) => some ('.' :: ds, rest)
  | _ => some ([], cs)

/-- The exponent, letter and sign included, if there is one. -/
def exponent? (cs : List Char) : Option (List Char × List Char) :=
  match cs with
  | e :: rest =>
    if e = 'e' ∨ e = 'E' then
      let (sign, rest) := match rest with
        | '+' :: rest => (['+'], rest)
        | '-' :: rest => (['-'], rest)
        | _ => ([], rest)
      match digits rest with
      | ([], _) => none
      | (ds, rest) => some (e :: sign ++ ds, rest)
    else some ([], cs)
  | [] => some ([], cs)

/-- The natural number written by some decimal digits. -/
def decimal (ds : List Char) : Nat := ds.foldl (fun n d => 10 * n + (d.toNat - '0'.toNat)) 0

/-- The value of a number: an integer where the literal is one and fits 64 bits. -/
def numberOf (negative : Bool) (whole rest : List Char) : Json :=
  let n := decimal whole
  if rest.isEmpty && !negative && n < UInt64.size then .int n
  else if rest.isEmpty && negative && n != 0 && n ≤ 0x8000000000000000 then .int (-n)
  else .real (String.ofList ((if negative then ['-'] else []) ++ whole ++ rest))

/-- A number, and what follows. -/
def number? (cs : List Char) : Option (Json × List Char) := do
  let (negative, cs) := match cs with
    | '-' :: rest => (true, rest)
    | _ => (false, cs)
  let (whole, cs) ← integerPart? cs
  let (fraction, cs) ← fraction? cs
  let (exponent, cs) ← exponent? cs
  return (numberOf negative whole (fraction ++ exponent), cs)

/-! ### Values -/

/-- An object of entries some of whose keys may be no text. -/
def objectOf (entries : List (Option String × Json)) : Json :=
  match entries.mapM fun (key, value) => key.map (·, value) with
  | some entries => .obj entries
  | none => .garbled

mutual

/-- A value, and what follows. Every call spends one unit of `fuel`. -/
def value? (fuel : Nat) (cs : List Char) : Option (Json × List Char) :=
  match fuel with
  | 0 => none
  | fuel + 1 =>
    match skipBlanks cs with
    | '"' :: cs =>
      (string? cs).map fun (text, rest) => (text.elim .garbled .str, rest)
    | '[' :: cs =>
      match skipBlanks cs with
      | ']' :: rest => some (.arr [], rest)
      | cs => items? fuel [] cs
    | '\x7b' :: cs =>
      match skipBlanks cs with
      | '\x7d' :: rest => some (.obj [], rest)
      | cs => entries? fuel [] cs
    | 't' :: cs => (dropFront? "rue".toList cs).map (.bool true, ·)
    | 'f' :: cs => (dropFront? "alse".toList cs).map (.bool false, ·)
    | 'n' :: cs => (dropFront? "ull".toList cs).map (.null, ·)
    | cs => number? cs

/-- The items of an array up to its bracket; `found` holds those read so far, last first. -/
def items? (fuel : Nat) (found : List Json) (cs : List Char) : Option (Json × List Char) :=
  match fuel with
  | 0 => none
  | fuel + 1 =>
    match value? fuel cs with
    | none => none
    | some (item, rest) =>
      match skipBlanks rest with
      | ',' :: rest => items? fuel (item :: found) rest
      | ']' :: rest => some (.arr (item :: found).reverse, rest)
      | _ => none

/-- The entries of an object up to its brace; `found` holds those read so far, last first. -/
def entries? (fuel : Nat) (found : List (Option String × Json)) (cs : List Char) :
    Option (Json × List Char) :=
  match fuel with
  | 0 => none
  | fuel + 1 =>
    match skipBlanks cs with
    | '"' :: cs =>
      match string? cs with
      | none => none
      | some (key, rest) =>
        match skipBlanks rest with
        | ':' :: rest =>
          match value? fuel rest with
          | none => none
          | some (value, rest) =>
            match skipBlanks rest with
            | ',' :: rest => entries? fuel ((key, value) :: found) rest
            | '\x7d' :: rest => some (objectOf ((key, value) :: found).reverse, rest)
            | _ => none
        | _ => none
    | _ => none

end

end Reader

/-- The value written by a whole text. Each step of the reader consumes a character or is followed
by one that does, so twice the length is fuel enough. -/
def read? (text : String) : Option Json :=
  let cs := text.toList
  match Reader.value? (2 * cs.length + 2) cs with
  | some (j, rest) => if (Reader.skipBlanks rest).isEmpty then some j else none
  | none => none

end DocShape.Json
