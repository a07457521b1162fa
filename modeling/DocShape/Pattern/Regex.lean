import DocShape.Pattern.Property.Derived

/-!
# Regular expressions

A `Regex` is a set of texts, where an `Edge` may ask what stands next to a place in the text. The
functions that combine expressions leave out what makes no difference: the empty text in a sequence,
repetitions of nothing, and alternatives between single characters, which are one set of characters.
Sequences and alternatives are nested to the right, so that each has one form, and a beginning that
all alternatives share is written once. Expressions that differ in the numbers of their groups or in
greed match the same texts and still are not the same.
-/

namespace DocShape

/-! ### Edges -/

/-- A place in a text: the characters next to it. -/
structure Place where
  /-- The character before, if any. -/
  before : Option Char
  /-- The character behind, if any. -/
  behind : Option Char

/-- Where a place has to be with respect to words. -/
inductive WordEdge where
  /-- At either end of a word. -/
  | atEdge
  /-- Within a word, or away from words. -/
  | noEdge
  | wordStart | wordEnd
  /-- No word character before. -/
  | wordStartHalf
  /-- No word character behind. -/
  | wordEndHalf
  deriving DecidableEq, Repr

/-- A condition on a place between two characters. -/
inductive Edge where
  | textStart | textEnd
  /-- At the start of a line. Lines end with a line feed, or, where `anyBreak` is set, with a
  carriage return, a line feed or both. -/
  | lineStart (anyBreak : Bool)
  /-- At the end of a line. -/
  | lineEnd (anyBreak : Bool)
  /-- With respect to words, which are made of ASCII characters only where `ascii` is set. -/
  | word (edge : WordEdge) (ascii : Bool)
  deriving DecidableEq, Repr

/-- The word characters in ASCII. -/
def Charset.asciiWord : Charset := .ofTable ["30-39 41-5A 5F 61-7A"]

/-- Whether a condition holds between something and something else, of which each is known to be a
word character or not. -/
def WordEdge.holds (before behind : Bool) : WordEdge → Bool
  | .atEdge => before != behind
  | .noEdge => before == behind
  | .wordStart => !before && behind
  | .wordEnd => before && !behind
  | .wordStartHalf => !before
  | .wordEndHalf => !behind

/-- Whether a condition holds at a place. -/
def Edge.holds (p : Place) : Edge → Bool
  | .textStart => p.before.isNone
  | .textEnd => p.behind.isNone
  | .lineStart false => p.before.all (· == '\n')
  | .lineStart true =>
    p.before.all fun c => c == '\n' || (c == '\r' && p.behind != some '\n')
  | .lineEnd false => p.behind.all (· == '\n')
  | .lineEnd true =>
    p.behind.all fun c => c == '\r' || (c == '\n' && p.before != some '\r')
  | .word edge ascii =>
    let isWord (c : Option Char) : Bool :=
      c.any (if ascii then Charset.asciiWord else Charset.word).contains
    edge.holds (isWord p.before) (isWord p.behind)

/-! ### Expressions -/

/-- A regular expression. -/
inductive Regex where
  /-- The empty text. -/
  | empty
  /-- One character of a set. A set of several characters that was read with Unicode switched off is
  marked `ascii`. -/
  | char (set : Charset) (ascii : Bool)
  /-- The empty text, at a place of some kind. -/
  | edge (e : Edge)
  | seq (r s : Regex)
  | alt (r s : Regex)
  /-- A number of matches in a row, with a bound or without, where more of them are tried first if
  it is `greedy`. -/
  | repeated (r : Regex) (least : Nat) (most : Option Nat) (greedy : Bool)
  /-- What the expression matches, in a group that can be referred to by its number. -/
  | group (number : Nat) (r : Regex)
  deriving DecidableEq, Repr

namespace Regex

/-- One character of a set. -/
def ofSet (set : Charset) (ascii : Bool) : Regex :=
  .char set (ascii && !set.isEmpty && set.single?.isNone)

/-- Two expressions in a row. -/
def followedBy : Regex → Regex → Regex
  | .empty, s => s
  | .seq r r', s => .seq r (r'.followedBy s)
  | r, .empty => r
  | r, s => .seq r s

/-- Some expressions in a row. -/
def inRow (rs : List Regex) : Regex := rs.foldr followedBy .empty

/-- Whether an expression is one that can match the empty text only. -/
def onlyEmpty : Regex → Bool
  | .empty => true
  | .char _ _ => false
  | .edge _ => true
  | .seq r s => r.onlyEmpty && s.onlyEmpty
  | .alt r s => r.onlyEmpty && s.onlyEmpty
  | .repeated r _ _ _ => r.onlyEmpty
  | .group _ r => r.onlyEmpty

/-- The repetition of an expression. What only matches the empty text is not repeated. -/
def times (r : Regex) (least : Nat) (most : Option Nat) (greedy : Bool) : Regex :=
  let (least, most) := if r.onlyEmpty then (min least 1, some ((most.map (min 1)).getD 1))
    else (least, most)
  if most = some 0 then .empty
  else if least = 1 ∧ most = some 1 then r
  else .repeated r least most greedy

/-! ### Alternatives -/

/-- The alternatives that an expression consists of. -/
def branches : Regex → List Regex
  | .alt r s => r.branches ++ s.branches
  | r => [r]

/-- The set of an expression for one character. -/
def set? : Regex → Option Charset
  | .char set _ => some set
  | _ => none

/-- Whether an expression stands for one given character. -/
def isLetter (r : Regex) : Bool := r.set?.any (·.single?.isSome)

/-- The expressions that make up a sequence. -/
def factors : Regex → List Regex
  | .empty => []
  | .seq r s => r.factors ++ s.factors
  | r => [r]

/-- The pieces of a sequence: the words in it, each a row of letters, and what stands between them.
-/
def pieces (r : Regex) : List (List Regex) :=
  r.factors.splitBy fun a b => a.isLetter && b.isLetter

/-- The beginning that two lists share. -/
def sharedFront {α : Type} [DecidableEq α] : List α → List α → List α
  | a :: as, b :: bs => if a = b then a :: sharedFront as bs else []
  | _, _ => []

/-- The pieces with which all of some sequences begin. An expression of a single piece is no
sequence and shares nothing. -/
def sharedPieces (sequences : List (List (List Regex))) : List (List Regex) :=
  if sequences.any (·.length ≤ 1) then []
  else
    match sequences with
    | [] => []
    | first :: rest => rest.foldl sharedFront first

/-- The alternative between expressions of which none is an alternative itself. -/
def alternatives : List Regex → Regex
  | [] => .char .empty false
  | [r] => r
  | r :: rs => .alt r (alternatives rs)

/-- The alternative between some expressions, which is one set if they are letters, or if they are
other sets. -/
def together (rs : List Regex) : Regex :=
  let rs := rs.flatMap branches
  match rs.mapM set? with
  | some sets =>
    let letters := rs.filter isLetter
    if letters.isEmpty || letters.length = rs.length then .char (.unions sets) false
    else alternatives rs
  | none => alternatives rs

/-- The alternative between some expressions. What sequences begin with in common stands in front of
it. What then remains has no beginning in common any more, as the pieces taken out are all that are
shared. -/
def anyOf (rs : List Regex) : Regex :=
  let rs := rs.flatMap branches
  let sequences := rs.map pieces
  match rs, sharedPieces sequences with
  | [r], _ => r
  | _, [] => together rs
  | _, shared =>
    let rests := sequences.map fun ps => inRow (ps.drop shared.length).flatten
    inRow (shared.flatten ++ [together rests])

end Regex

end DocShape
