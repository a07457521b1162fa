import DocShape.Pattern.Footprint.Spelled
import DocShape.Pattern.Footprint.Words
import DocShape.Pattern.Regex

/-!
# What an expression takes

An expression is refused when an automaton for it that reads bytes would take too much memory. There
are two of them, of which one reads a text forward and one backward. A `Plan` says how one of them
is put together, and `Plan.addTo` finds its size; nothing of an automaton is built. A `Footprint`
has the plans of an expression.
-/

namespace DocShape

/-! ### Plans -/

/-- The most memory that an automaton may take: ten mebibytes. -/
def sizeLimit : Nat := 10 * 1024 * 1024

/-- How an automaton is put together. -/
inductive Plan where
  /-- States of a given size, wherever they stand. -/
  | fixed (size : Size)
  /-- The states for a set of characters, whose spellings are made only where they are needed. -/
  | set (spellings : Thunk (List ByteRanges))
  | row (p q : Plan)
  | copies (n : Nat) (p : Plan)

namespace Plan

/-- One plan after the other. Fixed states that meet are taken together. -/
def andThen : Plan → Plan → Plan
  | .fixed s, .fixed t => .fixed (s + t)
  | .fixed s, .row (.fixed t) q => .row (.fixed (s + t)) q
  | .row p (.fixed s), .fixed t => .row p (.fixed (s + t))
  | p, q => .row p q

/-- A number of copies of a plan, or a state that leads on where there is none. -/
def times (n : Nat) (p : Plan) : Plan :=
  if n = 0 then .fixed (.plain 1)
  else
    match p with
    | .fixed s => .fixed (s.times n)
    | p => .copies n p

/-- Some plans in a row. -/
def inRow (plans : List Plan) : Plan := plans.foldr andThen (.fixed {})

/-- Grows a size a number of times, or until it is beyond the limit. -/
def grow (step : Size → Size) (n : Nat) (size : Size) : Size :=
  match n with
  | 0 => size
  | n + 1 => if sizeLimit < size.bytes then size else grow step n (step size)

/-- The size of an automaton when what a plan says is added to it. -/
def addTo (addSet : Size → List ByteRanges → Size) (size : Size) : Plan → Size
  | .fixed s => size + s
  | .set spellings => if sizeLimit < size.bytes then size else addSet size spellings.get
  | .row p q => addTo addSet (addTo addSet size p) q
  | .copies n p => grow (fun size => addTo addSet size p) n size

end Plan

/-! ### Expressions -/

/-- What the size of an expression depends on. -/
structure Footprint where
  /-- The plans of its alternatives for reading forward. -/
  forward : List Plan
  /-- The plans of its alternatives for reading backward. -/
  backward : List Plan
  /-- The words that the expression consists of, if it is made of words. -/
  words : Option (List (List Nat)) := none
  /-- The length of the shortest match, if there is a match at all. -/
  shortest : Option Nat
  /-- Whether every match is at the start of the text, as can be seen from its form. -/
  atStart : Bool := false
  /-- Whether every match is at the end of the text, as can be seen from its form. -/
  atEnd : Bool := false

namespace Footprint

/-- The plan of some alternatives. The state in front of them and the one behind are added when two
of them are there. -/
def choice : List Plan → Plan
  | [] => .fixed {}
  | [p] => p
  | p :: q :: plans =>
    let ends := Size.union (plans.length + 2) + .plain 1
    (p.andThen q).andThen ((Plan.fixed ends).andThen (.inRow plans))

/-- The plan for reading forward. Words are told apart together. -/
def forwardPlan (f : Footprint) : Plan :=
  match f.words with
  | some (v :: w :: words) => .fixed (wordsSize (v :: w :: words))
  | _ => choice f.forward

/-- The plan for reading backward. -/
def backwardPlan (f : Footprint) : Plan :=
  match f.words with
  | some (v :: w :: words) => .fixed (wordsSize ((v :: w :: words).map List.reverse))
  | _ => choice f.backward

/-- A single state that takes no byte. -/
def single : Footprint where
  forward := [.fixed (.plain 1)]
  backward := [.fixed (.plain 1)]
  shortest := some 0

/-- One character of a set. -/
def ofSet (set : Charset) : Footprint :=
  match set.single? with
  | some n =>
    let bytes := codePointBytes n
    let plan := Plan.fixed (.plain bytes.length)
    { forward := [plan], backward := [plan], words := some [bytes],
      shortest := some bytes.length }
  | none =>
    let plan :=
      if set.isAscii then Plan.fixed (.plain 1 + .branching set.ranges.size)
      else .set ⟨fun _ => set.spellings⟩
    { forward := [plan], backward := [plan],
      shortest := set.ranges[0]?.map fun r => (codePointBytes r.low).length }

/-- Two expressions in a row. -/
def seq (onlyEmpty lastOnlyEmpty : Bool) (f g : Footprint) : Footprint where
  forward := [f.forwardPlan.andThen g.forwardPlan]
  backward := [g.backwardPlan.andThen f.backwardPlan]
  words :=
    match f.words, g.words with
    | some [v], some [w] => some [v ++ w]
    | _, _ => none
  shortest := do return (← f.shortest) + (← g.shortest)
  atStart := f.atStart || (onlyEmpty && g.atStart)
  atEnd := g.atEnd || (lastOnlyEmpty && f.atEnd)

/-- Two expressions of which one has to match. -/
def alt (f g : Footprint) : Footprint where
  forward := f.forward ++ g.forward
  backward := f.backward ++ g.backward
  words := do return (← f.words) ++ (← g.words)
  shortest := do return min (← f.shortest) (← g.shortest)
  atStart := f.atStart && g.atStart
  atEnd := f.atEnd && g.atEnd

/-- The plan of a repetition. A loop around what may match the empty text has one more state, and so
has what may be left out. -/
def repeatedPlan (p : Plan) (least : Nat) (most : Option Nat) (takesText : Bool) : Plan :=
  let fork := Plan.fixed (.union 2)
  let last := Plan.fixed (.plain 1)
  match most with
  | none =>
    if 0 < least then (p.times least).andThen fork
    else if takesText then fork.andThen p
    else p.andThen (fork.andThen (fork.andThen last))
  | some most =>
    if least = most then p.times least
    else if least = 0 ∧ most = 1 then fork.andThen (p.andThen last)
    else (p.times least).andThen (last.andThen ((fork.andThen p).times (most - least)))

/-- A repetition. -/
def repeated (f : Footprint) (least : Nat) (most : Option Nat) : Footprint :=
  let takesText := f.shortest.any (0 < ·)
  { forward := [repeatedPlan f.forwardPlan least most takesText]
    backward := [repeatedPlan f.backwardPlan least most takesText]
    shortest := f.shortest.map (least * ·)
    atStart := 0 < least && f.atStart
    atEnd := 0 < least && f.atEnd }

/-- A group, whose ends are noted when the text is read forward. -/
def group (f : Footprint) : Footprint :=
  let ends := Plan.fixed (.plain 1)
  { f with
    forward := [ends.andThen (f.forwardPlan.andThen ends)]
    backward := [f.backwardPlan]
    words := none }

/-- The footprint of an expression. -/
def ofRegex : Regex → Footprint
  | .empty => single
  | .char set _ => ofSet set
  | .edge e => { single with atStart := e = .textStart, atEnd := e = .textEnd }
  | .seq r s => seq r.onlyEmpty s.onlyEmpty (ofRegex r) (ofRegex s)
  | .alt r s => alt (ofRegex r) (ofRegex s)
  | .repeated r least most _ => (ofRegex r).repeated least most
  | .group _ r => (ofRegex r).group

/-- The states for looking for a match from every place on, or from one place only. -/
def searchSize (fixed : Bool) : Size :=
  if fixed then .plain 1 else .union 2 + .plain 1 + .branching 1

/-- How many words are looked up as they are, without an automaton. -/
def manyWords : Nat := 3000

/-- Whether an expression is small enough. The whole match is a group, and one state ends it. An
alternative between many words may have any size. -/
def fits (f : Footprint) : Bool :=
  let forward := f.group.forwardPlan.addTo addForward (searchSize f.atStart) + .plain 1
  let backward := f.backwardPlan.addTo addBackward (searchSize f.atEnd) + .plain 1
  f.words.any (manyWords ≤ ·.length) || (forward.bytes ≤ sizeLimit && backward.bytes ≤ sizeLimit)

end Footprint

end DocShape
