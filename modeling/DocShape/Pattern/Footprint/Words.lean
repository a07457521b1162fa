import DocShape.Pattern.Footprint.Size

/-!
# The size of an alternative between words

Words are told apart byte by byte. A word that ends where others go on parts those that were given
before it from those behind, as the earlier ones come first.
-/

namespace DocShape

/-- How often a word ends in front of some words, not counting one that repeats the word right
before it where none goes on yet. -/
def endsAmong (words : List (List Nat)) : Nat :=
  let rest := words.dropWhile List.isEmpty
  (if rest.length = words.length then 0 else 1) + rest.countP List.isEmpty

/-- The states that tell some words apart, which are given as their bytes and in order. There are
none where all words are at their end. -/
def wordStates (length : Nat) (words : List (List Nat)) : Size :=
  match length with
  | 0 => {}
  | length + 1 =>
    if words.all List.isEmpty then {}
    else
      let chunks := (words.splitBy fun v w => v.isEmpty == w.isEmpty).filter
        fun chunk => chunk.any (!·.isEmpty)
      let sizes := chunks.map fun chunk =>
        let firsts := (chunk.filterMap List.head?).eraseDups
        let own := if firsts.length = 1 then .plain 1 else .branching firsts.length
        own + .sum (firsts.map fun b =>
          wordStates length ((chunk.filter (·.head? == some b)).map List.tail))
      .union (chunks.length + endsAmong words) + .sum sizes

/-- The states for an alternative between some words, with the state behind them all. -/
def wordsSize (words : List (List Nat)) : Size :=
  .plain 1 + wordStates ((words.map List.length).foldl max 0 + 1) words

end DocShape
