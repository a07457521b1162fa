import DocShape.Pattern.Footprint.Size
import DocShape.Pattern.Spelling
import Std.Data.HashMap

/-!
# The size of a set of characters

The states that read the characters of a set are added to an automaton one by one. A state that is
there already is not added again, as long as it is remembered: states are remembered in a number of
slots, the slot of a state depends on the states it leads to, and of two states in a slot the
earlier one is forgotten. So the size depends on how many states the automaton has had before.
-/

namespace DocShape

/-! ### Remembering states -/

/-- The remembered states by slot, each known by a key, with its number. -/
abbrev Remembered (κ : Type) := Std.HashMap Nat (κ × Nat)

/-- The number of a state, if it is remembered. -/
def Remembered.recall? {κ : Type} [BEq κ] (r : Remembered κ) (slot : Nat) (key : κ) : Option Nat :=
  r[slot]?.bind fun (other, state) => if other == key then some state else none

/-- The slot of a key that is made of some numbers: they are mixed one after the other. -/
def slotOf (slots : Nat) (numbers : List Nat) : Nat :=
  let mix (h : UInt64) (n : Nat) : UInt64 := (h ^^^ n.toUInt64) * 1099511628211
  (numbers.foldl mix 14695981039346656037).toNat % slots

/-- A size on the way, and the states remembered. -/
structure Growth (κ : Type) where
  size : Size
  known : Remembered κ := ∅

/-- The number of a state with a given key, which is added if it is not remembered. -/
def Growth.stateOf {κ : Type} [BEq κ] (g : Growth κ) (slot : Nat) (key : κ) (size : Size) :
    Nat × Growth κ :=
  match g.known.recall? slot key with
  | some state => (state, g)
  | none =>
    let state := g.size.states
    (state, ⟨g.size + size, g.known.insert slot (key, state)⟩)

/-! ### Reading forward -/

/-- What a state that tells byte ranges apart is known by: its ranges in order, each with the state
that follows. -/
abbrev Ways := List ((Nat × Nat) × Nat)

/-- How many slots there are for states that tell byte ranges apart. -/
def forwardSlots : Nat := 10000

/-- The state that reads some sequences of at most a given length up to their common end. -/
def forwardState (last : Nat) (length : Nat) (g : Growth Ways) (spellings : List ByteRanges) :
    Nat × Growth Ways :=
  match length, spellings with
  | 0, _ | _, [] => (last, g)
  | length + 1, spellings =>
    let groups := spellings.splitBy fun s t => s.head? == t.head?
    let addWay (acc : Ways × Growth Ways) (group : List ByteRanges) : Ways × Growth Ways :=
      match group with
      | (first :: _) :: _ =>
        let rests := (group.map List.tail).filter (!·.isEmpty)
        let (next, g) := forwardState last length acc.2 rests
        ((first, next) :: acc.1, g)
      | _ => acc
    let (ways, g) := groups.foldl addWay ([], g)
    let ways := ways.reverse
    let numbers := ways.flatMap fun ((low, high), next) => [low, high, next]
    g.stateOf (slotOf forwardSlots numbers) ways (.branching ways.length)

/-- Adds a set to an automaton that reads forward. -/
def addForward (size : Size) (spellings : List ByteRanges) : Size :=
  (forwardState size.states 4 { size := size + .plain 1 } spellings).2.size

/-! ### Reading backward -/

/-- How many slots there are for states that read one byte range. -/
def backwardSlots : Nat := 1000

/-- Adds the states for a sequence, of which the last byte is read first, before the state that
follows them all. -/
def backwardStates (next : Nat) (g : Growth (Nat × Nat × Nat)) (s : ByteRanges) :
    Growth (Nat × Nat × Nat) :=
  let addState (acc : Nat × Growth (Nat × Nat × Nat)) (range : Nat × Nat) :=
    let key := (acc.1, range)
    acc.2.stateOf (slotOf backwardSlots [acc.1, range.1, range.2]) key (.plain 1)
  (s.foldl addState (next, g)).2

/-- Adds a set to an automaton that reads backward. -/
def addBackward (size : Size) (spellings : List ByteRanges) : Size :=
  let next := size.states + 1
  let start := size + .union spellings.length + .plain 1
  (spellings.foldl (backwardStates next) { size := start }).size

end DocShape
