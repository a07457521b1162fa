/-!
# The size of an automaton

A `Size` counts the states of an automaton and the bytes that they take. A state takes thirty-two,
and more where it has several ways to go on.
-/

namespace DocShape

/-- A number of states, and the memory that they take. -/
structure Size where
  states : Nat := 0
  bytes : Nat := 0
  deriving DecidableEq, Repr

namespace Size

instance : Add Size := ⟨fun s t => ⟨s.states + t.states, s.bytes + t.bytes⟩⟩

/-- Some states with one way to go on each. -/
def plain (states : Nat) : Size := ⟨states, 32 * states⟩

/-- A state that tells some byte ranges apart. -/
def branching (ranges : Nat) : Size := ⟨1, 32 + 8 * ranges⟩

/-- A state that goes on in some ways without a byte. -/
def union (ways : Nat) : Size := ⟨1, 32 + 4 * ways⟩

/-- Several times a size. -/
def times (n : Nat) (s : Size) : Size := ⟨n * s.states, n * s.bytes⟩

/-- The size of several parts. -/
def sum (sizes : List Size) : Size := sizes.foldl (· + ·) {}

end Size

end DocShape
