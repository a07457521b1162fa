import DocShape.Check.Outcome

/-!
# Custom checks that choose

A `Chooser` is a custom check that runs one of its parts. Which one it is may hang on everything
that the node holds, but not on its slots and not on the scope. `Choosing` says of a type of custom
checks that it has no others; a type without any custom check is one.
-/

namespace DocShape

/-- A choice among the parts of a custom check. -/
structure Chooser where
  /-- The index of the part for a node with empty slots. -/
  index : Node → Nat

/-- Runs one of some checks; where there is none with that index, anything goes. -/
def Chooser.run (chooser : Chooser) (parts : List (Scope → Node → Outcome)) (sc : Scope)
    (t : Node) : Outcome :=
  match parts[chooser.index t.clear]? with
  | some run => run sc t
  | none => ⟨t.expecting [.any], {}⟩

instance : CustomCheck Chooser := ⟨fun chooser _ parts sc t => chooser.run parts sc t⟩

/-- All custom checks of a type only choose among their parts. -/
class Choosing (ε : Type) [CustomCheck ε] : Prop where
  /-- Every custom check runs as a chooser does. -/
  exists_chooser (custom : ε) : ∃ chooser : Chooser, ∀ settings parts sc t,
    CustomCheck.run custom settings parts sc t = chooser.run parts sc t

instance : Choosing Chooser := ⟨fun chooser => ⟨chooser, fun _ _ _ _ => rfl⟩⟩

instance : Choosing Empty := ⟨fun custom => custom.elim⟩

end DocShape
