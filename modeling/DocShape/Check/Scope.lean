import DocShape.Editor.Settings

/-!
# Scopes

A check takes place in a `Scope`: the documentation path it has come along, and the number of times
it has stepped aside from the document to describe a schema. Only the second says how much is still
described.
-/

namespace DocShape

/-- Where a check takes place. -/
structure Scope where
  /-- The documentation path, dotted. -/
  path : String := ""
  /-- How many descriptions the check is part of. -/
  depth : Nat := 0
  deriving DecidableEq, Repr

namespace Scope

/-- The scope of a part, one segment further down the path. -/
def descend (sc : Scope) (segment : String) : Scope :=
  { sc with path := if sc.path.isEmpty then segment else sc.path ++ "." ++ segment }

/-- The same scope with another path. -/
def withPath (sc : Scope) (path : String) : Scope := { sc with path := path }

/-- The scope in which a schema describes itself. -/
def aside (sc : Scope) : Scope := { sc with depth := sc.depth + 1 }

/-- Whether parts are still described here. -/
def Describes (sc : Scope) (s : Settings) : Prop := (sc.depth : Int) ≤ s.expectationDepth

instance (sc : Scope) (s : Settings) : Decidable (sc.Describes s) :=
  inferInstanceAs (Decidable (_ ≤ _))

end Scope

end DocShape
