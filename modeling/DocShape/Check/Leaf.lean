import DocShape.Check.Outcome

/-!
# Checking scalars and strings

A leaf says what it expects of any node, and finds at most one fault. A node of the wrong kind is
one; for strings, so is a text that fails the leaf's test.
-/

namespace DocShape.Check

/-- A finding about the kind of a node, if it is not the one asked for. -/
def kindLog (kind : Kind) (t : Node) : Log :=
  if t.kind = kind then {} else .report (.wrongKind kind.name t) t.span

/-- A scalar of some kind. -/
def checkScalar (s : Scalar) (t : Node) : Outcome :=
  ⟨t.expecting [s.expectation], kindLog s.kind t⟩

/-- A string that passes a test; one that fails it has a cause. -/
def textLog (fault? : String → Option Cause) (t : Node) : Log :=
  match t.text? with
  | none => .report (.wrongKind Kind.string.name t) t.span
  | some text => (fault? text).elim {} (.report · t.span)

/-- A string from a closed set. -/
def checkPool (pool : List String) (t : Node) : Outcome :=
  ⟨t.expecting [{ Expectation.string with pool := some pool }],
    textLog (fun text => if pool.contains text then none else some (.unexpectedValue text pool)) t⟩

/-- A string that matches a pattern. -/
def checkPattern (p : Pattern) (t : Node) : Outcome :=
  ⟨t.expecting [.string],
    textLog (fun text => if p.accepts text then none else some (.patternMismatch text p.source)) t⟩

end DocShape.Check
