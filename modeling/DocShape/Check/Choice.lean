import DocShape.Check.Outcome

/-!
# Checking what another schema decides

A reference is checked as the schema that is registered under its name, and a selection as the
schema that is chosen for the node. A name that nobody has registered is a fault of the node it is
used on.
-/

namespace DocShape.Check

variable {ε : Type}

/-- Whatever fits a registered schema. -/
def checkNamed (env : Environment ε) (run : Run ε) (name : String) (sc : Scope) (t : Node) :
    Outcome :=
  match env.schemas.get? name with
  | some s => run s sc t
  | none => ⟨t, .report (.unresolvedReference name) t.span⟩

/-- Whatever fits the schema that is selected. -/
def checkSelected (run : Run ε) (selector : Selector (Schema ε)) (value : Option String)
    (sc : Scope) (t : Node) : Outcome :=
  let chosen := selector.choose Schema.record t value
  (run chosen.1 sc t).after chosen.2

/-- An object whose schema is selected by the text under a key. -/
def checkSwitch (run : Run ε) (key : String) (selector : Selector (Schema ε)) (sc : Scope)
    (t : Node) : Outcome :=
  match t.members? with
  | some _ => checkSelected run selector (t.textUnder? key) sc t
  | none => ⟨t.expecting [.object], .report (.wrongKind Kind.object.name t) t.span⟩

end DocShape.Check
