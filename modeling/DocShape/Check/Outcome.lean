import DocShape.Schema.Basic
import DocShape.Check.Scope
import DocShape.Editor.DocLookup

/-!
# What a check gives back, and what it is given

A check takes a schema, a scope and a node, and gives an `Outcome`: the node with its slots filled,
and a `Log` of what was found. It may look things up in an `Environment`. The check of a compound
schema is written against a `Run`, the check of everything further inside.

A schema describes itself by a check of a null node that stands nowhere, one scope aside
(`Check.describe`): what is then expected of that node is the description, and what is found is
dropped.
-/

namespace DocShape

/-- The result of a check. -/
structure Outcome where
  /-- The node with its slots filled. -/
  node : Node
  /-- What was found. -/
  log : Log

/-- The result of asking a schema to describe itself. -/
structure Description where
  /-- What the schema expects, if it says so. -/
  expected : Option (List Expectation)
  /-- The log of describing, without findings. -/
  log : Log

/-- A check of everything further inside. -/
abbrev Run (ε : Type) := Schema ε → Scope → Node → Outcome

/-- The custom checks of a type: each is handed the checks of its parts. -/
class CustomCheck (ε : Type) where
  /-- Runs a custom check in a scope on a node. -/
  run : ε → Settings → List (Scope → Node → Outcome) → Scope → Node → Outcome

instance : CustomCheck Empty := ⟨fun e => e.elim⟩

/-- What checks can look up. -/
structure Environment (ε : Type) where
  /-- The schemas that are registered, by name. -/
  schemas : Table (Schema ε) := ⟨[]⟩
  /-- The documentation shown in hovers. -/
  documentation : DocLookup := fun _ => none
  /-- The settings. -/
  settings : Settings := {}

/-- The result with something else in the log first. -/
def Outcome.after (log : Log) (o : Outcome) : Outcome := { o with log := log ++ o.log }

namespace Check

variable {ε : Type}

/-- The node that schemas describe themselves on. -/
def nowhere : Node := Node.null ⟨0, 0⟩

/-- What a schema says of itself. -/
def describe (run : Run ε) (s : Schema ε) (sc : Scope) : Description :=
  let o := run s sc.aside nowhere
  ⟨o.node.expectation, o.log.silenced⟩

/-- What a schema says of itself where parts are still described, and nothing elsewhere. -/
def describePart (run : Run ε) (settings : Settings) (s : Schema ε) (sc : Scope) : Description :=
  if sc.Describes settings then describe run s sc else ⟨none, {}⟩

end Check

end DocShape
