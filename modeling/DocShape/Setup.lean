import DocShape.Check.Bounded

/-!
# Setups

A `Setup` is what checks can look up together with the phrasebook that puts findings into words.
`Setup.validate` is a whole run: it empties the slots of a tree and checks it with fuel enough, and
so gives a result that hangs on the tree's content and the schema alone.
-/

namespace DocShape

/-- What checks can look up, and the words for their findings. -/
structure Setup (ε : Type) extends Environment ε where
  /-- The phrasebook. -/
  messages : Phrasebook := .builtin

namespace Setup

variable {ε : Type} [CustomCheck ε]

/-- Checks a node in some scope, whatever its slots hold. -/
def check (u : Setup ε) (s : Schema ε) (sc : Scope) (t : Node) : Outcome :=
  DocShape.check u.toEnvironment (u.budget s sc t) s sc t

/-- Checks a tree from the start, its documentation path beginning with `root`. -/
def validate (u : Setup ε) (s : Schema ε) (root : String) (t : Node) : Outcome :=
  u.check s { path := root } t.clear

/-- What a schema says of itself in some scope. -/
def describe (u : Setup ε) (s : Schema ε) (sc : Scope) : Description :=
  Check.describe u.check s sc

/-- The findings of a log in words. -/
def report (u : Setup ε) (log : Log) : Report := log.findings.map (·.render u.messages)

end Setup

end DocShape
