import DocShape.Check.Outcome
import DocShape.Pattern.Engine
import DocShape.Written.TaggedNumber

/-!
# Custom checks in stock

Small custom checks from which larger ones are put together, for trying schemas out: reporting and
expecting something fixed, showing the scope, and running parts aside, elsewhere or in a row. What
else is needed to read a schema in and to hand its results over comes along: an engine for patterns,
and a form for numbers.
-/

namespace DocShape

/-- A custom check in stock. -/
inductive Action where
  /-- Does nothing. -/
  | silent
  /-- Shows the scope, as the name of a schema that nobody has registered. -/
  | trace
  /-- Reports a cause. -/
  | report (cause : Cause)
  /-- Expects something. -/
  | expect (expected : List Expectation)
  /-- Runs its parts in a row, one scope aside and without their findings. -/
  | aside
  /-- Runs its parts in a row, a segment further down the documentation path. -/
  | descend (segment : String)
  /-- Runs its parts in a row. -/
  | sequence

namespace Action

/-- A scope in words. -/
def showScope (settings : Settings) (sc : Scope) : String :=
  "path=" ++ sc.path ++ " depth=" ++ toString sc.depth ++ " allows="
    ++ (if sc.Describes settings then "true" else "false")

/-- Runs checks in a row on one node. -/
def runAll (sc : Scope) : List (Scope → Node → Outcome) → Node → Outcome
  | [], t => ⟨t, {}⟩
  | run :: rest, t =>
    let o := run sc t
    (runAll sc rest o.node).after o.log

/-- Runs an action. -/
def run (settings : Settings) (parts : List (Scope → Node → Outcome)) (sc : Scope) (t : Node) :
    Action → Outcome
  | .silent => ⟨t, {}⟩
  | .trace => ⟨t, .report (.unresolvedReference (showScope settings sc)) t.span⟩
  | .report cause => ⟨t, .report cause t.span⟩
  | .expect expected => ⟨t.expecting expected, {}⟩
  | .aside =>
    let o := runAll sc.aside parts t
    { o with log := o.log.silenced }
  | .descend segment => runAll (sc.descend segment) parts t
  | .sequence => runAll sc parts t

instance : CustomCheck Action := ⟨fun action settings parts sc t => action.run settings parts sc t⟩

end Action

end DocShape
