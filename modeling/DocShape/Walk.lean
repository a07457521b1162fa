import DocShape.Setup

/-!
# Walking through scopes by hand

A `Walk` is a scope and a target for reports, moved step by step. It shows what a custom check may
do with what it is handed: go down the documentation path, step aside, send its findings to another
target, and report.
-/

namespace DocShape

/-- Where findings go. -/
inductive Target where
  /-- To the report of the run. -/
  | main
  /-- To a second report. -/
  | side
  /-- Nowhere. -/
  | dropped
  deriving DecidableEq, Repr

/-- A scope on the move, and what has been reported on the way. -/
structure Walk where
  /-- The scope now. -/
  scope : Scope
  /-- Where findings go now. -/
  target : Target := .main
  /-- The report of the run. -/
  main : Report := []
  /-- The second report. -/
  side : Report := []

/-- A step of a walk. -/
inductive Walk.Step where
  /-- Down the documentation path. -/
  | descend (segment : String)
  /-- To another documentation path. -/
  | withPath (path : String)
  /-- Aside, where findings are dropped. -/
  | aside
  /-- To the second report. -/
  | toSide
  /-- Back to the start of a run on some documentation path. -/
  | restart (path : String)
  /-- Reports a finding. -/
  | report (finding : Finding)

/-- Takes a step, reporting in the words of a phrasebook. -/
def Walk.step (book : Phrasebook) (w : Walk) : Walk.Step → Walk
  | .descend segment => { w with scope := w.scope.descend segment }
  | .withPath path => { w with scope := w.scope.withPath path }
  | .aside => { w with scope := w.scope.aside, target := .dropped }
  | .toSide => { w with target := .side }
  | .restart path => { w with scope := { path := path }, target := .main }
  | .report finding =>
    match w.target with
    | .main => { w with main := w.main ++ [finding.render book] }
    | .side => { w with side := w.side ++ [finding.render book] }
    | .dropped => w

end DocShape
