import DocShape.Setup
import DocShape.Tree.Path
import DocShape.Tree.Cursor

/-!
# Sessions

A `Session` is one tree that lives through a series of operations, and the report that single checks
add to. `Session.run` does one operation and answers it; `Session.runAll` does a series.
-/

namespace DocShape

/-- One tree, and what the checks on it have reported. -/
structure Session where
  /-- The tree, its slots as the operations so far have left them. -/
  tree : Node
  /-- What single checks have reported, in order. -/
  report : Report := []
  /-- How many deferred records the operations so far have asked for. -/
  forced : Nat := 0

/-- What is said about an offset. -/
structure CursorInfo where
  /-- The offset. -/
  offset : Nat
  /-- The innermost node there. -/
  node : Option Node
  /-- What is shown over the key there. -/
  hover : Option String
  /-- What is expected there. -/
  expected : Option (List Expectation)

/-- What is said about an offset of a tree. -/
def Node.cursorInfo (t : Node) (offset : Nat) : CursorInfo where
  offset := offset
  node := t.innermost? offset
  hover := t.hoverUnder? offset
  expected := t.expectedUnder? offset

/-- An operation on a session. -/
inductive Operation (ε : Type) where
  /-- Validates the whole tree, reporting apart from the session's own report. -/
  | validate (schema : Schema ε) (root : String)
  /-- Checks one node, whatever its slots hold, and adds to the session's report. -/
  | check (schema : Schema ε) (root : String) (target : Path)
  /-- Asks a schema to describe itself. -/
  | describe (schema : Schema ε) (root : String)
  /-- Empties the slots at and below a node. -/
  | clear (target : Path)
  /-- Reads a node. -/
  | read (target : Path)
  /-- Fills the slot of a node. -/
  | expect (target : Path) (expected : List Expectation)
  /-- Fills the slot of a member's key. -/
  | show (target : Path) (index : Nat) (hover : String)
  /-- Asks about offsets. -/
  | query (offsets : List Nat)

/-- The answer to an operation. -/
inductive Answer where
  /-- The report of a validation. -/
  | validated (report : Report)
  /-- What a check has reported, and the session's report with it. -/
  | checked (added total : Report)
  /-- What a schema says of itself. -/
  | described (expected : Option (List Expectation))
  /-- The node as it is now. -/
  | node (t : Node)
  /-- The key as it is now, if there is one. -/
  | key (k : Option Key)
  /-- What is said about some offsets. -/
  | cursors (infos : List CursorInfo)
  /-- The path leads nowhere. -/
  | nowhere

namespace Session

variable {ε : Type} [CustomCheck ε]

/-- Changes the node at the end of a path and answers with it. -/
def modify (s : Session) (target : Path) (f : Node → Node) (answer : Node → Answer) :
    Session × Answer :=
  match s.tree.find? target with
  | none => (s, .nowhere)
  | some t => ({ s with tree := s.tree.modifyAt f target }, answer (f t))

/-- Does one operation. -/
def run (u : Setup ε) (s : Session) : Operation ε → Session × Answer
  | .validate schema root =>
    let o := u.validate schema root s.tree
    ({ s with tree := o.node, forced := s.forced + o.log.forced.length },
      .validated (u.report o.log))
  | .check schema root target =>
    match s.tree.find? target with
    | none => (s, .nowhere)
    | some t =>
      let o := u.check schema { path := root } t
      let added := u.report o.log
      ({ tree := s.tree.modifyAt (fun _ => o.node) target, report := s.report ++ added,
         forced := s.forced + o.log.forced.length },
        .checked added (s.report ++ added))
  | .describe schema root =>
    let d := u.describe schema { path := root }
    ({ s with forced := s.forced + d.log.forced.length }, .described d.expected)
  | .clear target => s.modify target Node.clear .node
  | .read target => s.modify target id .node
  | .expect target expected => s.modify target (·.expecting expected) .node
  | .show target index hover =>
    s.modify target (·.setHover index hover) fun t => .key (t.memberKey? index)
  | .query offsets => (s, .cursors (offsets.map s.tree.cursorInfo))

/-- Does some operations in a row. -/
def runAll (u : Setup ε) : Session → List (Operation ε) → Session × List Answer
  | s, [] => (s, [])
  | s, op :: ops =>
    let first := s.run u op
    let rest := runAll u first.1 ops
    (rest.1, first.2 :: rest.2)

end Session

end DocShape
