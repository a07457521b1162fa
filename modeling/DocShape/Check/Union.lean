import DocShape.Check.Outcome

/-!
# Checking alternatives

The best of some alternatives is the first without errors, or else the first with the fewest. It is
found by `trials`, each of which runs on the node as the one before has left it. Then the node is
wiped and the best one runs once more (`checkUnion`), so that nothing of a trial stays, except what
it expected, which goes into the union.
-/

namespace DocShape.Check

variable {ε : Type}

/-- Tries alternatives in a row on one node, each on what the one before has left, up to the first
that finds no error. -/
def trials (run : Run ε) (sc : Scope) : List (Schema ε) → Node → List Outcome
  | [], _ => []
  | s :: rest, t =>
    let o := run s sc t
    if o.log.errors = 0 then [o] else o :: trials run sc rest o.node

/-- The index of the first outcome with the fewest errors; the list goes on behind `o`, the outcome
at index `i`, and `best` is the index and number of errors of the best one before it. -/
def fewestFrom (best : Nat × Nat) (i : Nat) : List Outcome → Nat × Nat
  | [] => best
  | o :: rest =>
    fewestFrom (if o.log.errors < best.2 then (i, o.log.errors) else best) (i + 1) rest

/-- The index of the first outcome with the fewest errors, if there is any outcome. -/
def fewest? : List Outcome → Option Nat
  | [] => none
  | o :: rest => some (fewestFrom (0, o.log.errors) 1 rest).1

/-- The node as the last trial left it. -/
def lastNode (t : Node) (tried : List Outcome) : Node := (tried.getLast?.map (·.node)).getD t

/-- What all alternatives expect, in order: the chosen one as it was run last, the others that were
tried as they left the node then, and those that were not tried as they describe themselves. -/
def unionOf (tried : List Outcome) (index : Nat) (chosen : Outcome)
    (untried : List Description) : List Expectation :=
  ((tried.set index chosen).map (·.node.expectation) ++ untried.map (·.expected)).flatMap
    (·.getD [])

/-- The best of some alternatives. It is found by trial; then all that the trials left on the node
is wiped out, and the best alternative runs once more, for good. Without alternatives nothing
happens. -/
def checkUnion (run : Run ε) (alternatives : List (Schema ε)) (sc : Scope) (t : Node) : Outcome :=
  let tried := trials run sc alternatives t
  match fewest? tried with
  | none => ⟨t, {}⟩
  | some index =>
    match alternatives[index]? with
    | none => ⟨t, {}⟩
    | some best =>
      let chosen := run best sc (lastNode t tried).clear
      let untried := (alternatives.drop tried.length).map (describe run · sc)
      ⟨chosen.node.expecting (unionOf tried index chosen untried),
        (Log.join (tried.map (·.log))).silenced ++ chosen.log ++ .join (untried.map (·.log))⟩

end DocShape.Check
