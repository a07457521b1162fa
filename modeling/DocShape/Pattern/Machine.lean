import DocShape.Pattern.Regex

/-!
# Searching a text

A `Machine` is a regular expression as instructions with addresses. The search follows all ways
through them at once: at every place of the text it knows the instructions that wait for a
character, none of them twice, so that it takes at most as many steps at a place as there are
instructions.
-/

namespace DocShape

/-- One step of a search. -/
inductive Instruction where
  /-- Takes a character of a set and goes on elsewhere. -/
  | take (set : Charset) (next : Nat)
  /-- Goes on elsewhere if a condition holds. -/
  | ask (edge : Edge) (next : Nat)
  /-- Goes on in two ways. -/
  | fork (first second : Nat)
  /-- Ends the search. -/
  | accept
  deriving DecidableEq, Repr

/-- Instructions, and the address of the first one. -/
structure Machine where
  code : Array Instruction
  start : Nat
  deriving DecidableEq, Repr

namespace Machine

/-! ### From an expression to instructions -/

/-- Adds an instruction in front of the code from `m.start` on. -/
def before (m : Machine) (instruction : Nat → Instruction) : Machine :=
  let ⟨code, next⟩ := m
  let address := code.size
  ⟨code.push (instruction next), address⟩

/-- Puts an expression in front of the code from `m.start` on. -/
def prepend (r : Regex) (m : Machine) : Machine :=
  match r with
  | .empty => m
  | .char set _ => m.before (.take set)
  | .edge e => m.before (.ask e)
  | .seq r s => prepend r (prepend s m)
  | .alt r s =>
    let next := m.start
    let m := prepend s m
    let second := m.start
    (prepend r ⟨m.code, next⟩).before fun first => .fork first second
  | .repeated r least none _ =>
    -- The fork at the head of the loop is put in when the address of the body is known.
    let ⟨code, next⟩ := m
    let head := code.size
    let ⟨code, body⟩ := prepend r ⟨code.push .accept, head⟩
    Nat.repeat (prepend r) least ⟨code.setIfInBounds head (.fork body next), head⟩
  | .repeated r least (some most) _ =>
    let next := m.start
    let optional (m : Machine) : Machine := (prepend r m).before fun first => .fork first next
    Nat.repeat (prepend r) least (Nat.repeat optional (most - least) m)
  | .group _ r => prepend r m

/-- The machine of an expression. -/
def ofRegex (r : Regex) : Machine := prepend r ⟨#[.accept], 0⟩

/-! ### Running -/

/-- The sets that the search waits for, each with the address behind it. -/
abbrev Waiting := List (Charset × Nat)

/-- What the search has found at a place: `none` if it has come to its end, and otherwise what it
waits for. The marks are given back, too. -/
abbrev Found := Array Nat × Option Waiting

/-- Follows the code from some addresses as far as it takes no character. An address with the mark
`step` has been followed at this place. -/
def follow (code : Array Instruction) (p : Place) (step : Nat) (fuel : Nat) (todo : List Nat)
    (marks : Array Nat) (waiting : Waiting) : Found :=
  match fuel, todo with
  | 0, _ | _, [] => (marks, some waiting)
  | fuel + 1, address :: todo =>
    if marks.getD address 0 == step then follow code p step fuel todo marks waiting
    else
      let marks := marks.setIfInBounds address step
      match code[address]? with
      | some (.take set next) => follow code p step fuel todo marks ((set, next) :: waiting)
      | some (.ask e next) =>
        follow code p step fuel (if e.holds p then next :: todo else todo) marks waiting
      | some (.fork first second) =>
        follow code p step fuel (first :: second :: todo) marks waiting
      | some .accept => (marks, none)
      | none => follow code p step fuel todo marks waiting

/-- Whether there is a match in the rest of a text, or one that began before and goes on at one of
some addresses. Every address is followed once and leads to at most two others, which bounds the
steps at a place. -/
def search (m : Machine) (step : Nat) (todo : List Nat) (marks : Array Nat) (before : Option Char)
    (text : List Char) : Bool :=
  let fuel := todo.length + 2 * m.code.size + 2
  match follow m.code ⟨before, text.head?⟩ step fuel (m.start :: todo) marks [] with
  | (_, none) => true
  | (marks, some waiting) =>
    match text with
    | [] => false
    | c :: text =>
      let todo := waiting.filterMap fun (set, next) => if set.contains c then some next else none
      search m (step + 1) todo marks (some c) text

/-- Whether a machine finds a match somewhere in a text. -/
def finds (m : Machine) (text : String) : Bool :=
  m.search 1 [] (Array.replicate m.code.size 0) none text.toList

end Machine

end DocShape
