import DocShape.Pattern.Syntax.Escape

/-!
# Classes of characters in brackets

A class lists characters, ranges, escapes, named sets and further classes, and may take away or
intersect what it has listed so far. A bracket or dashes right at its beginning stand for
themselves, as does a dash right before its end. A class is given with its height, the number of
levels on which it has brackets, combinations and lists of more than one item.
-/

namespace DocShape.Regex.Reader

/-! ### Combining sets -/

/-- How two parts of a class are combined. -/
inductive SetOp where
  | inter | diff | symmDiff

/-- The combination of two sets. -/
def SetOp.apply : SetOp → Charset → Charset → Charset
  | .inter => .inter
  | .diff => .diff
  | .symmDiff => .symmDiff

/-- A set with its height. -/
structure SetPart where
  set : Charset
  height : Nat := 0

/-- A part of a class: what has been combined so far, and the list that is being read. -/
structure ClassState where
  /-- The combination so far, and how the list will join it. -/
  pending : Option (SetPart × SetOp) := none
  /-- The items of the list, the last one first. -/
  items : List SetPart := []

/-- The union of a list of items. -/
def SetPart.union (items : List SetPart) : SetPart where
  set := .unions (items.map SetPart.set)
  height :=
    let height := (items.map SetPart.height).foldl max 0
    if items.length ≤ 1 then height else height + 1

/-- The class so far. -/
def ClassState.close (flags : Flags) (s : ClassState) : SetPart :=
  let items := SetPart.union s.items
  let right := { items with set := flags.cased items.set }
  match s.pending with
  | some (left, op) => ⟨op.apply left.set right.set, max left.height right.height + 1⟩
  | none => right

/-- One more item in the list. -/
def ClassState.add (s : ClassState) (item : SetPart) : ClassState :=
  { s with items := item :: s.items }

/-- Ends the list, to be combined with the next one. -/
def ClassState.combine (flags : Flags) (op : SetOp) (s : ClassState) : ClassState :=
  { pending := some (s.close flags, op) }

/-! ### Items -/

/-- The sets of ASCII characters that have a name. -/
def asciiSet? : String → Option Charset
  | "alnum" => some (.ofTable ["30-39 41-5A 61-7A"])
  | "alpha" => some (.ofTable ["41-5A 61-7A"])
  | "ascii" => some (.range 0 0x7F)
  | "blank" => some (.ofTable ["9 20"])
  | "cntrl" => some (.ofTable ["0-1F 7F"])
  | "digit" => some (.ofTable ["30-39"])
  | "graph" => some (.ofTable ["21-7E"])
  | "lower" => some (.ofTable ["61-7A"])
  | "print" => some (.ofTable ["20-7E"])
  | "punct" => some (.ofTable ["21-2F 3A-40 5B-60 7B-7E"])
  | "space" => some (.ofTable ["9-D 20"])
  | "upper" => some (.ofTable ["41-5A"])
  | "word" => some .asciiWord
  | "xdigit" => some (.ofTable ["30-39 41-46 61-66"])
  | _ => none

/-- A class of ASCII characters by name, as in `[:alpha:]`, behind its first bracket: the set,
whether it is negated, and what follows. -/
def namedClass? (cs : List Char) : Option (Charset × Bool × List Char) :=
  match cs with
  | ':' :: cs =>
    let (negated, cs) := match cs with
      | '^' :: rest => (true, rest)
      | _ => (false, cs)
    match cs.span (· != ':') with
    | (name, ':' :: ']' :: rest) => (asciiSet? (String.ofList name)).map (·, negated, rest)
    | _ => none
  | _ => none

/-- One end of a range, or an item that stands alone. -/
def classItem? (flags : Flags) (cs : List Char) : Option (Escape × List Char) :=
  match cs with
  | '\\' :: rest => escape? flags rest
  | c :: rest => some (.char c false, rest)
  | [] => none

/-- The set of an item that stands alone. -/
def itemSet? (flags : Flags) : Escape → Option Charset
  | .char c _ => (flags.member? c).map fun n => .range n n
  | .set s => some s
  | .edge _ => none

/-- The set from one item to another. -/
def rangeSet? (flags : Flags) : Escape → Escape → Option Charset
  | .char low _, .char high _ => do
    let low ← flags.member? low
    let high ← flags.member? high
    if low ≤ high then some (.range low high) else none
  | _, _ => none

/-- An item of a class: a range, a character or a set. -/
def classRange? (flags : Flags) (cs : List Char) : Option (Charset × List Char) := do
  let (first, rest) ← classItem? flags cs
  match flags.skip rest with
  | [] => none
  | '-' :: behind =>
    if flags.peek behind = some ']' ∨ flags.peek behind = some '-' then
      return (← itemSet? flags first, '-' :: behind)
    else
      let (second, rest) ← classItem? flags (flags.skip behind)
      return (← rangeSet? flags first second, rest)
  | rest => return (← itemSet? flags first, rest)

/-- The dashes at the beginning of a class, or a bracket there, stand for themselves. -/
def classFront (flags : Flags) (s : ClassState) (fuel : Nat) (cs : List Char) :
    ClassState × List Char :=
  match fuel, flags.skip cs with
  | fuel + 1, '-' :: cs => classFront flags (s.add ⟨.char '-', 0⟩) fuel cs
  | _, ']' :: cs => if s.items.isEmpty then (s.add ⟨.char ']', 0⟩, cs) else (s, ']' :: cs)
  | _, cs => (s, cs)

/-! ### Classes -/

mutual

/-- A class behind its opening bracket, and what follows it. -/
def class? (fuel : Nat) (flags : Flags) (cs : List Char) : Option (SetPart × List Char) :=
  match fuel with
  | 0 => none
  | fuel + 1 =>
    let (negated, cs) := match flags.skip cs with
      | '^' :: rest => (true, rest)
      | cs => (false, cs)
    let (s, cs) := classFront flags {} cs.length cs
    match classRest? fuel flags s cs with
    | some (part, rest) =>
      (flags.signed? negated part.set).map fun set => (⟨set, part.height + 1⟩, rest)
    | none => none

/-- The rest of a class up to its closing bracket, and what follows it. -/
def classRest? (fuel : Nat) (flags : Flags) (s : ClassState) (cs : List Char) :
    Option (SetPart × List Char) :=
  match fuel with
  | 0 => none
  | fuel + 1 =>
    match flags.skip cs with
    | [] => none
    | ']' :: rest => some (s.close flags, rest)
    | '&' :: '&' :: rest => classRest? fuel flags (s.combine flags .inter) rest
    | '-' :: '-' :: rest => classRest? fuel flags (s.combine flags .diff) rest
    | '~' :: '~' :: rest => classRest? fuel flags (s.combine flags .symmDiff) rest
    | '[' :: rest =>
      match namedClass? rest with
      | some (set, negated, rest) =>
        match flags.signed? negated (flags.cased set) with
        | some set => classRest? fuel flags (s.add ⟨set, 0⟩) rest
        | none => none
      | none =>
        match class? fuel flags rest with
        | some (part, rest) => classRest? fuel flags (s.add part) rest
        | none => none
    | cs =>
      match classRange? flags cs with
      | some (set, rest) => classRest? fuel flags (s.add ⟨set, 0⟩) rest
      | none => none

end

end DocShape.Regex.Reader
