import DocShape.Pattern.Footprint
import DocShape.Pattern.Syntax.Bracket

/-!
# The syntax of regular expressions

`Regex.read?` takes a whole text: alternatives of sequences of characters, classes, groups and
edges, each of which may be repeated. There is no looking ahead or behind, and there are no
references back to a group. An expression whose parts are nested too deeply is refused, and so is
one that takes too much memory.
-/

namespace DocShape.Regex

namespace Reader

/-! ### Parts -/

/-- An expression with its height, the number of levels on which it has groups, repetitions,
brackets, sequences and alternatives. -/
structure Part where
  regex : Regex
  height : Nat := 0

/-- The greatest height of some parts, and one more level if there are several. -/
def Part.heightOf (parts : List Part) : Nat :=
  let height := (parts.map Part.height).foldl max 0
  if parts.length ≤ 1 then height else height + 1

/-- Some parts in a row, given with the last one first. -/
def Part.inSequence (parts : List Part) : Part where
  regex := inRow (parts.reverse.map Part.regex)
  height := heightOf parts

/-- Some parts of which one has to match, given with the last one first. -/
def Part.inAlternation (parts : List Part) : Part where
  regex := anyOf (parts.reverse.map Part.regex)
  height := heightOf parts

/-! ### Repetition -/

/-- Whether a repetition is greedy, by the mark that may follow it, and what comes behind. -/
def greed (flags : Flags) : List Char → Bool × List Char
  | '?' :: rest => (flags.swapGreed, rest)
  | cs => (!flags.swapGreed, cs)

/-- The counts of a repetition behind its opening brace: at least, at most, and what follows. -/
def counts? (flags : Flags) (cs : List Char) : Option (Nat × Option Nat × List Char) := do
  let (least, rest) ← count? flags (flags.skip cs)
  match rest with
  | '\x7d' :: rest => some (least, some least, rest)
  | ',' :: rest =>
    match flags.skip rest with
    | '\x7d' :: rest => some (least, none, rest)
    | rest => do
      let (most, rest) ← count? flags rest
      match rest with
      | '\x7d' :: rest => if least ≤ most then some (least, some most, rest) else none
      | _ => none
  | _ => none

/-- A part that is repeated. -/
def Part.times (p : Part) (least : Nat) (most : Option Nat) (greedy : Bool) : Part :=
  ⟨p.regex.times least most greedy, p.height + 1⟩

/-- The counts of a repetition, and what follows its sign or its closing brace. -/
def repetition? (flags : Flags) : List Char → Option (Nat × Option Nat × List Char)
  | '*' :: rest => some (0, none, rest)
  | '+' :: rest => some (1, none, rest)
  | '?' :: rest => some (0, some 1, rest)
  | '\x7b' :: rest =>
    (counts? flags rest).map fun (least, most, rest) => (least, most, flags.skip rest)
  | _ => none

/-- Whether a repetition begins here. -/
def repeats : List Char → Bool
  | c :: _ => c == '*' || c == '+' || c == '?' || c == '\x7b'
  | [] => false

/-- Applies the repetitions that follow a part. -/
def repetitions? (flags : Flags) (p : Part) (fuel : Nat) (cs : List Char) :
    Option (Part × List Char) :=
  match fuel with
  | 0 => none
  | fuel + 1 =>
    let cs := flags.skip cs
    if repeats cs then
      match repetition? flags cs with
      | some (least, most, rest) =>
        let (greedy, rest) := greed flags rest
        repetitions? flags (p.times least most greedy) fuel rest
      | none => none
    else some (p, cs)

/-! ### Groups -/

/-- What a reader has to remember. -/
structure State where
  /-- The flags in force. -/
  flags : Flags := {}
  /-- The names of groups so far, of which none may come twice. -/
  names : List (List Char) := []
  /-- How many groups to refer to there are so far. -/
  groups : Nat := 0

/-- The state within a group with the next number. -/
def State.enter (st : State) : State := { st with groups := st.groups + 1 }

/-- The state behind a group: what it has set does not count any more, what it has named does. -/
def State.leave (st inner : State) : State :=
  { st with names := inner.names, groups := inner.groups }

/-- Whether a character may stand in the name of a group. -/
def isNameChar (first : Bool) (c : Char) : Bool :=
  c == '_' || Charset.nameLetter.contains c
    || (!first && (c == '.' || c == '[' || c == ']' || Charset.nameNumber.contains c))

/-- The name of a group up to its angle bracket, and what follows. -/
def name? (names : List (List Char)) (cs : List Char) : Option (List Char × List Char) :=
  match cs.span (· != '>') with
  | (c :: name, _ :: rest) =>
    if isNameChar true c && name.all (isNameChar false) && !names.contains (c :: name) then
      some (c :: name, rest)
    else none
  | _ => none

/-- What the beginning of a group, behind its parenthesis, says about it. -/
inductive GroupFront where
  /-- A group with its own flags follows, which may be one to refer to. -/
  | group (referable : Bool) (inner : State) (rest : List Char)
  /-- There is no group, only flags for what follows. -/
  | flags (outer : State) (rest : List Char)

/-- Reads the beginning of a group. -/
def groupFront? (st : State) (cs : List Char) : Option GroupFront :=
  match st.flags.skip cs with
  | '?' :: 'P' :: '<' :: rest | '?' :: '<' :: rest =>
    (name? st.names rest).map fun (name, rest) =>
      .group true { st.enter with names := name :: st.names } rest
  | '?' :: rest =>
    match st.flags.read? true [] rest with
    | some (flags, ':' :: rest) => some (.group false { st with flags := flags } rest)
    | some (flags, ')' :: rest') =>
      if rest.head? = some ')' then none else some (.flags { st with flags := flags } rest')
    | _ => none
  | cs => some (.group true st.enter cs)

/-- A group around a part, with its number if it can be referred to. -/
def Part.grouped (p : Part) (number : Option Nat) : Part :=
  ⟨number.elim p.regex (.group · p.regex), p.height + 1⟩

/-! ### Expressions -/

/-- A part that is neither a group nor a repetition, and what follows. -/
def atom? (flags : Flags) : List Char → Option (Part × List Char)
  | [] => none
  | c :: cs =>
    match c with
    | '.' => flags.dot?.map fun set => (⟨.ofSet set false, 0⟩, cs)
    | '^' => some (⟨.edge flags.lineStart, 0⟩, cs)
    | '$' => some (⟨.edge flags.lineEnd, 0⟩, cs)
    | '[' => (class? (2 * cs.length + 2) flags cs).map fun (part, rest) =>
      (⟨.ofSet part.set flags.ascii, part.height⟩, rest)
    | '\\' => do
      let (e, rest) ← escape? flags cs
      let regex ← match e with
        | .char c byte => (flags.char? c byte).map (.ofSet · flags.ascii)
        | .set s => some (.ofSet s flags.ascii)
        | .edge e => some (.edge e)
      return (⟨regex, 0⟩, rest)
    | '*' | '+' | '?' | '\x7b' => none
    | c => (flags.char? c false).map fun set => (⟨.ofSet set flags.ascii, 0⟩, cs)

mutual

/-- Alternatives up to a closing parenthesis or the end, behind those that have been read, and what
follows. The flags set in one alternative are in force in the next. Groups are read to a number of
levels only. -/
def alternatives? (fuel levels : Nat) (st : State) (done : List Part) (cs : List Char) :
    Option (Part × State × List Char) :=
  match fuel with
  | 0 => none
  | fuel + 1 =>
    match sequence? fuel levels st [] cs with
    | some (p, st, '|' :: rest) => alternatives? fuel levels st (p :: done) rest
    | some (p, st, rest) => some (.inAlternation (p :: done), st, rest)
    | none => none

/-- A sequence up to a bar, a closing parenthesis or the end, behind what has been read of it. -/
def sequence? (fuel levels : Nat) (st : State) (done : List Part) (cs : List Char) :
    Option (Part × State × List Char) :=
  match fuel with
  | 0 => none
  | fuel + 1 =>
    match st.flags.skip cs with
    | [] => some (.inSequence done, st, [])
    | '|' :: rest => some (.inSequence done, st, '|' :: rest)
    | ')' :: rest => some (.inSequence done, st, ')' :: rest)
    | '(' :: rest =>
      match levels, groupFront? st rest with
      | _, some (.flags st rest) => sequence? fuel levels st (⟨.empty, 0⟩ :: done) rest
      | levels + 1, some (.group referable inner rest) =>
        match alternatives? fuel levels inner [] rest with
        | some (p, inner, ')' :: rest) =>
          let number := if referable then some (st.groups + 1) else none
          match repetitions? st.flags (p.grouped number) (rest.length + 1) rest with
          | some (p, rest) => sequence? fuel (levels + 1) (st.leave inner) (p :: done) rest
          | none => none
        | _ => none
      | _, _ => none
    | cs =>
      match atom? st.flags cs with
      | none => none
      | some (p, rest) =>
        match repetitions? st.flags p (rest.length + 1) rest with
        | some (p, rest) => sequence? fuel levels st (p :: done) rest
        | none => none

end

end Reader

/-- How high an expression may be. -/
def heightLimit : Nat := 250

/-- The expression written by a whole text. Between two calls of the reader that spend fuel there is
at least every second time a character that is used up. -/
def read? (text : String) : Option Regex :=
  let cs := text.toList
  match Reader.alternatives? (3 * cs.length + 3) heightLimit {} [] cs with
  | some (p, _, []) =>
    if p.height ≤ heightLimit && (Footprint.ofRegex p.regex).fits then some p.regex else none
  | _ => none

end DocShape.Regex
