import DocShape.Tree.Basic

/-!
# Paths into a tree

A `Path` names a node by the way down to it from the root. `Node.find?` follows it, and
`Node.modifyAt` changes the node at its end and leaves everything else as it is.
-/

namespace DocShape

/-- One step down. -/
inductive Path.Step where
  /-- To the value of the first member with a key. -/
  | key (text : String)
  /-- To an item of an array, counted from zero. -/
  | index (i : Nat)
  /-- To the value of a member, counted from zero, whatever its key. -/
  | member (i : Nat)
  deriving DecidableEq, Repr

/-- A way down from a node. -/
abbrev Path := List Path.Step

namespace Node

/-- The node one step down. -/
def child? (t : Node) : Path.Step → Option Node
  | .key text => t.value? text
  | .index i => t.items?.bind (·[i]?)
  | .member i => (t.members?.bind (·[i]?)).bind (·.value)

/-- The node at the end of a path, if it leads anywhere. -/
def find? (t : Node) : Path → Option Node
  | [] => some t
  | step :: path => (t.child? step).bind (·.find? path)

/-- Changes the value of the first member with a key. -/
def modifyUnder (f : Node → Node) (key : String) : List (Member Node) → List (Member Node)
  | [] => []
  | m :: ms =>
    if m.Named key then { m with value := m.value.map f } :: ms
    else m :: modifyUnder f key ms

/-- Changes the node one step down, if there is one. -/
def modifyChild (f : Node → Node) (t : Node) : Path.Step → Node
  | .key text =>
    match t.body with
    | .object members => { t with body := .object (modifyUnder f text members) }
    | _ => t
  | .index i =>
    match t.body with
    | .array items => { t with body := .array (items.modify i f) }
    | _ => t
  | .member i =>
    match t.body with
    | .object members =>
      { t with body := .object (members.modify i fun m => { m with value := m.value.map f }) }
    | _ => t

/-- Changes the node at the end of a path; a path that leads nowhere changes nothing. -/
def modifyAt (f : Node → Node) : Path → Node → Node
  | [], t => f t
  | step :: path, t => t.modifyChild (modifyAt f path) step

/-- The key of an object's member, counted from zero. -/
def memberKey? (t : Node) (i : Nat) : Option Key :=
  (t.members?.bind (·[i]?)).bind (·.key)

/-- Shows something over the key of an object's member; without such a key nothing changes. -/
def setHover (t : Node) (i : Nat) (hover : String) : Node :=
  match t.body with
  | .object members =>
    { t with body := .object (members.modify i fun m =>
        { m with key := m.key.map ({ · with hover := some hover }) }) }
  | _ => t

end Node

end DocShape
