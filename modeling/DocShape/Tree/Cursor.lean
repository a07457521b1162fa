import DocShape.Tree.Basic

/-!
# Asking about an offset

Three questions about a cursor at a byte offset: which node is there, what is shown over the key
there, and what is expected there. All three go down only through nodes whose span covers the
offset, and take the first answer in document order.
-/

namespace DocShape.Node

mutual

/-- The innermost node at an offset: the answer of the first value below that has one, or else the
node itself. -/
def innermost? (offset : Nat) : Node → Option Node
  | ⟨span, expectation, .object members⟩ =>
    if span.Covers offset then
      some ((innermostOfMembers? offset members).getD ⟨span, expectation, .object members⟩)
    else none
  | ⟨span, expectation, .array items⟩ =>
    if span.Covers offset then
      some ((innermostOfItems? offset items).getD ⟨span, expectation, .array items⟩)
    else none
  | t => if t.span.Covers offset then some t else none

/-- The answer of the first item that has one. -/
def innermostOfItems? (offset : Nat) : List Node → Option Node
  | [] => none
  | t :: ts => (t.innermost? offset).or (innermostOfItems? offset ts)

/-- The answer of the first member's value that has one. -/
def innermostOfMembers? (offset : Nat) : List (Member Node) → Option Node
  | [] => none
  | ⟨_, none⟩ :: ms => innermostOfMembers? offset ms
  | ⟨_, some t⟩ :: ms => (t.innermost? offset).or (innermostOfMembers? offset ms)

end

mutual

/-- What is expected at an offset: the answer of the first value below that has one, or else the
node's own slot. -/
def expectedUnder? (offset : Nat) : Node → Option (List Expectation)
  | ⟨span, expectation, .object members⟩ =>
    if span.Covers offset then (expectedUnderMembers? offset members).or expectation else none
  | ⟨span, expectation, .array items⟩ =>
    if span.Covers offset then (expectedUnderItems? offset items).or expectation else none
  | t => if t.span.Covers offset then t.expectation else none

/-- The answer of the first item that has one. -/
def expectedUnderItems? (offset : Nat) : List Node → Option (List Expectation)
  | [] => none
  | t :: ts => (t.expectedUnder? offset).or (expectedUnderItems? offset ts)

/-- The answer of the first member's value that has one. -/
def expectedUnderMembers? (offset : Nat) : List (Member Node) → Option (List Expectation)
  | [] => none
  | ⟨_, none⟩ :: ms => expectedUnderMembers? offset ms
  | ⟨_, some t⟩ :: ms => (t.expectedUnder? offset).or (expectedUnderMembers? offset ms)

end

/-- Whether a member has a key there. -/
def onKey (offset : Nat) (key : Option Key) : Bool :=
  key.any fun k => decide (k.span.Covers offset)

mutual

/-- What is shown over the key at an offset. A member whose key is there answers with that key's
slot and is not searched further; an empty slot leaves the question to the next member. -/
def hoverUnder? (offset : Nat) : Node → Option String
  | ⟨span, _, .object members⟩ =>
    if span.Covers offset then hoverUnderMembers? offset members else none
  | ⟨span, _, .array items⟩ =>
    if span.Covers offset then hoverUnderItems? offset items else none
  | _ => none

/-- The answer of the first item that has one. -/
def hoverUnderItems? (offset : Nat) : List Node → Option String
  | [] => none
  | t :: ts => (t.hoverUnder? offset).or (hoverUnderItems? offset ts)

/-- The answer of the first member that has one. -/
def hoverUnderMembers? (offset : Nat) : List (Member Node) → Option String
  | [] => none
  | ⟨key, none⟩ :: ms =>
    (if onKey offset key then key.bind (·.hover) else none).or (hoverUnderMembers? offset ms)
  | ⟨key, some t⟩ :: ms =>
    (if onKey offset key then key.bind (·.hover) else t.hoverUnder? offset).or
      (hoverUnderMembers? offset ms)

end

end DocShape.Node
