import DocShape.Text.Span
import DocShape.Tree.Number
import DocShape.Tree.Expected

/-!
# Document trees

A document is a tree of `Node`s: objects, arrays and scalars, each with the span it covers in its
source. The tree is made for half-written input, so a member of an object may lack its key, its
value or both, and keys may repeat.

Two slots carry what a check leaves behind for an editor: the `expectation` of a node and the
`hover` of a key. An unfilled slot differs from one filled with nothing. `Node.clear` empties every
slot below and at a node, and touches nothing else.
-/

namespace DocShape

/-- The six kinds of nodes. -/
inductive Kind where
  | object | array | string | number | boolean | null
  deriving DecidableEq, Repr

/-- The name of a kind in messages. -/
def Kind.name : Kind → String
  | .object => "object"
  | .array => "array"
  | .string => "string"
  | .number => "number"
  | .boolean => "boolean"
  | .null => "null"

/-- The key of a member. -/
structure Key where
  /-- The key itself. -/
  text : String
  /-- Where the key stands. -/
  span : Span
  /-- What an editor shows over the key. -/
  hover : Option String := none
  deriving DecidableEq, Repr

/-- One member of an object, as far as it has been written; `ν` is the type of values. -/
structure Member (ν : Type) where
  /-- The key, if there is one yet. -/
  key : Option Key
  /-- The value, if there is one yet. -/
  value : Option ν

/-- What a node holds; `ν` is the type of the nodes below. -/
inductive Body (ν : Type) where
  /-- An object's members in the order they are written, repeated keys included. -/
  | object (members : List (Member ν))
  /-- An array's items. -/
  | array (items : List ν)
  | string (text : String)
  | number (value : Number)
  | boolean (value : Bool)
  | null

/-- A node of a document. -/
structure Node where
  /-- Where the node stands. -/
  span : Span
  /-- What is expected here, once a check has said so. -/
  expectation : Option (List Expectation) := none
  /-- What the node holds. -/
  body : Body Node

/-! ### Members -/

namespace Member

variable {ν : Type}

/-- Whether the member has a key, and it is this one. -/
def Named (m : Member ν) (key : String) : Prop := m.key.map (·.text) = some key

instance (m : Member ν) (key : String) : Decidable (m.Named key) :=
  inferInstanceAs (Decidable (_ = _))

/-- The keys of some members, in order. -/
def keys (members : List (Member ν)) : List String :=
  members.filterMap fun m => m.key.map (·.text)

/-- The value of the first member with a key. A first member without a value hides any later one. -/
def value? (members : List (Member ν)) (key : String) : Option ν :=
  (members.find? fun m => decide (m.Named key)).bind (·.value)

end Member

/-! ### Reading a node -/

namespace Node

/-- The null node at a span. -/
def null (span : Span) : Node := ⟨span, none, .null⟩

/-- The string node at a span. -/
def string (text : String) (span : Span) : Node := ⟨span, none, .string text⟩

/-- The kind of a node. -/
def kind (t : Node) : Kind :=
  match t.body with
  | .object _ => .object
  | .array _ => .array
  | .string _ => .string
  | .number _ => .number
  | .boolean _ => .boolean
  | .null => .null

/-- The members of an object. -/
def members? (t : Node) : Option (List (Member Node)) :=
  match t.body with
  | .object members => some members
  | _ => none

/-- The items of an array. -/
def items? (t : Node) : Option (List Node) :=
  match t.body with
  | .array items => some items
  | _ => none

/-- The text of a string. -/
def text? (t : Node) : Option String :=
  match t.body with
  | .string text => some text
  | _ => none

/-- The value of a number. -/
def number? (t : Node) : Option Number :=
  match t.body with
  | .number value => some value
  | _ => none

/-- The value of a boolean. -/
def boolean? (t : Node) : Option Bool :=
  match t.body with
  | .boolean value => some value
  | _ => none

/-- The value under a key of an object. -/
def value? (t : Node) (key : String) : Option Node :=
  t.members?.bind (Member.value? · key)

/-- The text under a key of an object: its first member with that key has to hold a string. -/
def textUnder? (t : Node) (key : String) : Option String :=
  (t.value? key).bind text?

/-- The labels of what is expected here, in order. -/
def labels (t : Node) : List String :=
  (t.expectation.getD []).map (·.label)

/-- The same node with something else expected. -/
def expecting (t : Node) (expected : List Expectation) : Node :=
  { t with expectation := some expected }

end Node

/-- The key as a string node of its own, for schemas that constrain keys. -/
def Key.toNode (k : Key) : Node := Node.string k.text k.span

/-! ### Emptying the slots -/

/-- The same key with nothing to show over it. -/
def Key.clear (k : Key) : Key := { k with hover := none }

namespace Node

mutual

/-- Empties the slots of a node and of everything below it. -/
def clear : Node → Node
  | ⟨span, _, .object members⟩ => ⟨span, none, .object (clearMembers members)⟩
  | ⟨span, _, .array items⟩ => ⟨span, none, .array (clearItems items)⟩
  | ⟨span, _, body⟩ => ⟨span, none, body⟩

/-- Empties the slots of every item. -/
def clearItems : List Node → List Node
  | [] => []
  | t :: ts => t.clear :: clearItems ts

/-- Empties the slots of every member, with or without key and value. -/
def clearMembers : List (Member Node) → List (Member Node)
  | [] => []
  | ⟨key, none⟩ :: ms => ⟨key.map Key.clear, none⟩ :: clearMembers ms
  | ⟨key, some t⟩ :: ms => ⟨key.map Key.clear, some t.clear⟩ :: clearMembers ms

end

/-- Emptying the slots of a member. -/
def clearMember (m : Member Node) : Member Node := ⟨m.key.map Key.clear, m.value.map clear⟩

/-- Items are emptied one by one. -/
theorem clearItems_eq_map : ∀ items : List Node, clearItems items = items.map clear
  | [] => rfl
  | t :: ts => by rw [clearItems, clearItems_eq_map ts, List.map_cons]

/-- Members are emptied one by one. -/
theorem clearMembers_eq_map :
    ∀ members : List (Member Node), clearMembers members = members.map clearMember
  | [] => rfl
  | ⟨_, none⟩ :: ms => by rw [clearMembers, clearMembers_eq_map ms]; rfl
  | ⟨_, some _⟩ :: ms => by rw [clearMembers, clearMembers_eq_map ms]; rfl

/-! ### Equality -/

mutual

/-- Whether two trees agree in shape, spans, values and slots. Numbers are compared as numbers, so a
tree that holds a NaN does not even equal itself. -/
def same : Node → Node → Bool
  | ⟨span, expectation, .object members⟩, ⟨span', expectation', .object members'⟩ =>
    span == span' && expectation == expectation' && sameMembers members members'
  | ⟨span, expectation, .array items⟩, ⟨span', expectation', .array items'⟩ =>
    span == span' && expectation == expectation' && sameItems items items'
  | ⟨span, expectation, .string text⟩, ⟨span', expectation', .string text'⟩ =>
    span == span' && expectation == expectation' && text == text'
  | ⟨span, expectation, .number value⟩, ⟨span', expectation', .number value'⟩ =>
    span == span' && expectation == expectation' && value.equals value'
  | ⟨span, expectation, .boolean value⟩, ⟨span', expectation', .boolean value'⟩ =>
    span == span' && expectation == expectation' && value == value'
  | ⟨span, expectation, .null⟩, ⟨span', expectation', .null⟩ =>
    span == span' && expectation == expectation'
  | _, _ => false

/-- Whether two lists of items agree one by one. -/
def sameItems : List Node → List Node → Bool
  | [], [] => true
  | t :: ts, u :: us => t.same u && sameItems ts us
  | _, _ => false

/-- Whether two lists of members agree one by one. -/
def sameMembers : List (Member Node) → List (Member Node) → Bool
  | [], [] => true
  | ⟨key, none⟩ :: ms, ⟨key', none⟩ :: ms' => key == key' && sameMembers ms ms'
  | ⟨key, some t⟩ :: ms, ⟨key', some u⟩ :: ms' => key == key' && t.same u && sameMembers ms ms'
  | _, _ => false

end

/-! ### Height -/

mutual

/-- The number of nodes on the longest way down. A member counts as one even where its value is
missing, because a null node stands in for it. -/
def height : Node → Nat
  | ⟨_, _, .object members⟩ => heightOfMembers members + 1
  | ⟨_, _, .array items⟩ => heightOfItems items + 1
  | _ => 1

/-- The greatest height of an item. -/
def heightOfItems : List Node → Nat
  | [] => 0
  | t :: ts => max t.height (heightOfItems ts)

/-- The greatest height of a member's value. -/
def heightOfMembers : List (Member Node) → Nat
  | [] => 0
  | ⟨_, none⟩ :: ms => max 1 (heightOfMembers ms)
  | ⟨_, some t⟩ :: ms => max t.height (heightOfMembers ms)

end

end Node

end DocShape
