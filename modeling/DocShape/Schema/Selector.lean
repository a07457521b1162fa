import DocShape.Schema.OpenRecord

/-!
# Selecting a schema

A `Selector` chooses a schema for a node when the node is known, by a discriminating value, by the
node's kind, or by settling an open record.
-/

namespace DocShape

/-- A choice of a schema. -/
inductive Selector (σ : Type) where
  /-- The properties of an open record. -/
  | record (properties : OpenRecord σ)
  /-- By the value, one row each, with a schema for no value and one for any other. -/
  | byValue (rows : List (String × σ)) (absent otherwise : σ)
  /-- By the kind of the node. -/
  | byKind (rows : List (Kind × σ)) (otherwise : σ)
  /-- Goes on with the text under another key as the value. -/
  | sibling (key : String) (next : Selector σ)

/-- The schema chosen for a value and a node, and what was found on the way; `ofRecord` makes a
schema of a record. The first row that fits counts. -/
def Selector.choose {σ : Type} (ofRecord : Record σ → σ) (t : Node) :
    Option String → Selector σ → σ × Log
  | value, .record properties =>
    let settled := properties.settle value t
    (ofRecord settled.1, settled.2)
  | none, .byValue _ absent _ => (absent, {})
  | some value, .byValue rows _ otherwise => ((rows.lookup value).getD otherwise, {})
  | _, .byKind rows otherwise => ((rows.lookup t.kind).getD otherwise, {})
  | _, .sibling key next => next.choose ofRecord t (t.textUnder? key)

end DocShape
