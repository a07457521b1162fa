import Mathlib.Data.List.Perm.Subperm
import Mathlib.Logic.Relation
import DocShape.Check.Bounded
import DocShape.Proofs.Selection

/-!
# Circles of names

Schemas that refer to each other by name may go round in circles. A circle that passes an object or
an array does no harm, because it goes down the tree. `Schema.Exposes` says which names a schema may
come to while it is still checked on the same node, and a registry is `Guarded` if no name comes
back to itself in this way. So it is if all its schemas are `Sealed` and expose no name at all
(`guarded_of_sealed`).

`Schema.Hands` is one step of a check that stays on its node. A `Trail` collects the names passed in
such steps; in a guarded registry none is passed twice (`Trail.named`), so that a trail is no longer
than the registry (`Trail.length_le`).
-/

namespace DocShape

variable {ε : Type}

/-- The schemas inside a schema that are checked on the same node. -/
def Schema.openParts : Schema ε → List (Schema ε)
  | .union alternatives => alternatives
  | .documented _ schema => [schema]
  | .switch _ selector | .select selector => selector.openSchemas
  | .custom _ parts => parts
  | .anything | .scalar _ | .oneOf _ | .matching _ | .object _ | .array _ | .named _ => []

/-- They are parts of it. -/
theorem Schema.mem_parts_of_mem_openParts {s p : Schema ε} (h : p ∈ s.openParts) : p ∈ s.parts := by
  cases s with
  | union _ | documented _ _ | custom _ _ => exact h
  | switch _ _ | select _ => exact Selector.mem_schemas_of_mem_open h
  | anything | scalar _ | oneOf _ | matching _ | object _ | array _ | named _ => cases h

/-- A name that a schema may refer to on the node that it is checked on, no object and no array
being entered on the way. -/
inductive Schema.Exposes : Schema ε → String → Prop
  | named (name : String) : Exposes (.named name) name
  | part {s p : Schema ε} {name : String} (hp : p ∈ s.openParts) (h : Exposes p name) :
    Exposes s name

/-- The schema registered under one name exposes another. -/
def Refers (schemas : Table (Schema ε)) (name other : String) : Prop :=
  ∃ s, schemas.get? name = some s ∧ s.Exposes other

/-- Every circle of references passes through an object or an array. -/
def Guarded (schemas : Table (Schema ε)) : Prop :=
  ∀ name, ¬ Relation.TransGen (Refers schemas) name name

/-- References that go down some measure of names do not go round in circles. -/
theorem guarded_of_measure {schemas : Table (Schema ε)} (measure : String → Nat)
    (h : ∀ name other, Refers schemas name other → measure other < measure name) :
    Guarded schemas := by
  have hlt : ∀ name other, Relation.TransGen (Refers schemas) name other →
      measure other < measure name := by
    intro name other hpath
    induction hpath with
    | single hstep => exact h _ _ hstep
    | tail _ hstep ih => exact Nat.lt_trans (h _ _ hstep) ih
  exact fun name hpath => Nat.lt_irrefl _ (hlt name name hpath)

/-- A schema that exposes no name. -/
def Schema.Sealed (s : Schema ε) : Prop := ∀ name, ¬ s.Exposes name

/-- What is no name is sealed if its open parts are. -/
theorem Schema.Sealed.of_openParts {s : Schema ε} (hs : ∀ name, s ≠ .named name)
    (hparts : ∀ p ∈ s.openParts, p.Sealed) : s.Sealed := by
  intro name h
  cases h with
  | named _ => exact hs name rfl
  | part hp h => exact hparts _ hp name h

/-- An object is sealed. -/
theorem Schema.sealed_object (shape : Shape (Schema ε)) : (Schema.object shape).Sealed :=
  .of_openParts nofun nofun

/-- So is an array. -/
theorem Schema.sealed_array (item : Schema ε) : (Schema.array item).Sealed :=
  .of_openParts nofun nofun

/-- Sealed schemas do not refer to each other. -/
theorem guarded_of_sealed {schemas : Table (Schema ε)}
    (h : ∀ row ∈ schemas.entries, row.2.Sealed) : Guarded schemas := by
  apply guarded_of_measure fun _ => 0
  rintro name other ⟨s, hget, hexposes⟩
  exact absurd hexposes (h _ (Table.mem_entries_of_get? hget) other)

/-- Without names there are no circles. -/
theorem guarded_nil : Guarded (⟨[]⟩ : Table (Schema ε)) := guarded_of_sealed nofun

/-- Some schemas check the node that they are checked on against another schema. -/
inductive Schema.Hands (schemas : Table (Schema ε)) (t : Node) : Schema ε → Schema ε → Prop
  | alternative {alternatives : List (Schema ε)} {s : Schema ε} (h : s ∈ alternatives) :
    Hands schemas t (.union alternatives) s
  | named {name : String} {s : Schema ε} (h : schemas.get? name = some s) :
    Hands schemas t (.named name) s
  | documented (path : String) (s : Schema ε) : Hands schemas t (.documented path s) s
  | switch (key : String) (selector : Selector (Schema ε)) (value : Option String) :
    Hands schemas t (.switch key selector) (selector.choose Schema.record t value).1
  | select (selector : Selector (Schema ε)) (value : Option String) :
    Hands schemas t (.select selector) (selector.choose Schema.record t value).1
  | part {custom : ε} {parts : List (Schema ε)} {s : Schema ε} (h : s ∈ parts) :
    Hands schemas t (.custom custom parts) s

/-- What is selected is a schema that the selector may hand on to, or an object made of its schemas
and of nothing else that says anything. -/
theorem Selector.choose_parts (t : Node) (selector : Selector (Schema ε)) (value : Option String) :
    (selector.choose Schema.record t value).1 ∈ selector.openSchemas ∨
    (∃ shape, (selector.choose Schema.record t value).1 = .object shape) ∧
      ∀ p ∈ (selector.choose Schema.record t value).1.parts,
        p = .anything ∨ p ∈ selector.schemas := by
  refine (selector.choose_cases Schema.record t value).imp id ?_
  rintro ⟨r, hr, hschemas, -⟩
  refine ⟨⟨_, hr⟩, fun p hp => ?_⟩
  rw [hr] at hp
  exact (List.mem_cons.mp hp).imp id (hschemas p)

/-- What a schema hands its node on to is a schema under its name, a part of it, or an object made
of its parts and of nothing else that says anything. -/
theorem Schema.Hands.cases_on_parts {schemas : Table (Schema ε)} {t : Node} {s c : Schema ε}
    (h : s.Hands schemas t c) :
    (∃ name, s = .named name ∧ schemas.get? name = some c) ∨
    (c ∈ s.openParts ∧ c ∈ s.parts) ∨
    (∃ shape, c = .object shape) ∧ (∀ shape, s ≠ .object shape) ∧
      ∀ p ∈ c.parts, p = .anything ∨ p ∈ s.parts := by
  cases h with
  | named h => exact Or.inl ⟨_, rfl, h⟩
  | alternative h | part h => exact Or.inr (Or.inl ⟨h, h⟩)
  | documented path =>
    exact Or.inr (Or.inl ⟨List.mem_singleton_self c, List.mem_singleton_self c⟩)
  | switch key selector value | select selector value =>
    exact Or.inr <| (selector.choose_parts t value).imp
      (fun h => ⟨h, Selector.mem_schemas_of_mem_open h⟩)
      fun ⟨hshape, hparts⟩ => ⟨hshape, nofun, hparts⟩


/-! ### Trails -/

/-- Names that have been passed on one node, before a schema was come to. -/
structure Trail (schemas : Table (Schema ε)) (passed : List String) (s : Schema ε) : Prop where
  /-- None has been passed twice. -/
  nodup : passed.Nodup
  /-- All of them are registered. -/
  registered : passed ⊆ schemas.keys
  /-- Each leads to every name that the schema exposes. -/
  leads (name : String) (hname : name ∈ passed) (other : String) (h : s.Exposes other) :
    Relation.TransGen (Refers schemas) name other

namespace Trail

variable {schemas : Table (Schema ε)} {passed : List String} {s c : Schema ε}

/-- No name has been passed at the start. -/
theorem nil (s : Schema ε) : Trail schemas [] s :=
  ⟨List.nodup_nil, List.nil_subset _, fun _ h => absurd h List.not_mem_nil⟩

/-- A trail is no longer than the registry. -/
theorem length_le (h : Trail schemas passed s) : passed.length ≤ schemas.size := by
  have := (h.nodup.subperm h.registered).length_le
  rwa [Table.keys, List.length_map] at this

/-- A trail goes on to a schema that exposes nothing else. -/
theorem mono (h : Trail schemas passed s) (hc : ∀ other, c.Exposes other → s.Exposes other) :
    Trail schemas passed c :=
  ⟨h.nodup, h.registered, fun name hname other hother => h.leads name hname other (hc other hother)⟩

/-- **A new name** is added to a trail when it is passed: it cannot have been passed before. -/
theorem named {name : String} (hguard : Guarded schemas) (h : Trail schemas passed (.named name))
    (hget : schemas.get? name = some c) : Trail schemas (name :: passed) c where
  nodup := by
    refine List.nodup_cons.mpr ⟨fun hname => ?_, h.nodup⟩
    exact hguard name (h.leads name hname name (.named name))
  registered := by
    refine List.cons_subset.mpr ⟨?_, h.registered⟩
    exact List.mem_map_of_mem (Table.mem_entries_of_get? hget)
  leads other hother last hlast := by
    have hstep : Refers schemas name last := ⟨c, hget, hlast⟩
    rcases List.mem_cons.mp hother with rfl | hother
    · exact .single hstep
    · exact .tail (h.leads other hother name (.named name)) hstep

end Trail

end DocShape
