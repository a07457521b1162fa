import DocShape.Check.Chooser

/-!
# Custom checks that pick

A `Picker` is a custom check that runs one of its parts, as a `Chooser` does, but which one it is may
hang on everything that the check is handed: on the settings, on the scope, and on the node with its
slots. `Picking` says of a type of custom checks that each of them picks.

A `Discriminator` is the other extreme: it reads the kind of the node and the texts under its keys,
and nothing else. A `Judge` is in between: it may read the scope and all that the node holds, but
neither slots nor settings. `Steady` says of a type of custom checks that none of them reads more.
-/

namespace DocShape

/-- A choice among the parts of a custom check that may hang on anything. -/
structure Picker where
  /-- The index of the part. -/
  index : Settings → Scope → Node → Nat

/-- Runs one of some checks; where there is none with that index, anything goes. -/
def Picker.run (picker : Picker) (settings : Settings) (parts : List (Scope → Node → Outcome))
    (sc : Scope) (t : Node) : Outcome :=
  match parts[picker.index settings sc t]? with
  | some run => run sc t
  | none => ⟨t.expecting [.any], {}⟩

instance : CustomCheck Picker := ⟨Picker.run⟩

/-- All custom checks of a type pick one of their parts. -/
class Picking (ε : Type) [CustomCheck ε] where
  /-- How a custom check picks. -/
  picker : ε → Picker
  /-- Every custom check runs as its picker does. -/
  run_eq (custom : ε) (settings : Settings) (parts : List (Scope → Node → Outcome)) (sc : Scope)
    (t : Node) : CustomCheck.run custom settings parts sc t = (picker custom).run settings parts sc t

instance : Picking Picker := ⟨id, fun _ _ _ _ _ => rfl⟩

instance : Picking Chooser :=
  ⟨fun chooser => ⟨fun _ _ t => chooser.index t.clear⟩, fun _ _ _ _ _ => rfl⟩

/-- Custom checks that only choose pick, too. -/
@[reducible] noncomputable def Choosing.picking {ε : Type} [CustomCheck ε] [Choosing ε] :
    Picking ε where
  picker custom := ⟨fun _ _ t => (Choosing.exists_chooser custom).choose.index t.clear⟩
  run_eq custom := (Choosing.exists_chooser custom).choose_spec

instance : Picking Empty := ⟨fun custom => custom.elim, fun custom => custom.elim⟩

/-- A choice among the parts of a custom check by the kind of the node and the texts under its
keys. -/
structure Discriminator where
  /-- The index of the part. -/
  index : Kind → (String → Option String) → Nat

/-- What a discriminator picks, as a picker. -/
def Discriminator.picker (d : Discriminator) : Picker := ⟨fun _ _ t => d.index t.kind t.textUnder?⟩

instance : CustomCheck Discriminator := ⟨fun d => d.picker.run⟩

instance : Picking Discriminator := ⟨Discriminator.picker, fun _ _ _ _ _ => rfl⟩

/-- A choice among the parts of a custom check that may hang on the scope and on everything that the
node holds. -/
structure Judge where
  /-- The index of the part, in a scope for a node with empty slots. -/
  index : Scope → Node → Nat

/-- What a judge picks, as a picker. -/
def Judge.picker (judge : Judge) : Picker := ⟨fun _ sc t => judge.index sc t.clear⟩

instance : CustomCheck Judge := ⟨fun judge => judge.picker.run⟩

instance : Picking Judge := ⟨Judge.picker, fun _ _ _ _ _ => rfl⟩

/-- All custom checks of a type pick the same part whatever the slots and the settings hold. -/
class Steady (ε : Type) [CustomCheck ε] [Picking ε] : Prop where
  /-- In one scope, nodes of the same content have the same part picked for them. -/
  index_eq (custom : ε) (settings settings' : Settings) (sc : Scope) {t t' : Node}
    (h : t.clear = t'.clear) :
    (Picking.picker custom).index settings sc t = (Picking.picker custom).index settings' sc t'

instance : Steady Judge :=
  ⟨fun judge _ _ sc {_ _} h => congrArg (judge.index sc) h⟩

instance : Steady Chooser :=
  ⟨fun chooser _ _ _ {_ _} h => congrArg chooser.index h⟩

/-- Custom checks that only choose are steady. -/
theorem Choosing.steady {ε : Type} [CustomCheck ε] [Choosing ε] :
    letI := Choosing.picking (ε := ε); Steady ε :=
  letI := Choosing.picking (ε := ε)
  ⟨fun custom _ _ _ {_ _} h => congrArg (Choosing.exists_chooser custom).choose.index h⟩

end DocShape
