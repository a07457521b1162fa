import DocShape.Check.Bounded
import DocShape.Proofs.Alike
import DocShape.Proofs.KeyUnderCursor

/-!
# Values by key

What an object's schema says of a key may be given by any function of the key. On a given tree the
function is asked for the declared keys and for the keys of the tree, and for no others. So there are
rows that say the same (`Fields.exists_follows`), and which rows say it makes no difference to the
check of an object, be its keys declared or have a schema of their own (`check_eq_of_follows`).
-/

namespace DocShape

variable {ε : Type}

/-- Any properties of some keys are those of some fields. -/
theorem Fields.exists_property_eq (keys : List String) (values : String → Property (Schema ε)) :
    ∃ fields : Fields (Schema ε), ∀ key ∈ keys, fields.property key = values key := by
  have hlookup : ∀ key ∈ keys,
      (keys.map fun key => (key, values key)).lookup key = some (values key) := by
    intro key hkey
    induction keys with
    | nil => cases hkey
    | cons first rest ih =>
      rw [List.map_cons, List.lookup_cons]
      by_cases h : key = first
      · rw [h, beq_self_eq_true]
      · rw [beq_false_of_ne h]
        exact ih (List.mem_of_ne_of_mem h hkey)
  refine ⟨⟨keys.map fun key => (key, values key), ⟨.anything, none⟩⟩, ?_⟩
  intro key hkey
  rw [property, hlookup key hkey, Option.getD_some]

/-- Fields say of some declared keys and of all keys in a tree what a function of the key says. -/
structure Fields.Follows (fields : Fields (Schema ε)) (values : String → Property (Schema ε))
    (declared : List String) (t : Node) : Prop where
  /-- Of the declared keys. -/
  declared {key : String} (h : key ∈ declared) : fields.property key = values key
  /-- Of the keys of every object in the tree. -/
  held {u : Node} {members : List (Member Node)} {key : String} (hu : t.Holds u)
    (hmembers : u.members? = some members) (h : key ∈ Member.keys members) :
    fields.property key = values key

/-- **Whatever the function of the key, some fields follow it** on a tree. -/
theorem Fields.exists_follows (values : String → Property (Schema ε)) (declared : List String)
    (t : Node) : ∃ fields : Fields (Schema ε), fields.Follows values declared t := by
  obtain ⟨fields, hfields⟩ := exists_property_eq (declared ++ t.keys.map (·.text)) values
  refine ⟨fields, fun h => hfields _ (List.mem_append_left _ h), ?_⟩
  intro u members key hu hmembers h
  obtain ⟨m, hm, hkey⟩ := List.mem_filterMap.mp h
  obtain ⟨k, hk, rfl⟩ := Option.map_eq_some_iff.mp hkey
  have hmem : k ∈ t.keys := Node.mem_keys_iff.mpr ⟨m, ⟨u, members, hu, hmembers, hm⟩, hk⟩
  exact hfields k.text (List.mem_append_right _ (List.mem_map_of_mem hmem))

namespace Check

variable {env : Environment ε} {run : Run ε} {sc : Scope} {u : Node}
  {fields fields' : Fields (Schema ε)}

/-- Objects of declared keys are checked alike by fields that agree on those keys. -/
theorem checkObject_fixed_congr {keys : List String}
    (h : ∀ key ∈ keys, fields.property key = fields'.property key) :
    checkObject env run (.fixed keys fields) sc u = checkObject env run (.fixed keys fields') sc u := by
  -- the declared keys are asked for three times: to describe them, to find those that are missing,
  -- and to check their values
  have hdescribed : describeShape run env.settings sc (.fixed keys fields) =
      describeShape run env.settings sc (.fixed keys fields') := by
    have hrows : keys.map (fun key => (key, describe run (fields.property key).schema sc)) =
        keys.map fun key => (key, describe run (fields'.property key).schema sc) :=
      List.map_congr_left fun key hkey => by rw [h key hkey]
    have hfields : keys.map (fun key => fieldOf key (fields.property key)
          (describe run (fields'.property key).schema sc)) =
        keys.map fun key => fieldOf key (fields'.property key)
          (describe run (fields'.property key).schema sc) :=
      List.map_congr_left fun key hkey => by rw [h key hkey]
    simp only [describeShape, hrows, List.map_map, Function.comp_def, hfields]
  cases hmembers : u.members? with
  | none => rw [checkObject_of_none hmembers, checkObject_of_none hmembers, hdescribed]
  | some members =>
    have hmissing : missingLog keys fields members u.span = missingLog keys fields' members u.span := by
      unfold missingLog
      rw [List.filter_congr fun key hkey => by rw [h key hkey]]
    have hchecked : members.map (checkDeclared env run keys fields sc) =
        members.map (checkDeclared env run keys fields' sc) := by
      refine List.map_congr_left fun m _ => ?_
      obtain ⟨_ | key, value⟩ := m
      · rfl
      · by_cases hkey : key.text ∈ keys
        · rw [checkDeclared_of_mem hkey, checkDeclared_of_mem hkey, h key.text hkey]
        · rw [checkDeclared_of_not_mem hkey, checkDeclared_of_not_mem hkey]
    rw [checkObject_of_members hmembers, checkObject_of_members hmembers, hdescribed]
    simp only [checkMembers, hmissing, hchecked]

/-- Objects whose keys have a schema are checked alike by fields that agree on the keys that there
are. -/
theorem checkObject_keyed_congr {keys : Schema ε}
    (h : ∀ members, u.members? = some members →
      ∀ key ∈ Member.keys members, fields.property key = fields'.property key) :
    checkObject env run (.keyed keys fields) sc u = checkObject env run (.keyed keys fields') sc u := by
  cases hmembers : u.members? with
  | none =>
    rw [checkObject_of_none hmembers, checkObject_of_none hmembers]
    rfl
  | some members =>
    have hchecked : members.map (checkKeyed run keys fields sc) =
        members.map (checkKeyed run keys fields' sc) := by
      refine List.map_congr_left fun m hm => ?_
      obtain ⟨_ | key, value⟩ := m
      · rfl
      · have hkey : key.text ∈ Member.keys members :=
          List.mem_filterMap.mpr ⟨_, hm, rfl⟩
        simp only [checkKeyed, h members hmembers key.text hkey]
    rw [checkObject_of_members hmembers, checkObject_of_members hmembers]
    simp only [checkMembers, hchecked]
    rfl

end Check

/-- **Rows are as good as a function of the key.** On the nodes of a tree, whatever their slots hold,
all fields that follow the function make the same check of an object, be its keys declared or have a
schema of their own. -/
theorem check_eq_of_follows [CustomCheck ε] {values : String → Property (Schema ε)}
    {declared : List String} {t : Node} {fields fields' : Fields (Schema ε)}
    (h : fields.Follows values declared t) (h' : fields'.Follows values declared t)
    (env : Environment ε) (fuel : Nat) (sc : Scope) {u v : Node} (hv : t.Holds v)
    (hu : u.clear = v.clear) :
    check env fuel (.object (.fixed declared fields)) sc u =
      check env fuel (.object (.fixed declared fields')) sc u ∧
    ∀ keys : Schema ε, check env fuel (.object (.keyed keys fields)) sc u =
      check env fuel (.object (.keyed keys fields')) sc u := by
  cases fuel with
  | zero => exact ⟨rfl, fun _ => rfl⟩
  | succ fuel =>
    have hdeclared : ∀ key ∈ declared, fields.property key = fields'.property key :=
      fun key hkey => (h.declared hkey).trans (h'.declared hkey).symm
    have hheld : ∀ members, u.members? = some members →
        ∀ key ∈ Member.keys members, fields.property key = fields'.property key := by
      intro members hmembers key hkey
      -- in the middle of a run the node has other slots than in the tree, but the same keys
      have halike := Node.alike_of_clear hu
      obtain ⟨members', hmembers'⟩ := halike.exists_members hmembers
      have hkey' := (halike.keys hmembers hmembers' key).mp hkey
      exact (h.held hv hmembers' hkey').trans (h'.held hv hmembers' hkey').symm
    constructor
    · exact congrArg (Outcome.after _) (Check.checkObject_fixed_congr hdeclared)
    · intro keys
      exact congrArg (Outcome.after _) (Check.checkObject_keyed_congr hheld)

end DocShape
