import DocShape.Proofs.Blind
import DocShape.Proofs.Remains

/-!
# Documentation paths

A record shows over each of its keys the documentation path that the check of its value has come along.
The path is handed down from scope to scope: a record puts the key behind it, and in front of the key
the segment that the property may have, while arrays and names hand it on as it is. So the path over a
key hangs on the records that stand above it, and not on what stands beside it.

`Schema.RecordAt` follows a schema into a tree, through declared keys, items and names, to a record that
an object of the tree is checked against, and lists the levels that are passed. Whatever the schema,
each key that this record declares shows the path at the root, followed by all levels down to the key
(`Environment.Ends.hover_of_recordAt`). For a schema that is made of records, arrays, names and leaves
these are all keys that show something (`Check.declared_of_hover`): nothing is shown over a key that is
not declared, nor anywhere below it (`documentation_paths`).
-/

namespace DocShape

/-! ### Members of a tree -/

namespace Node

/-- The member that a step goes through: none, if it is a step to an item. -/
def memberAt? (t : Node) : Path.Step → Option (Member Node)
  | .key text => t.members?.bind (·.find? fun m => decide (m.Named text))
  | .index _ => none
  | .member i => t.members?.bind (·[i]?)

/-- A member of the object at the end of a path, counted from zero. -/
def memberIn? (t : Node) (path : Path) (i : Nat) : Option (Member Node) :=
  (t.find? path).bind (·.memberAt? (.member i))

/-- What is shown over the key of such a member. -/
def hoverIn? (t : Node) (path : Path) (i : Nat) : Option String :=
  ((t.memberIn? path i).bind (·.key)).bind (·.hover)

variable {t u v : Node} {step : Path.Step} {path : Path} {i : Nat} {m : Member Node} {key : Key}

theorem mem_of_memberAt? (h : t.memberAt? step = some m) :
    ∃ members, t.members? = some members ∧ m ∈ members := by
  cases step with
  | key text =>
    obtain ⟨members, hmembers, hm⟩ := Option.bind_eq_some_iff.mp h
    exact ⟨members, hmembers, List.mem_of_find?_eq_some hm⟩
  | index i => cases h
  | member i =>
    obtain ⟨members, hmembers, hm⟩ := Option.bind_eq_some_iff.mp h
    exact ⟨members, hmembers, List.mem_of_getElem? hm⟩

/-- Behind a step through a member is its value. -/
theorem child?_eq_bind (hstep : ∀ i, step ≠ .index i) :
    t.child? step = (t.memberAt? step).bind (·.value) := by
  cases step with
  | key text =>
    rw [child?, value?, memberAt?]
    cases t.members? <;> rfl
  | index i => exact absurd rfl (hstep i)
  | member i => rfl

theorem child?_of_memberAt? (h : t.memberAt? step = some m) : t.child? step = m.value := by
  have hstep : ∀ i, step ≠ .index i := by
    rintro i rfl
    cases h
  rw [child?_eq_bind hstep, h, Option.bind_some]

/-- Where all members are changed, but not the texts of their keys, a step goes through the changed
member. -/
theorem memberAt?_map {f : Member Node → Member Node}
    (hf : ∀ m, (f m).key.map (·.text) = m.key.map (·.text))
    (h : u.members? = t.members?.map (·.map f)) : u.memberAt? step = (t.memberAt? step).map f := by
  cases step with
  | key text =>
    have hnamed : (fun m => decide (Member.Named m text)) ∘ f = fun m => decide (m.Named text) := by
      funext m
      refine decide_eq_decide.mpr ?_
      unfold Member.Named
      rw [hf]
    rw [memberAt?, memberAt?, h]
    cases t.members? with
    | none => rfl
    | some members =>
      rw [Option.map_some, Option.bind_some, Option.bind_some, List.find?_map, hnamed]
  | index i => rfl
  | member i =>
    rw [memberAt?, memberAt?, h]
    cases t.members? with
    | none => rfl
    | some members => exact List.getElem?_map

theorem memberAt?_clear : t.clear.memberAt? step = (t.memberAt? step).map clearMember := by
  refine memberAt?_map (fun m => ?_) (members?_clear t)
  rw [key_clearMember, Option.map_map]
  rfl

theorem memberIn?_clear : t.clear.memberIn? path i = (t.memberIn? path i).map clearMember := by
  unfold memberIn?
  rw [find?_clear]
  cases t.find? path with
  | none => rfl
  | some u =>
    show u.clear.memberAt? (.member i) = (u.memberAt? (.member i)).map clearMember
    exact memberAt?_clear

theorem exists_child_of_memberIn? (h : t.memberIn? (step :: path) i = some m) :
    ∃ u, t.child? step = some u ∧ u.memberIn? path i = some m := by
  obtain ⟨v, hv, hm⟩ := Option.bind_eq_some_iff.mp h
  obtain ⟨u, hu, hv⟩ := Option.bind_eq_some_iff.mp hv
  refine ⟨u, hu, ?_⟩
  rw [memberIn?, hv]
  exact hm

theorem memberIn?_cons (h : t.child? step = some u) :
    t.memberIn? (step :: path) i = u.memberIn? path i := by
  unfold memberIn?
  rw [find?, h, Option.bind_some]

/-- The slot of a node makes no difference to members. -/
theorem memberIn?_expecting {expected : List Expectation} :
    (t.expecting expected).memberIn? path i = t.memberIn? path i := by
  cases path with
  | nil => rfl
  | cons step path => cases step <;> rfl

/-- Nothing is shown over the keys of a tree whose slots are empty. -/
theorem hover_eq_none_of_clear (h : t.clear = t) (hm : t.memberIn? path i = some m)
    (hkey : m.key = some key) : key.hover = none := by
  rw [← h, memberIn?_clear] at hm
  obtain ⟨before, -, rfl⟩ := Option.map_eq_some_iff.mp hm
  obtain ⟨key', -, rfl⟩ := Option.map_eq_some_iff.mp hkey
  rfl

theorem clear_of_child? (h : t.clear = t) (hu : t.child? step = some u) : u.clear = u := by
  have hclear := child?_clear t step
  rw [h, hu, Option.map_some, Option.some.injEq] at hclear
  exact hclear.symm

end Node

/-! ### Levels -/

/-- One level of records on the way to a key. -/
structure Level where
  /-- The segment in front of the key, if there is one. -/
  segment : Option String
  /-- The key. -/
  key : String

/-- What a level puts behind the path. -/
def Level.text (level : Level) : String :=
  level.segment.elim "" ("." ++ ·) ++ "." ++ level.key

/-- The level of a key of a record. -/
def Fields.level {σ : Type} (fields : Fields σ) (key : String) : Level :=
  ⟨(fields.property key).docPath?, key⟩

/-- A path with some levels behind it. -/
def Level.path (root : String) (levels : List Level) : String :=
  levels.foldl (fun path level => path ++ level.text) root

variable {ε : Type}

/-- A scope that has a path goes down by one level. -/
theorem Check.propertyScope_eq {sc : Scope} (hpath : sc.path ≠ "") (fields : Fields (Schema ε))
    (key : String) :
    Check.propertyScope (fields.property key) key sc =
      sc.withPath (sc.path ++ (fields.level key).text) := by
  unfold Check.propertyScope Fields.level Level.text Scope.descend Scope.withPath
  cases (fields.property key).docPath? with
  | none => simp [hpath, String.append_assoc]
  | some segment => simp [hpath, String.append_assoc]

/-! ### Records in a tree -/

/-- A schema follows a path to a record: the object at the end of the path is checked against the
declared keys, if there is one, and the levels are those of the keys on the way to it. -/
inductive Schema.RecordAt (schemas : Table (Schema ε)) :
    Schema ε → Node → Path → List Level → List String → Fields (Schema ε) → Prop
  /-- A record has come to its object. -/
  | here {t : Node} {keys : List String} {fields : Fields (Schema ε)} :
    RecordAt schemas (.object (.fixed keys fields)) t [] [] keys fields
  /-- A name stands for the schema that is registered under it. -/
  | named {name : String} {s : Schema ε} {t : Node} {path : Path} {levels : List Level}
    {keys : List String} {fields : Fields (Schema ε)} (hget : schemas.get? name = some s)
    (h : RecordAt schemas s t path levels keys fields) :
    RecordAt schemas (.named name) t path levels keys fields
  /-- An item of an array is on the same level. -/
  | item {item : Schema ε} {t u : Node} {i : Nat} {path : Path} {levels : List Level}
    {keys : List String} {fields : Fields (Schema ε)} (hu : t.child? (.index i) = some u)
    (h : RecordAt schemas item u path levels keys fields) :
    RecordAt schemas (.array item) t (.index i :: path) levels keys fields
  /-- The value under a declared key is one level further down. -/
  | member {outer : List String} {properties : Fields (Schema ε)} {t u : Node} {step : Path.Step}
    {m : Member Node} {key : Key} {path : Path} {levels : List Level} {keys : List String}
    {fields : Fields (Schema ε)} (hm : t.memberAt? step = some m) (hkey : m.key = some key)
    (hmem : key.text ∈ outer) (hu : m.value = some u)
    (h : RecordAt schemas (properties.property key.text).schema u path levels keys fields) :
    RecordAt schemas (.object (.fixed outer properties)) t (step :: path)
      (properties.level key.text :: levels) keys fields

namespace Schema.RecordAt

variable {schemas : Table (Schema ε)} {s : Schema ε} {t t' v : Node} {path rest : Path}
  {step : Path.Step} {levels levels' : List Level} {keys keys' : List String}
  {fields fields' : Fields (Schema ε)}

/-- The slots of a tree make no difference to the records in it. -/
theorem congr (h : s.RecordAt schemas t path levels keys fields) (hclear : t.clear = t'.clear) :
    s.RecordAt schemas t' path levels keys fields := by
  induction h generalizing t' with
  | here => exact .here
  | named hget _ ih => exact .named hget (ih hclear)
  | @item item t u i path levels keys fields hu _ ih =>
    have hchild := Node.child?_clear t (.index i)
    rw [hu, hclear, Node.child?_clear] at hchild
    obtain ⟨u', hu', hclear'⟩ := Option.map_eq_some_iff.mp hchild
    exact .item hu' (ih hclear'.symm)
  | @member outer properties t u step m key path levels keys fields hm hkey hmem hu _ ih =>
    have hmember : (t'.memberAt? step).map Node.clearMember = some (Node.clearMember m) := by
      rw [← Node.memberAt?_clear, ← hclear, Node.memberAt?_clear, hm, Option.map_some]
    obtain ⟨m', hm', hclear'⟩ := Option.map_eq_some_iff.mp hmember
    obtain ⟨key', hkey', htext, -⟩ := Node.exists_key_of_clear hclear' hkey
    obtain ⟨u', hu', hsame⟩ := Node.exists_value_of_clear hclear' hu
    rw [← htext] at hmem ih ⊢
    exact .member hm' hkey' hmem hu' (ih hsame.symm)

/-- There is no other record at the end of a path. -/
theorem unique (h : s.RecordAt schemas t path levels keys fields)
    (h' : s.RecordAt schemas t path levels' keys' fields') : keys = keys' := by
  induction h generalizing levels' with
  | here =>
    cases h' with
    | here => rfl
  | named hget _ ih =>
    cases h' with
    | named hget' h' =>
      cases hget.symm.trans hget'
      exact ih h'
  | item hu _ ih =>
    cases h' with
    | item hu' h' =>
      cases hu.symm.trans hu'
      exact ih h'
  | member hm hkey _ hu _ ih =>
    cases h' with
    | member hm' hkey' _ hu' h' =>
      cases hm.symm.trans hm'
      cases hkey.symm.trans hkey'
      cases hu.symm.trans hu'
      exact ih h'

/-- A way that goes on below a record goes through a key that the record declares. -/
theorem declares (h : s.RecordAt schemas t path levels keys fields)
    (h' : s.RecordAt schemas t (path ++ step :: rest) levels' keys' fields')
    (hv : t.find? path = some v) :
    ∃ m key, v.memberAt? step = some m ∧ m.key = some key ∧ key.text ∈ keys := by
  induction h generalizing levels' with
  | here =>
    cases hv
    cases h' with
    | member hm hkey hmem _ _ => exact ⟨_, _, hm, hkey, hmem⟩
  | named hget _ ih =>
    cases h' with
    | named hget' h' =>
      cases hget.symm.trans hget'
      exact ih h' hv
  | item hu _ ih =>
    rw [Node.find?, hu] at hv
    cases h' with
    | item hu' h' =>
      cases hu.symm.trans hu'
      exact ih h' hv
  | member hm hkey _ hu _ ih =>
    rw [Node.find?, Node.child?_of_memberAt? hm, hu] at hv
    cases h' with
    | member hm' hkey' _ hu' h' =>
      cases hm.symm.trans hm'
      cases hkey.symm.trans hkey'
      cases hu.symm.trans hu'
      exact ih h' hv

end Schema.RecordAt

/-! ### One step -/

namespace Check

section Step

variable {env : Environment ε} {run : Run ε} {keys : List String} {fields : Fields (Schema ε)}
  {sc : Scope} {t u : Node} {step : Path.Step} {m : Member Node} {key : Key}

/-- A member keeps the text of its key. -/
theorem text_checkDeclared (m : Member Node) :
    (checkDeclared env run keys fields sc m).1.key.map (·.text) = m.key.map (·.text) := by
  obtain ⟨_ | key, value⟩ := m
  · rfl
  · by_cases hmem : key.text ∈ keys
    · rw [checkDeclared_of_mem hmem]
      rfl
    · rw [checkDeclared_of_not_mem hmem]

/-- A member whose key is not declared, or that has none, is left as it is. -/
theorem checkDeclared_of_undeclared (h : ∀ key, m.key = some key → key.text ∉ keys) :
    (checkDeclared env run keys fields sc m).1 = m := by
  obtain ⟨_ | key, value⟩ := m
  · rfl
  · rw [checkDeclared_of_not_mem (h key rfl)]

/-- Behind each step through a member is the checked member. -/
theorem memberAt?_checkObject :
    (checkObject env run (.fixed keys fields) sc t).node.memberAt? step =
      (t.memberAt? step).map fun m => (checkDeclared env run keys fields sc m).1 := by
  refine Node.memberAt?_map text_checkDeclared ?_
  cases hmembers : t.members? with
  | none =>
    rw [checkObject_of_none hmembers]
    exact hmembers
  | some members =>
    rw [checkObject_of_members hmembers]
    show some _ = some _
    rw [checkMembers, List.map_map]
    rfl

/-- A step that goes through no member leads on as before. -/
theorem child?_checkObject (h : t.memberAt? step = none) :
    (checkObject env run (.fixed keys fields) sc t).node.child? step = t.child? step := by
  cases step with
  | index i =>
    obtain ⟨span, expectation, body⟩ := t
    cases body <;> rfl
  | key _ | member _ =>
    rw [Node.child?_eq_bind (by simp), Node.child?_eq_bind (by simp), memberAt?_checkObject, h]
    rfl

/-- Behind a step to an item is the checked item. -/
theorem child?_checkArray {item : Schema ε} {i : Nat} :
    (checkArray env run item sc t).node.child? (.index i) =
      (t.child? (.index i)).map fun u => (run item sc u).node := by
  cases hitems : t.items? with
  | none =>
    rw [checkArray_of_none hitems]
    show (t.items?.bind _) = (t.items?.bind _).map _
    rw [hitems]
    rfl
  | some items =>
    rw [checkArray_of_items hitems, Node.child?, Node.child?, hitems]
    show ((items.map (run item sc)).map (·.node))[i]? = (items[i]?).map _
    rw [List.map_map, List.getElem?_map]
    rfl

/-- An array has no members, whatever its items are. -/
theorem memberAt?_checkArray {item : Schema ε} :
    (checkArray env run item sc t).node.memberAt? step = t.memberAt? step := by
  obtain ⟨span, expectation, body⟩ := t
  cases body <;> cases step <;> rfl

/-- Where members are free, only the slot of the object is written. -/
theorem exists_node_checkObject_free (env : Environment ε) (run : Run ε) (sc : Scope) (t : Node) :
    ∃ expected, (checkObject env run .free sc t).node = t.expecting expected := by
  obtain ⟨span, expectation, body⟩ := t
  cases body <;> exact ⟨_, rfl⟩

/-- A member that a record leaves is as it was, or its key is declared. -/
theorem memberAt?_of_record
    (h : (checkObject env run (.fixed keys fields) sc t).node.memberAt? step = some m) :
    t.memberAt? step = some m ∨ ∃ key, m.key = some key ∧ key.text ∈ keys := by
  rw [memberAt?_checkObject] at h
  obtain ⟨n, hn, rfl⟩ := Option.map_eq_some_iff.mp h
  by_cases hdeclared : ∃ key, n.key = some key ∧ key.text ∈ keys
  · obtain ⟨key, hkey, hmem⟩ := hdeclared
    have htext : (checkDeclared env run keys fields sc n).1.key.map (·.text) = some key.text := by
      rw [text_checkDeclared, hkey, Option.map_some]
    obtain ⟨key', hkey', hsame⟩ := Option.map_eq_some_iff.mp htext
    exact Or.inr ⟨key', hkey', hsame ▸ hmem⟩
  · rw [checkDeclared_of_undeclared fun key hkey hmem => hdeclared ⟨key, hkey, hmem⟩]
    exact Or.inl hn

/-- A node below a record is as it was, or it is the checked value under a declared key. -/
theorem child?_of_record {v : Node}
    (h : (checkObject env run (.fixed keys fields) sc t).node.child? step = some v) :
    t.child? step = some v ∨ ∃ n key u, t.memberAt? step = some n ∧ n.key = some key ∧
      key.text ∈ keys ∧ n.value = some u ∧
      v = (run (fields.property key.text).schema
        (propertyScope (fields.property key.text) key.text sc) u).node := by
  cases hn : t.memberAt? step with
  | none =>
    rw [child?_checkObject hn] at h
    exact Or.inl h
  | some n =>
    have hchecked : (checkObject env run (.fixed keys fields) sc t).node.memberAt? step =
        some (checkDeclared env run keys fields sc n).1 := by
      rw [memberAt?_checkObject, hn, Option.map_some]
    rw [Node.child?_of_memberAt? hchecked] at h
    by_cases hdeclared : ∃ key, n.key = some key ∧ key.text ∈ keys
    · obtain ⟨key, hkey, hmem⟩ := hdeclared
      obtain ⟨_, value⟩ := n
      cases hkey
      rw [checkDeclared_of_mem hmem] at h
      obtain ⟨u, rfl, rfl⟩ := Option.map_eq_some_iff.mp h
      exact Or.inr ⟨_, key, u, rfl, rfl, hmem, rfl, rfl⟩
    · rw [checkDeclared_of_undeclared fun key hkey hmem => hdeclared ⟨key, hkey, hmem⟩] at h
      rw [Node.child?_of_memberAt? hn]
      exact Or.inl h

/-- A node below an array is as it was, or it is a checked item. -/
theorem child?_of_array {item : Schema ε} {v : Node}
    (h : (checkArray env run item sc t).node.child? step = some v) :
    t.child? step = some v ∨ ∃ i u, step = .index i ∧ t.child? (.index i) = some u ∧
      v = (run item sc u).node := by
  cases step with
  | index i =>
    rw [child?_checkArray] at h
    obtain ⟨u, hu, rfl⟩ := Option.map_eq_some_iff.mp h
    exact Or.inr ⟨i, u, rfl, hu, rfl⟩
  | key _ | member _ =>
    rw [Node.child?_eq_bind (by simp), memberAt?_checkArray, ← Node.child?_eq_bind (by simp)] at h
    exact Or.inl h

end Step

end Check

/-! ### Declared keys -/

section Ends

variable [CustomCheck ε] [Picking ε] {env : Environment ε} {s : Schema ε} {sc : Scope}
  {t u : Node} {o : Outcome}

/-- A record checks the value under a declared key, or the null node that stands for it, one level
further down, and shows over the key what that has come to. -/
theorem Environment.Ends.member_of_record {keys : List String} {fields : Fields (Schema ε)}
    {step : Path.Step} {m : Member Node} {key : Key}
    (h : env.Ends (.object (.fixed keys fields)) sc t o) (hm : t.memberAt? step = some m)
    (hkey : m.key = some key) (hmem : key.text ∈ keys) :
    let inside := Check.propertyScope (fields.property key.text) key.text sc
    ∃ o', env.Ends (fields.property key.text).schema inside (Check.valueOrNull key m) o' ∧
      o.node.memberAt? step = some ⟨some { key with hover := some (env.settings.hover inside.path
        o'.node.labels (env.documentation inside.path)) }, m.value.map fun _ => o'.node⟩ := by
  obtain ⟨_ | fuel, rfl, hfinished⟩ := h
  · cases hfinished
  · intro inside
    refine ⟨check env fuel (fields.property key.text).schema inside (Check.valueOrNull key m),
      ⟨fuel, rfl, ?_⟩, ?_⟩
    · obtain ⟨members, hmembers, hmem'⟩ := Node.mem_of_memberAt? hm
      have hstep := Log.finished_right hfinished
      exact Check.finished_of_leads hstep (.property hmembers hmem' hkey hmem)
    · show (Check.checkObject env (check env fuel) (.fixed keys fields) sc t).node.memberAt? step = _
      rw [Check.memberAt?_checkObject, hm, Option.map_some]
      obtain ⟨_ | key, value⟩ := m
      · cases hkey
      · cases hkey
        rw [Check.checkDeclared_of_mem hmem]
        rfl

/-- An array checks an item in its own scope. -/
theorem Environment.Ends.item_of_array {item : Schema ε} {i : Nat} (h : env.Ends (.array item) sc t o)
    (hu : t.child? (.index i) = some u) :
    ∃ o', env.Ends item sc u o' ∧ o.node.child? (.index i) = some o'.node := by
  obtain ⟨_ | fuel, rfl, hfinished⟩ := h
  · cases hfinished
  · refine ⟨check env fuel item sc u, ⟨fuel, rfl, ?_⟩, ?_⟩
    · obtain ⟨items, hitems, hi⟩ := Option.bind_eq_some_iff.mp hu
      have hstep := Log.finished_right hfinished
      exact Check.finished_of_leads hstep (.item hitems (List.mem_of_getElem? hi))
    · show (Check.checkArray env (check env fuel) item sc t).node.child? (.index i) = _
      rw [Check.child?_checkArray, hu, Option.map_some]

/-- **A declared key shows its path**: wherever a check that starts on some path comes to a record, a
key that the record declares shows the path with all levels behind it, down to its own one, with the
documentation there and the labels of its value. -/
theorem Environment.Ends.hover_of_recordAt {path : Path} {levels : List Level} {keys : List String}
    {fields : Fields (Schema ε)} {i : Nat} {m : Member Node} {key : Key} (h : env.Ends s sc t o)
    (hpath : sc.path ≠ "") (hat : s.RecordAt env.schemas t path levels keys fields)
    (hm : t.memberIn? path i = some m) (hkey : m.key = some key) (hmem : key.text ∈ keys) :
    let p := Level.path sc.path (levels ++ [fields.level key.text])
    ∃ o', env.Ends (fields.property key.text).schema (sc.withPath p) (Check.valueOrNull key m) o' ∧
      o.node.memberIn? path i = some ⟨some { key with hover := some (env.settings.hover p
        o'.node.labels (env.documentation p)) }, m.value.map fun _ => o'.node⟩ := by
  -- along the way the path at the start grows by the levels passed, and stays one that is not empty
  induction hat generalizing sc o with
  | @here t keys fields =>
    have hm' : t.memberAt? (.member i) = some m := hm
    obtain ⟨o', hends, hmember⟩ := h.member_of_record hm' hkey hmem
    rw [Check.propertyScope_eq hpath] at hends hmember
    exact ⟨o', hends, hmember⟩
  | named hget _ ih =>
    obtain ⟨o', hends, hnode, -⟩ := h.of_named hget
    rw [hnode]
    exact ih hends hpath hm hmem
  | item hu _ ih =>
    obtain ⟨o', hends, hchild⟩ := h.item_of_array hu
    rw [Node.memberIn?_cons hu] at hm
    rw [Node.memberIn?_cons hchild]
    exact ih hends hpath hm hmem
  | @member outer properties t u step n key' path levels keys fields hn hkey' hmem' hu _ ih =>
    obtain ⟨o', hends, hmember⟩ := h.member_of_record hn hkey' hmem'
    rw [Check.propertyScope_eq hpath] at hends
    have hvalue : Check.valueOrNull key' n = u := by
      rw [Check.valueOrNull, hu, Option.getD_some]
    rw [hvalue] at hends
    have hchild : o.node.child? step = some o'.node := by
      rw [Node.child?_of_memberAt? hmember, hu, Option.map_some]
    rw [Node.memberIn?_cons (Node.child?_of_memberAt? hn ▸ hu)] at hm
    rw [Node.memberIn?_cons hchild]
    exact ih hends (by simp [Scope.withPath, hpath]) hm hmem

end Ends

/-! ### All other keys -/

/-- A leaf, a record, an array or a name. -/
def Schema.Ordinary : Schema ε → Prop
  | .anything | .scalar _ | .oneOf _ | .matching _ | .object .free | .object (.fixed _ _)
  | .array _ | .named _ => True
  | _ => False

/-- A schema that uses nothing but leaves, records, arrays and names. -/
def Schema.Straight (schemas : Table (Schema ε)) (s : Schema ε) : Prop :=
  ∀ p, s.Uses schemas p → p.Ordinary

section Straight

variable {schemas : Table (Schema ε)} {s p : Schema ε}

theorem Schema.Straight.part (h : s.Straight schemas) (hp : p ∈ s.parts) : p.Straight schemas :=
  fun q huses => h q (.part hp huses)

theorem Schema.Straight.registered {name : String} (h : (Schema.named name).Straight schemas)
    (hget : schemas.get? name = some p) : p.Straight schemas :=
  fun q huses => h q (.named hget huses)

/-- Schemas are straight if they are ordinary and use no others. -/
theorem Schema.straight_of_closed (ss : List (Schema ε)) (hordinary : ∀ p ∈ ss, p.Ordinary)
    (hparts : ∀ p ∈ ss, ∀ q ∈ p.parts, q ∈ ss)
    (hnames : ∀ name, .named name ∈ ss → ∀ q, schemas.get? name = some q → q ∈ ss) (hs : s ∈ ss) :
    s.Straight schemas := by
  intro q huses
  exact hordinary q (huses.mem_of_closed hparts hnames hs)

end Straight

section Rest

variable [CustomCheck ε] {env : Environment ε}

/-- In a tree that has been checked against a straight schema, only declared keys show something. -/
theorem Check.declared_of_hover {s : Schema ε} (hs : s.Straight env.schemas) {fuel : Nat} {sc : Scope}
    {t : Node} (hblank : t.clear = t) {path : Path} {i : Nat} {m : Member Node} {key : Key}
    {hover : String} (hm : (check env fuel s sc t).node.memberIn? path i = some m)
    (hkey : m.key = some key) (hhover : key.hover = some hover) :
    ∃ levels keys fields, s.RecordAt env.schemas t path levels keys fields ∧ key.text ∈ keys := by
  -- what a check leaves as it was has nothing to show
  have hleft : ∀ {u : Node}, u.clear = u → ∀ path, u.memberIn? path i ≠ some m := by
    intro u hu path hm
    rw [Node.hover_eq_none_of_clear hu hm hkey] at hhover
    cases hhover
  induction fuel generalizing s sc t path with
  | zero => exact absurd hm (hleft hblank _)
  | succ fuel ih =>
    change (Check.step env (check env fuel) s sc t).node.memberIn? path i = some m at hm
    cases s with
    | anything | scalar _ | oneOf _ | matching _ =>
      change (t.expecting _).memberIn? path i = some m at hm
      rw [Node.memberIn?_expecting] at hm
      exact absurd hm (hleft hblank _)
    | union _ | documented _ _ | switch _ _ | select _ | custom _ _ => exact (hs _ (.self _)).elim
    | named name =>
      rw [Check.step, checkNamed] at hm
      cases hget : env.schemas.get? name with
      | none =>
        rw [hget] at hm
        exact absurd hm (hleft hblank _)
      | some p =>
        rw [hget] at hm
        obtain ⟨levels, keys, fields, hat, hmem⟩ := ih (hs.registered hget) hblank hm
        exact ⟨levels, keys, fields, .named hget hat, hmem⟩
    | array item =>
      cases path with
      | nil =>
        change (checkArray env (check env fuel) item sc t).node.memberAt? (.member i) = some m at hm
        rw [memberAt?_checkArray] at hm
        exact absurd hm (hleft hblank [])
      | cons step path =>
        obtain ⟨v, hv, hm⟩ := Node.exists_child_of_memberIn? hm
        rcases child?_of_array hv with hv | ⟨j, u, rfl, hu, rfl⟩
        · exact absurd hm (hleft (Node.clear_of_child? hblank hv) _)
        · have hitem : item.Straight env.schemas := hs.part (List.mem_singleton_self item)
          obtain ⟨levels, keys, fields, hat, hmem⟩ := ih hitem (Node.clear_of_child? hblank hu) hm
          exact ⟨levels, keys, fields, .item hu hat, hmem⟩
    | object shape =>
      cases shape with
      | keyed keys fields => exact (hs _ (.self _)).elim
      | free =>
        obtain ⟨expected, hnode⟩ := exists_node_checkObject_free env (check env fuel) sc t
        rw [Check.step, hnode, Node.memberIn?_expecting] at hm
        exact absurd hm (hleft hblank _)
      | fixed keys fields =>
        cases path with
        | nil =>
          have hm' : (checkObject env (check env fuel) (.fixed keys fields) sc t).node.memberAt?
            (.member i) = some m := hm
          rcases memberAt?_of_record hm' with hm | ⟨key', hkey', hmem⟩
          · exact absurd hm (hleft hblank [])
          · cases hkey.symm.trans hkey'
            exact ⟨[], keys, fields, .here, hmem⟩
        | cons step path =>
          obtain ⟨v, hv, hm⟩ := Node.exists_child_of_memberIn? hm
          rcases child?_of_record hv with hv | ⟨n, outer, u, hn, houter, hmem, hu, rfl⟩
          · exact absurd hm (hleft (Node.clear_of_child? hblank hv) _)
          · have hvalue : (fields.property outer.text).schema.Straight env.schemas :=
              hs.part (fields.property_mem outer.text)
            have hclear : u.clear = u :=
              Node.clear_of_child? hblank ((Node.child?_of_memberAt? hn).trans hu)
            obtain ⟨levels, keys', fields', hat, hmem'⟩ := ih hvalue hclear hm
            exact ⟨_, keys', fields', .member hn houter hmem hu hat, hmem'⟩

end Rest

section Validation

variable {s : Schema Picker} {root : String} {t : Node} {o : Outcome} {path : Path}
  {levels : List Level} {keys : List String} {fields : Fields (Schema Picker)} {i : Nat}
  {m : Member Node} {key : Key}

/-- The key that a record declares, in a tree that has been validated. -/
theorem Setup.Validates.hover_of_recordAt {u : Setup Picker} (h : u.Validates s root t o)
    (hroot : root ≠ "") (hat : s.RecordAt u.schemas t path levels keys fields)
    (hm : t.memberIn? path i = some m) (hkey : m.key = some key) (hmem : key.text ∈ keys) :
    let p := Level.path root (levels ++ [fields.level key.text])
    ∃ o', u.Ends (fields.property key.text).schema { path := p }
        (Check.valueOrNull key m).clear o' ∧
      o.node.memberIn? path i = some ⟨some { key with hover := some (u.settings.hover p
        o'.node.labels (u.documentation p)) }, m.value.map fun _ => o'.node⟩ := by
  have hat' := hat.congr (Node.clear_clear t).symm
  have hm' : t.clear.memberIn? path i = some (Node.clearMember m) := by
    rw [Node.memberIn?_clear, hm, Option.map_some]
  have hkey' : (Node.clearMember m).key = some key.clear := by
    rw [Node.key_clearMember, hkey, Option.map_some]
  obtain ⟨o', hends, hmember⟩ := Environment.Ends.hover_of_recordAt h hroot hat' hm' hkey' hmem
  rw [Check.valueOrNull_clear] at hends
  rw [Node.value_clearMember, Option.map_map] at hmember
  exact ⟨o', hends, hmember⟩

/-- A key that shows something is declared by a record, in a tree that has been validated against a
straight schema. -/
theorem Setup.Validates.declared_of_hover {u : Setup Picker} (h : u.Validates s root t o)
    (hs : s.Straight u.schemas) (hhover : (o.node.hoverIn? path i).isSome) :
    ∃ levels keys fields m key, s.RecordAt u.schemas t path levels keys fields ∧
      t.memberIn? path i = some m ∧ m.key = some key ∧ key.text ∈ keys := by
  obtain ⟨fuel, rfl, -⟩ := h
  obtain ⟨hover, hhover⟩ := Option.isSome_iff_exists.mp hhover
  obtain ⟨key, hkey, hhover⟩ := Option.bind_eq_some_iff.mp hhover
  obtain ⟨m, hm, hkey⟩ := Option.bind_eq_some_iff.mp hkey
  obtain ⟨levels, keys, fields, hat, hmem⟩ :=
    Check.declared_of_hover hs (Node.clear_clear t) hm hkey hhover
  -- a check keeps the members up to their slots
  have hbefore : (t.memberIn? path i).map Node.clearMember = some (Node.clearMember m) := by
    have hkeeps := Check.check_keeps u.toEnvironment fuel s { path := root } t.clear
    rw [Node.clear_clear] at hkeeps
    rw [← Node.memberIn?_clear, ← hkeeps, Node.memberIn?_clear, hm, Option.map_some]
  obtain ⟨before, hm', hclear⟩ := Option.map_eq_some_iff.mp hbefore
  obtain ⟨key', hkey', htext, -⟩ := Node.exists_key_of_clear hclear hkey
  exact ⟨levels, keys, fields, before, key', hat.congr (Node.clear_clear t), hm', hkey',
    htext ▸ hmem⟩

/-- Over a key that its record does not declare nothing is shown, nor over any key below it. -/
theorem Setup.Validates.hover_eq_none {u : Setup Picker} (h : u.Validates s root t o)
    (hs : s.Straight u.schemas) (hat : s.RecordAt u.schemas t path levels keys fields)
    (hm : t.memberIn? path i = some m) (hkey : m.key = some key) (hmem : key.text ∉ keys) :
    o.node.hoverIn? path i = none ∧ ∀ rest j, o.node.hoverIn? (path ++ .member i :: rest) j = none := by
  constructor
  · by_contra hhover
    obtain ⟨_, _, _, m', key', hat', hm', hkey', hmem'⟩ :=
      h.declared_of_hover hs (Option.isSome_iff_ne_none.mpr hhover)
    cases hm.symm.trans hm'
    cases hkey.symm.trans hkey'
    rw [hat.unique hat'] at hmem
    exact hmem hmem'
  · intro rest j
    by_contra hhover
    obtain ⟨_, _, _, _, _, hat', -⟩ :=
      h.declared_of_hover hs (Option.isSome_iff_ne_none.mpr hhover)
    -- the way to a record below goes through the key, so the record above declares it
    obtain ⟨v, hv, hm⟩ := Option.bind_eq_some_iff.mp hm
    obtain ⟨m', key', hm', hkey', hmem'⟩ := hat.declares hat' hv
    cases hm.symm.trans hm'
    cases hkey.symm.trans hkey'
    exact hmem hmem'

/-- **Documentation paths**: where a tree is validated from a root path that is not empty, against a
schema that is made of leaves, records, arrays and names, each key that a record declares shows the root
path with the levels of all records behind it, from the root down to the key, together with the
documentation there and the labels that its value has in the end. A key without a value shows the labels
of the null node that stands for it. Over a key that its record does not declare nothing is shown, nor
over any key below it, so that the declared keys that come to be checked are all that show something. -/
theorem documentation_paths (u : Setup Picker) {s : Schema Picker} {root : String} (t : Node)
    (hroot : root ≠ "") (hs : s.Straight u.schemas) :
    (Guarded u.schemas → u.Validates s root t (u.validate s root t)) ∧
    ∀ o, u.Validates s root t o →
      (∀ path levels keys fields, s.RecordAt u.schemas t path levels keys fields →
        ∀ i m key, t.memberIn? path i = some m → m.key = some key → key.text ∈ keys →
          let p := Level.path root (levels ++ [fields.level key.text])
          ∃ o', u.Ends (fields.property key.text).schema { path := p }
              (Check.valueOrNull key m).clear o' ∧
            o.node.memberIn? path i = some ⟨some { key with hover := some (u.settings.hover p
              o'.node.labels (u.documentation p)) }, m.value.map fun _ => o'.node⟩) ∧
      (∀ path levels keys fields, s.RecordAt u.schemas t path levels keys fields →
        ∀ i m key, t.memberIn? path i = some m → m.key = some key → key.text ∉ keys →
          o.node.hoverIn? path i = none ∧
          ∀ rest j, o.node.hoverIn? (path ++ .member i :: rest) j = none) ∧
      ∀ path i, (o.node.hoverIn? path i).isSome →
        ∃ levels keys fields m key, s.RecordAt u.schemas t path levels keys fields ∧
          t.memberIn? path i = some m ∧ m.key = some key ∧ key.text ∈ keys := by
  constructor
  · intro hguard
    have hfinished : (u.validate s root t).log.finished = true :=
      finished_check hguard s { path := root } t.clear _ (Nat.le_refl _)
    exact u.validates_validate s root t hfinished
  · intro o h
    refine ⟨?_, ?_, fun path i => h.declared_of_hover hs⟩
    · intro path levels keys fields hat i m key hm hkey hmem
      exact h.hover_of_recordAt hroot hat hm hkey hmem
    · intro path levels keys fields hat i m key hm hkey hmem
      exact h.hover_eq_none hs hat hm hkey hmem

end Validation

/-- A name, and a list of kids, which are documented under a segment of their own. -/
def familyFields : Fields (Schema Picker) :=
  ⟨[("kids", ⟨.array (.named "family"), some { docPath := some "tree" }⟩),
    ("name", ⟨.scalar .string, none⟩)], ⟨.anything, none⟩⟩

/-- A family, whose kids have families. -/
def family : Schema Picker := .object (.fixed ["kids", "name"] familyFields)

def families : Setup Picker where
  schemas := ⟨[("family", family)]⟩

/-- One kid, with a name that is still missing, and with a name below a key that is not declared. -/
def brood : Node :=
  ⟨⟨0, 42⟩, none, .object [⟨some ⟨"kids", ⟨1, 7⟩, none⟩, some ⟨⟨8, 41⟩, none, .array
    [⟨⟨9, 40⟩, none, .object [⟨some ⟨"name", ⟨10, 16⟩, none⟩, none⟩,
      ⟨some ⟨"x", ⟨18, 21⟩, none⟩, some ⟨⟨22, 39⟩, none, .object
        [⟨some ⟨"name", ⟨23, 29⟩, none⟩, some (.null ⟨30, 34⟩)⟩]⟩⟩]⟩]⟩⟩]⟩

theorem straight_family : family.Straight families.schemas := by
  refine Schema.straight_of_closed [family, .array (.named "family"), .named "family",
    .scalar .string, .anything] ?_ ?_ ?_ List.mem_cons_self
  · simp [Schema.Ordinary, family]
  · simp [Schema.parts, family, familyFields, Shape.schemas, Fields.schemas]
  · simp [family, families, Table.get?]

theorem guarded_families : Guarded families.schemas :=
  guarded_of_sealed (List.forall_mem_singleton.mpr (Schema.sealed_object _))

/-- The name that is missing shows a level for each record above it, and the key that is not declared
hides what is below. -/
theorem documentation_paths_brood :
    let o := families.validate family "root" brood
    "root" ≠ "" ∧ family.Straight families.schemas ∧ Guarded families.schemas ∧
      families.Validates family "root" brood o ∧
      o.node.hoverIn? [.member 0, .index 0] 0 =
        some (families.settings.hover "root.tree.kids.name" ["String"] none) ∧
      o.node.hoverIn? [.member 0, .index 0] 1 = none ∧
      o.node.hoverIn? [.member 0, .index 0, .member 1] 0 = none := by
  intro o
  have hroot : "root" ≠ "" := by decide
  obtain ⟨hends, hshown⟩ := documentation_paths families brood hroot straight_family
  have ho := hends guarded_families
  obtain ⟨hdeclared, hundeclared, -⟩ := hshown o ho
  obtain ⟨levels, hat, hlevels⟩ : ∃ levels, family.RecordAt families.schemas brood
      [.member 0, .index 0] levels ["kids", "name"] familyFields ∧
        levels = [⟨some "tree", "kids"⟩] :=
    ⟨_, .member rfl rfl List.mem_cons_self rfl (.item rfl (.named rfl .here)), rfl⟩
  obtain ⟨hx, hbelow⟩ := hundeclared _ _ _ _ hat 1 _ ⟨"x", ⟨18, 21⟩, none⟩ rfl rfl (by decide)
  obtain ⟨o', hends', hmember⟩ :=
    hdeclared _ _ _ _ hat 0 _ ⟨"name", ⟨10, 16⟩, none⟩ rfl rfl (by decide)
  have hname : familyFields.property "name" = ⟨.scalar .string, none⟩ := rfl
  have hlabels : o'.node.labels = ["String"] := by
    rw [hname] at hends'
    obtain rfl := hends'.unique ⟨1, rfl, rfl⟩
    rfl
  refine ⟨hroot, straight_family, guarded_families, ho, ?_, hx, hbelow [] 0⟩
  rw [Node.hoverIn?, hmember, hlabels, hlevels]
  rfl

end DocShape
