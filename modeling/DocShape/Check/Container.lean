import DocShape.Check.Outcome
import DocShape.Editor.Signature

/-!
# Checking objects and arrays

A container first says what it expects, its parts described as far as the scope allows, and then
goes through what the node holds in the order in which it is written. Under a declared key the value
is checked one segment further down the documentation path, and the key gets its hover. A value that
is not there yet is checked as a null node, so that it has a hover, too.

One level of a check is read back from what the node holds (`Check.checkObject_of_members`,
`Check.checkArray_of_items`); describing finds nothing (`Check.findings_describeShape`).
-/

namespace DocShape.Check

variable {ε : Type}

/-! ### What is expected of an object -/

/-- The field of an expected object for a declared key. -/
def fieldOf (key : String) (p : Property (Schema ε)) (d : Description) : Field Expectation where
  key := key
  value := d.expected
  optional := p.mayBeAbsent
  deprecated := p.isDeprecated

/-- What is expected of an object of some shape. -/
def describeShape (run : Run ε) (settings : Settings) (sc : Scope) :
    Shape (Schema ε) → Expectation × Log
  | .free => (.object, {})
  | .fixed keys fields =>
    if sc.Describes settings then
      let described := keys.map fun key => (key, describe run (fields.property key).schema sc)
      ({ Expectation.object with
          fields := some (described.map fun row => fieldOf row.1 (fields.property row.1) row.2) },
        .join (described.map (·.2.log)))
    else (.object, {})
  | .keyed keys _ =>
    let d := describePart run settings keys sc
    ({ Expectation.object with keys := d.expected }, d.log)

/-! ### The members of an object -/

/-- The findings about keys that an object of declared keys lacks: one for each declaration of a key
that no member has and that may not be absent. -/
def missingLog (keys : List String) (fields : Fields (Schema ε)) (members : List (Member Node))
    (span : Span) : Log where
  findings := (keys.filter fun key =>
      !(Member.keys members).contains key && !(fields.property key).mayBeAbsent).map
    fun key => ⟨.missingProperty key, span.head⟩

/-- The scope of the value under a declared key. -/
def propertyScope (p : Property (Schema ε)) (key : String) (sc : Scope) : Scope :=
  (p.docPath?.elim sc sc.descend).descend key

/-- The log of a deprecated key that is used. -/
def deprecationLog (p : Property (Schema ε)) (key : Key) : Log :=
  if p.isDeprecated then .report (.deprecatedProperty key.text) key.span else {}

/-- The node that stands for the value of a member: a null node at the end of the key where there is
no value yet. -/
def valueOrNull (key : Key) (m : Member Node) : Node :=
  m.value.getD (Node.null (Span.point key.span.stop))

/-- A member with its value checked and its key's hover made from what is expected of the value. -/
def checkProperty (env : Environment ε) (run : Run ε) (p : Property (Schema ε)) (sc : Scope)
    (key : Key) (m : Member Node) : Member Node × Log :=
  let sc := propertyScope p key.text sc
  let o := run p.schema sc (valueOrNull key m)
  let hover := env.settings.hover sc.path o.node.labels (env.documentation sc.path)
  ({ key := some { key with hover := some hover }, value := m.value.map fun _ => o.node },
    deprecationLog p key ++ o.log)

/-- A member of an object of declared keys. -/
def checkDeclared (env : Environment ε) (run : Run ε) (keys : List String)
    (fields : Fields (Schema ε)) (sc : Scope) (m : Member Node) : Member Node × Log :=
  match m.key with
  | none => (m, {})
  | some key =>
    if keys.contains key.text then
      checkProperty env run (fields.property key.text) sc key m
    else (m, .report (.unknownProperty key.text) key.span)

section Declared

variable {env : Environment ε} {run : Run ε} {keys : List String} {fields : Fields (Schema ε)}
  {sc : Scope} {key : Key} {value : Option Node}

/-- A member without a key is left alone. -/
theorem checkDeclared_keyless : checkDeclared env run keys fields sc ⟨none, value⟩ =
    (⟨none, value⟩, {}) := rfl

/-- A member with a declared key is checked as a property. -/
theorem checkDeclared_of_mem (h : key.text ∈ keys) :
    checkDeclared env run keys fields sc ⟨some key, value⟩ =
      checkProperty env run (fields.property key.text) sc key ⟨some key, value⟩ :=
  if_pos (List.contains_iff_mem.mpr h)

/-- A member with any other key is left alone and reported. -/
theorem checkDeclared_of_not_mem (h : key.text ∉ keys) :
    checkDeclared env run keys fields sc ⟨some key, value⟩ =
      (⟨some key, value⟩, .report (.unknownProperty key.text) key.span) :=
  if_neg fun hc => h (List.contains_iff_mem.mp hc)

end Declared

/-- A member of an object whose keys have a schema. -/
def checkKeyed (run : Run ε) (keys : Schema ε) (fields : Fields (Schema ε)) (sc : Scope)
    (m : Member Node) : Member Node × Log :=
  match m.key with
  | none => (m, {})
  | some key =>
    let keyLog := (run keys sc key.toNode).log
    match m.value with
    | none => (m, keyLog)
    | some t =>
      let o := run (fields.property key.text).schema sc t
      ({ m with value := some o.node }, keyLog ++ o.log)

/-- The members of an object of some shape, and what was found about them. -/
def checkMembers (env : Environment ε) (run : Run ε) (sc : Scope) (span : Span)
    (members : List (Member Node)) : Shape (Schema ε) → List (Member Node) × Log
  | .free => (members, {})
  | .fixed keys fields =>
    let checked := members.map (checkDeclared env run keys fields sc)
    (checked.map (·.1), missingLog keys fields members span ++ .join (checked.map (·.2)))
  | .keyed keys fields =>
    let checked := members.map (checkKeyed run keys fields sc)
    (checked.map (·.1), .join (checked.map (·.2)))

/-- An object of some shape. -/
def checkObject (env : Environment ε) (run : Run ε) (shape : Shape (Schema ε)) (sc : Scope)
    (t : Node) : Outcome :=
  let d := describeShape run env.settings sc shape
  match t.body with
  | .object members =>
    let checked := checkMembers env run sc t.span members shape
    ⟨{ t with expectation := some [d.1], body := .object checked.1 }, d.2 ++ checked.2⟩
  | _ => ⟨t.expecting [d.1], d.2 ++ .report (.wrongKind Kind.object.name t) t.span⟩

/-! ### Arrays -/

/-- An array whose items fit a schema. -/
def checkArray (env : Environment ε) (run : Run ε) (item : Schema ε) (sc : Scope) (t : Node) :
    Outcome :=
  let d := describePart run env.settings item sc
  let expected := { Expectation.array with items := d.expected }
  match t.body with
  | .array items =>
    let checked := items.map (run item sc)
    ⟨{ t with expectation := some [expected], body := .array (checked.map (·.node)) },
      d.log ++ .join (checked.map (·.log))⟩
  | _ => ⟨t.expecting [expected], d.log ++ .report (.wrongKind Kind.array.name t) t.span⟩

/-! ### One level of a node -/

section Level

variable {env : Environment ε} {run : Run ε} {sc : Scope} {t : Node}

/-- An object is described, and its members are gone through. -/
theorem checkObject_of_members {members : List (Member Node)} (h : t.members? = some members)
    (shape : Shape (Schema ε)) :
    checkObject env run shape sc t =
      ⟨{ t with
          expectation := some [(describeShape run env.settings sc shape).1],
          body := .object (checkMembers env run sc t.span members shape).1 },
        (describeShape run env.settings sc shape).2 ++
          (checkMembers env run sc t.span members shape).2⟩ := by
  obtain ⟨span, expectation, body⟩ := t
  cases body with
  | object members' =>
    cases h
    rfl
  | array _ | string _ | number _ | boolean _ | null => cases h

/-- What is no object is of the wrong kind. -/
theorem checkObject_of_none (h : t.members? = none) (shape : Shape (Schema ε)) :
    checkObject env run shape sc t =
      ⟨t.expecting [(describeShape run env.settings sc shape).1],
        (describeShape run env.settings sc shape).2 ++
          .report (.wrongKind Kind.object.name t) t.span⟩ := by
  obtain ⟨span, expectation, body⟩ := t
  cases body with
  | object members => cases h
  | array _ | string _ | number _ | boolean _ | null => rfl

/-- An array is described, and its items are gone through. -/
theorem checkArray_of_items {items : List Node} (h : t.items? = some items) (item : Schema ε) :
    checkArray env run item sc t =
      let d := describePart run env.settings item sc
      ⟨{ t with
          expectation := some [{ Expectation.array with items := d.expected }],
          body := .array ((items.map (run item sc)).map (·.node)) },
        d.log ++ .join ((items.map (run item sc)).map (·.log))⟩ := by
  obtain ⟨span, expectation, body⟩ := t
  cases body with
  | array items' =>
    cases h
    rfl
  | object _ | string _ | number _ | boolean _ | null => cases h

/-- What is no array is of the wrong kind. -/
theorem checkArray_of_none (h : t.items? = none) (item : Schema ε) :
    checkArray env run item sc t =
      let d := describePart run env.settings item sc
      ⟨t.expecting [{ Expectation.array with items := d.expected }],
        d.log ++ .report (.wrongKind Kind.array.name t) t.span⟩ := by
  obtain ⟨span, expectation, body⟩ := t
  cases body with
  | array items => cases h
  | object _ | string _ | number _ | boolean _ | null => rfl

end Level

/-! ### Descriptions find nothing -/

theorem findings_describePart (run : Run ε) (settings : Settings) (sc : Scope) (s : Schema ε) :
    (describePart run settings s sc).log.findings = [] := by
  unfold describePart
  split <;> rfl

/-- Describing a shape finds nothing. -/
theorem findings_describeShape (run : Run ε) (settings : Settings) (sc : Scope)
    (shape : Shape (Schema ε)) : (describeShape run settings sc shape).2.findings = [] := by
  cases shape with
  | free => rfl
  | fixed keys fields =>
    by_cases hdescribes : sc.Describes settings
    · simp only [describeShape, if_pos hdescribes]
      apply Log.findings_join_eq_nil
      simp only [List.map_map, List.forall_mem_map]
      intro key _
      rfl
    · simp only [describeShape, if_neg hdescribes]
  | keyed keys fields => exact findings_describePart run settings sc keys

end DocShape.Check
