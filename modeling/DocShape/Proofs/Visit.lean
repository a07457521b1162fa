import Mathlib.Logic.Relation
import DocShape.Proofs.Fuel
import DocShape.Proofs.Places

/-!
# Where findings come from

A `Visit` is a schema that a node is checked against in some scope. A visit leads to others
(`Visit.Leads`): to the values, keys and items of the node, to the schema that the node is handed on
to, and, from a union, to the alternative that wins. Descriptions are no visits, and neither are
trials. By itself a visit reports what `Visit.Reports` says.

A check that has come to its end has found exactly what the visits report that its first one leads to
(`mem_findings_iff`). One step finds what its own visit reports, and what is found where this visit
leads (`mem_findings_step`); the rest is an induction on the fuel.
-/

namespace DocShape

variable {ε : Type}

/-- The kind that a schema asks for by itself. -/
def Schema.kind? : Schema ε → Option Kind
  | .scalar s => some s.kind
  | .oneOf _ | .matching _ => some .string
  | .object _ | .switch _ _ => some .object
  | .array _ => some .array
  | .anything | .union _ | .named _ | .documented _ _ | .select _ | .custom _ _ => none

/-- A schema that a node is checked against in some scope. -/
structure Visit (ε : Type) where
  /-- The schema. -/
  schema : Schema ε
  /-- The scope. -/
  scope : Scope
  /-- The node, with what was in its slots. -/
  node : Node

/-- What a visit comes to under some run. -/
def Visit.outcome (run : Run ε) (v : Visit ε) : Outcome := run v.schema v.scope v.node

section Visits

variable [CustomCheck ε]

/-- The index of the alternative that a union goes with on a node: with fuel enough for all that is
tried, it has the fewest errors. -/
def Environment.Wins (env : Environment ε) (alternatives : List (Schema ε)) (sc : Scope) (t : Node)
    (index : Nat) : Prop :=
  ∃ fuel, (∀ o ∈ Check.trials (check env fuel) sc alternatives t, o.log.finished = true) ∧
    Check.fewest? (Check.trials (check env fuel) sc alternatives t) = some index

variable [Picking ε]

/-- The visits that a visit leads to. -/
inductive Visit.Leads (env : Environment ε) : Visit ε → Visit ε → Prop
  /-- To the schema that the node is handed on to. -/
  | relay {s : Schema ε} {sc : Scope} {t : Node} {r : Relay ε}
    (h : Check.relay? env sc t s = some r) : Leads env ⟨s, sc, t⟩ ⟨r.schema, r.scope, t⟩
  /-- To the value under a declared key, or the null node that stands for it. -/
  | property {keys : List String} {fields : Fields (Schema ε)} {sc : Scope} {t : Node}
    {members : List (Member Node)} {m : Member Node} {key : Key}
    (hmembers : t.members? = some members) (hm : m ∈ members) (hkey : m.key = some key)
    (hmem : key.text ∈ keys) :
    Leads env ⟨.object (.fixed keys fields), sc, t⟩
      ⟨(fields.property key.text).schema,
        Check.propertyScope (fields.property key.text) key.text sc, Check.valueOrNull key m⟩
  /-- To a key, as a string node. -/
  | key {keys : Schema ε} {fields : Fields (Schema ε)} {sc : Scope} {t : Node}
    {members : List (Member Node)} {m : Member Node} {key : Key}
    (hmembers : t.members? = some members) (hm : m ∈ members) (hkey : m.key = some key) :
    Leads env ⟨.object (.keyed keys fields), sc, t⟩ ⟨keys, sc, key.toNode⟩
  /-- To the value under a key that has a schema. -/
  | value {keys : Schema ε} {fields : Fields (Schema ε)} {sc : Scope} {t : Node}
    {members : List (Member Node)} {m : Member Node} {key : Key} {u : Node}
    (hmembers : t.members? = some members) (hm : m ∈ members) (hkey : m.key = some key)
    (hvalue : m.value = some u) :
    Leads env ⟨.object (.keyed keys fields), sc, t⟩ ⟨(fields.property key.text).schema, sc, u⟩
  /-- To an item of an array. -/
  | item {item : Schema ε} {sc : Scope} {t : Node} {items : List Node} {u : Node}
    (hitems : t.items? = some items) (hu : u ∈ items) :
    Leads env ⟨.array item, sc, t⟩ ⟨item, sc, u⟩
  /-- To the alternative that wins, on the node with its slots emptied. -/
  | winner {alternatives : List (Schema ε)} {sc : Scope} {t : Node} {index : Nat} {best : Schema ε}
    (hbest : alternatives[index]? = some best) (hwins : env.Wins alternatives sc t index) :
    Leads env ⟨.union alternatives, sc, t⟩ ⟨best, sc, t.clear⟩

/-- What a visit reports by itself. -/
inductive Visit.Reports (env : Environment ε) : Visit ε → Finding → Prop
  | wrongKind {s : Schema ε} {sc : Scope} {t : Node} {kind : Kind} (hs : s.kind? = some kind)
    (h : t.kind ≠ kind) : Reports env ⟨s, sc, t⟩ ⟨.wrongKind kind.name t, t.span⟩
  | unexpected {pool : List String} {sc : Scope} {t : Node} {text : String}
    (htext : t.text? = some text) (h : text ∉ pool) :
    Reports env ⟨.oneOf pool, sc, t⟩ ⟨.unexpectedValue text pool, t.span⟩
  | mismatch {pattern : Pattern} {sc : Scope} {t : Node} {text : String}
    (htext : t.text? = some text) (h : pattern.accepts text = false) :
    Reports env ⟨.matching pattern, sc, t⟩ ⟨.patternMismatch text pattern.source, t.span⟩
  | missing {keys : List String} {fields : Fields (Schema ε)} {sc : Scope} {t : Node}
    {members : List (Member Node)} {key : String} (hmembers : t.members? = some members)
    (hkey : key ∈ keys) (habsent : key ∉ Member.keys members)
    (h : (fields.property key).mayBeAbsent = false) :
    Reports env ⟨.object (.fixed keys fields), sc, t⟩ ⟨.missingProperty key, t.span.head⟩
  | unknown {keys : List String} {fields : Fields (Schema ε)} {sc : Scope} {t : Node}
    {members : List (Member Node)} {m : Member Node} {key : Key}
    (hmembers : t.members? = some members) (hm : m ∈ members) (hkey : m.key = some key)
    (h : key.text ∉ keys) :
    Reports env ⟨.object (.fixed keys fields), sc, t⟩ ⟨.unknownProperty key.text, key.span⟩
  | deprecated {keys : List String} {fields : Fields (Schema ε)} {sc : Scope} {t : Node}
    {members : List (Member Node)} {m : Member Node} {key : Key}
    (hmembers : t.members? = some members) (hm : m ∈ members) (hkey : m.key = some key)
    (hmem : key.text ∈ keys) (h : (fields.property key.text).isDeprecated = true) :
    Reports env ⟨.object (.fixed keys fields), sc, t⟩ ⟨.deprecatedProperty key.text, key.span⟩
  | unresolved {name : String} {sc : Scope} {t : Node} (h : env.schemas.get? name = none) :
    Reports env ⟨.named name, sc, t⟩ ⟨.unresolvedReference name, t.span⟩
  /-- What is found when the schema for the node is selected. -/
  | undecided {s : Schema ε} {sc : Scope} {t : Node} {r : Relay ε} {f : Finding}
    (h : Check.relay? env sc t s = some r) (hf : f ∈ r.log.findings) : Reports env ⟨s, sc, t⟩ f

end Visits

namespace Check

/-! ### The members of an object -/

section Member

variable {env : Environment ε} {run : Run ε} {sc : Scope} {f : Finding}

theorem mem_findings_missingLog {keys : List String} {fields : Fields (Schema ε)}
    {members : List (Member Node)} {span : Span} :
    f ∈ (missingLog keys fields members span).findings ↔
      ∃ key ∈ keys, key ∉ Member.keys members ∧ (fields.property key).mayBeAbsent = false ∧
        f = ⟨.missingProperty key, span.head⟩ := by
  simp only [missingLog, List.mem_map, List.mem_filter, Bool.and_eq_true, Bool.not_eq_true',
    List.contains_eq_mem, decide_eq_false_iff_not]
  constructor
  · rintro ⟨key, ⟨hkey, habsent, hrequired⟩, rfl⟩
    exact ⟨key, hkey, habsent, hrequired, rfl⟩
  · rintro ⟨key, hkey, habsent, hrequired, rfl⟩
    exact ⟨key, ⟨hkey, habsent, hrequired⟩, rfl⟩

theorem mem_findings_deprecationLog {p : Property (Schema ε)} {key : Key} :
    f ∈ (deprecationLog p key).findings ↔
      p.isDeprecated = true ∧ f = ⟨.deprecatedProperty key.text, key.span⟩ := by
  unfold deprecationLog
  cases p.isDeprecated with
  | true => simp [Log.report]
  | false => simp

/-- What is found about a member of an object of declared keys. -/
theorem mem_findings_checkDeclared {keys : List String} {fields : Fields (Schema ε)}
    {m : Member Node} :
    f ∈ (checkDeclared env run keys fields sc m).2.findings ↔
      ∃ key, m.key = some key ∧
        ((key.text ∉ keys ∧ f = ⟨.unknownProperty key.text, key.span⟩) ∨
        (key.text ∈ keys ∧ (fields.property key.text).isDeprecated = true ∧
          f = ⟨.deprecatedProperty key.text, key.span⟩) ∨
        (key.text ∈ keys ∧ f ∈ (run (fields.property key.text).schema
          (propertyScope (fields.property key.text) key.text sc)
          (valueOrNull key m)).log.findings)) := by
  obtain ⟨_ | key, value⟩ := m
  · simp [checkDeclared_keyless]
  · by_cases hmem : key.text ∈ keys
    · rw [checkDeclared_of_mem hmem, checkProperty, Log.findings_append, List.mem_append,
        mem_findings_deprecationLog]
      simp [hmem]
    · rw [checkDeclared_of_not_mem hmem]
      simp [hmem, Log.report]

/-- What is found about a member of an object whose keys have a schema. -/
theorem mem_findings_checkKeyed {keys : Schema ε} {fields : Fields (Schema ε)}
    {m : Member Node} :
    f ∈ (checkKeyed run keys fields sc m).2.findings ↔
      ∃ key, m.key = some key ∧ (f ∈ (run keys sc key.toNode).log.findings ∨
        ∃ u, m.value = some u ∧
          f ∈ (run (fields.property key.text).schema sc u).log.findings) := by
  obtain ⟨_ | key, _ | u⟩ := m <;> simp [checkKeyed]

/-- Members are checked one by one. -/
theorem mem_findings_join_map {α : Type} {xs : List α} {check : α → Member Node × Log} :
    f ∈ (Log.join ((xs.map check).map (·.2))).findings ↔ ∃ x ∈ xs, f ∈ (check x).2.findings := by
  rw [Log.findings_join, List.flatMap_map, List.flatMap_map, List.mem_flatMap]

end Member

/-! ### One step -/

section Leaf

variable {t : Node} {f : Finding}

theorem mem_findings_kindLog {kind : Kind} :
    f ∈ (kindLog kind t).findings ↔ t.kind ≠ kind ∧ f = ⟨.wrongKind kind.name t, t.span⟩ := by
  unfold kindLog
  by_cases h : t.kind = kind
  · simp [h]
  · simp [h, Log.report]

theorem mem_findings_textLog {fault? : String → Option Cause} :
    f ∈ (textLog fault? t).findings ↔
      (t.text? = none ∧ f = ⟨.wrongKind Kind.string.name t, t.span⟩) ∨
      ∃ text cause, t.text? = some text ∧ fault? text = some cause ∧ f = ⟨cause, t.span⟩ := by
  unfold textLog
  cases htext : t.text? with
  | none => simp [Log.report]
  | some text =>
    cases hfault : fault? text with
    | none => simp [hfault]
    | some cause => simp [hfault, Log.report]

end Leaf

section Step

variable [CustomCheck ε] [Picking ε] {env : Environment ε} {sc : Scope} {t : Node} {s : Schema ε}
  {f : Finding}

/-- What is neither handed on nor gone into leads nowhere. -/
theorem not_leads_of_alone (hs : ¬ s.Compound) (h : relay? env sc t s = none) (v : Visit ε) :
    ¬ Visit.Leads env ⟨s, sc, t⟩ v := by
  intro hleads
  cases hleads with
  | relay h' => rw [h] at h'; cases h'
  | property _ _ _ _ | key _ _ _ | value _ _ _ _ | item _ _ | winner _ _ => exact hs trivial

/-- A closed set of strings finds what it reports. -/
theorem mem_findings_checkPool {pool : List String} :
    f ∈ (checkPool pool t).log.findings ↔ Visit.Reports env ⟨.oneOf pool, sc, t⟩ f := by
  refine mem_findings_textLog.trans ?_
  constructor
  · rintro (⟨htext, rfl⟩ | ⟨text, cause, htext, hfault, rfl⟩)
    · exact .wrongKind rfl (Node.text?_eq_none_iff.mp htext)
    · split at hfault <;> cases hfault
      next hmem => exact .unexpected htext fun hc => hmem (List.contains_iff_mem.mpr hc)
  · intro hreports
    cases hreports with
    | wrongKind hs' hkind =>
      cases hs'
      exact Or.inl ⟨Node.text?_eq_none_iff.mpr hkind, rfl⟩
    | @unexpected _ _ _ text htext hmem =>
      refine Or.inr ⟨text, _, htext, ?_, rfl⟩
      exact if_neg fun hc => hmem (List.contains_iff_mem.mp hc)
    | undecided h' _ => cases h'

/-- A pattern finds what it reports. -/
theorem mem_findings_checkPattern {pattern : Pattern} :
    f ∈ (checkPattern pattern t).log.findings ↔ Visit.Reports env ⟨.matching pattern, sc, t⟩ f := by
  refine mem_findings_textLog.trans ?_
  constructor
  · rintro (⟨htext, rfl⟩ | ⟨text, cause, htext, hfault, rfl⟩)
    · exact .wrongKind rfl (Node.text?_eq_none_iff.mp htext)
    · split at hfault <;> cases hfault
      next haccepts => exact .mismatch htext (Bool.eq_false_iff.mpr haccepts)
  · intro hreports
    cases hreports with
    | wrongKind hs' hkind =>
      cases hs'
      exact Or.inl ⟨Node.text?_eq_none_iff.mpr hkind, rfl⟩
    | @mismatch _ _ _ text htext haccepts =>
      refine Or.inr ⟨text, _, htext, ?_, rfl⟩
      exact if_neg (Bool.eq_false_iff.mp haccepts)
    | undecided h' _ => cases h'

/-- What is neither handed on nor gone into finds what it reports. -/
theorem mem_findings_alone (hs : ¬ s.Compound) (h : relay? env sc t s = none) :
    f ∈ (alone t s).log.findings ↔ Visit.Reports env ⟨s, sc, t⟩ f := by
  cases s with
  | object _ | array _ | union _ => exact absurd trivial hs
  | documented _ _ | select _ => cases h
  | anything | custom _ _ =>
    constructor
    · intro hf
      cases hf
    · intro hreports
      cases hreports with
      | wrongKind hs' _ => cases hs'
      | undecided h' _ => rw [h] at h'; cases h'
  | scalar scalar =>
    refine mem_findings_kindLog.trans ?_
    constructor
    · rintro ⟨hkind, rfl⟩
      exact .wrongKind rfl hkind
    · intro hreports
      cases hreports with
      | wrongKind hs' hkind =>
        cases hs'
        exact ⟨hkind, rfl⟩
      | undecided h' _ => cases h'
  | oneOf pool => exact mem_findings_checkPool
  | matching pattern => exact mem_findings_checkPattern
  | named name =>
    have hget : env.schemas.get? name = none := Option.map_eq_none_iff.mp h
    refine List.mem_singleton.trans ?_
    constructor
    · rintro rfl
      exact .unresolved hget
    · intro hreports
      cases hreports with
      | wrongKind hs' _ => cases hs'
      | unresolved _ => rfl
      | undecided h' _ => rw [h] at h'; cases h'
  | switch key selector =>
    have hmembers : t.members? = none := Option.map_eq_none_iff.mp h
    refine List.mem_singleton.trans ?_
    constructor
    · rintro rfl
      exact .wrongKind rfl (Node.members?_eq_none_iff.mp hmembers)
    · intro hreports
      cases hreports with
      | wrongKind hs' _ =>
        cases hs'
        rfl
      | undecided h' _ => rw [h] at h'; cases h'

/-- What is found about the members of an object of declared keys is what the object reports, and
what is found where it leads. -/
theorem mem_findings_fixed {members : List (Member Node)} (hmembers : t.members? = some members)
    (run : Run ε) (keys : List String) (fields : Fields (Schema ε)) :
    f ∈ (checkMembers env run sc t.span members (.fixed keys fields)).2.findings ↔
      Visit.Reports env ⟨.object (.fixed keys fields), sc, t⟩ f ∨
        ∃ v, Visit.Leads env ⟨.object (.fixed keys fields), sc, t⟩ v ∧
          f ∈ (v.outcome run).log.findings := by
  simp only [checkMembers, Log.findings_append, List.mem_append, mem_findings_missingLog,
    mem_findings_join_map, mem_findings_checkDeclared]
  constructor
  · rintro (⟨key, hkey, habsent, hrequired, rfl⟩ | ⟨m, hm, key, hkey, hfound⟩)
    · exact Or.inl (.missing hmembers hkey habsent hrequired)
    · rcases hfound with ⟨hmem, rfl⟩ | ⟨hmem, hdeprecated, rfl⟩ | ⟨hmem, hf⟩
      · exact Or.inl (.unknown hmembers hm hkey hmem)
      · exact Or.inl (.deprecated hmembers hm hkey hmem hdeprecated)
      · exact Or.inr ⟨_, .property hmembers hm hkey hmem, hf⟩
  · rintro (hreports | ⟨v, hleads, hf⟩)
    · cases hreports with
      | wrongKind hs h => cases hs; exact absurd (Node.kind_of_members? hmembers) h
      | undecided h _ => cases h
      | missing h hkey habsent hrequired =>
        cases hmembers.symm.trans h
        exact Or.inl ⟨_, hkey, habsent, hrequired, rfl⟩
      | unknown h hm hkey hmem =>
        cases hmembers.symm.trans h
        exact Or.inr ⟨_, hm, _, hkey, Or.inl ⟨hmem, rfl⟩⟩
      | deprecated h hm hkey hmem hdeprecated =>
        cases hmembers.symm.trans h
        exact Or.inr ⟨_, hm, _, hkey, Or.inr (Or.inl ⟨hmem, hdeprecated, rfl⟩)⟩
    · cases hleads with
      | relay h => cases h
      | property h hm hkey hmem =>
        cases hmembers.symm.trans h
        exact Or.inr ⟨_, hm, _, hkey, Or.inr (Or.inr ⟨hmem, hf⟩)⟩

/-- The same of an object whose keys have a schema. -/
theorem mem_findings_keyed {members : List (Member Node)} (hmembers : t.members? = some members)
    (run : Run ε) (keys : Schema ε) (fields : Fields (Schema ε)) :
    f ∈ (checkMembers env run sc t.span members (.keyed keys fields)).2.findings ↔
      Visit.Reports env ⟨.object (.keyed keys fields), sc, t⟩ f ∨
        ∃ v, Visit.Leads env ⟨.object (.keyed keys fields), sc, t⟩ v ∧
          f ∈ (v.outcome run).log.findings := by
  simp only [checkMembers, mem_findings_join_map, mem_findings_checkKeyed]
  constructor
  · rintro ⟨m, hm, key, hkey, hf | ⟨u, hu, hf⟩⟩
    · exact Or.inr ⟨_, .key hmembers hm hkey, hf⟩
    · exact Or.inr ⟨_, .value hmembers hm hkey hu, hf⟩
  · rintro (hreports | ⟨v, hleads, hf⟩)
    · cases hreports with
      | wrongKind hs h => cases hs; exact absurd (Node.kind_of_members? hmembers) h
      | undecided h _ => cases h
    · cases hleads with
      | relay h => cases h
      | key h hm hkey =>
        cases hmembers.symm.trans h
        exact ⟨_, hm, _, hkey, Or.inl hf⟩
      | value h hm hkey hu =>
        cases hmembers.symm.trans h
        exact ⟨_, hm, _, hkey, Or.inr ⟨_, hu, hf⟩⟩

/-- A check of an object finds what it reports, and what is found where it leads. -/
theorem mem_findings_checkObject (run : Run ε) (shape : Shape (Schema ε)) :
    f ∈ (checkObject env run shape sc t).log.findings ↔
      Visit.Reports env ⟨.object shape, sc, t⟩ f ∨
        ∃ v, Visit.Leads env ⟨.object shape, sc, t⟩ v ∧ f ∈ (v.outcome run).log.findings := by
  cases hmembers : t.members? with
  | none =>
    rw [checkObject_of_none hmembers, Log.findings_append, findings_describeShape, List.nil_append,
      Log.report, List.mem_singleton]
    constructor
    · rintro rfl
      exact Or.inl (.wrongKind rfl (Node.members?_eq_none_iff.mp hmembers))
    · rintro (hreports | ⟨v, hleads, _⟩)
      · cases hreports with
        | wrongKind hs _ => cases hs; rfl
        | undecided h _ => cases h
        | missing h _ _ _ | unknown h _ _ _ | deprecated h _ _ _ _ => rw [hmembers] at h; cases h
      · cases hleads with
        | relay h => cases h
        | property h _ _ _ | key h _ _ | value h _ _ _ => rw [hmembers] at h; cases h
  | some members =>
    rw [checkObject_of_members hmembers, Log.findings_append, findings_describeShape,
      List.nil_append]
    cases shape with
    | fixed keys fields => exact mem_findings_fixed hmembers run keys fields
    | keyed keys fields => exact mem_findings_keyed hmembers run keys fields
    | free =>
      constructor
      · intro hf
        cases hf
      · rintro (hreports | ⟨v, hleads, _⟩)
        · cases hreports with
          | wrongKind hs h => cases hs; exact absurd (Node.kind_of_members? hmembers) h
          | undecided h _ => cases h
        · cases hleads with
          | relay h => cases h

/-- A check of an array finds what it reports, and what is found where it leads. -/
theorem mem_findings_checkArray (run : Run ε) (item : Schema ε) :
    f ∈ (checkArray env run item sc t).log.findings ↔
      Visit.Reports env ⟨.array item, sc, t⟩ f ∨
        ∃ v, Visit.Leads env ⟨.array item, sc, t⟩ v ∧ f ∈ (v.outcome run).log.findings := by
  cases hitems : t.items? with
  | none =>
    rw [checkArray_of_none hitems, Log.findings_append, findings_describePart, List.nil_append,
      Log.report, List.mem_singleton]
    constructor
    · rintro rfl
      exact Or.inl (.wrongKind rfl (Node.items?_eq_none_iff.mp hitems))
    · rintro (hreports | ⟨v, hleads, _⟩)
      · cases hreports with
        | wrongKind hs _ => cases hs; rfl
        | undecided h _ => cases h
      · cases hleads with
        | relay h => cases h
        | item h _ => rw [hitems] at h; cases h
  | some items =>
    have hkind : t.kind = .array := Node.kind_of_items? hitems
    rw [checkArray_of_items hitems, Log.findings_append, findings_describePart, List.nil_append,
      Log.findings_join, List.map_map, List.mem_flatMap]
    simp only [List.mem_map]
    constructor
    · rintro ⟨_, ⟨u, hu, rfl⟩, hf⟩
      exact Or.inr ⟨_, .item hitems hu, hf⟩
    · rintro (hreports | ⟨v, hleads, hf⟩)
      · cases hreports with
        | wrongKind hs h => cases hs; exact absurd hkind h
        | undecided h _ => cases h
      · cases hleads with
        | relay h => cases h
        | item h hu =>
          cases hitems.symm.trans h
          exact ⟨_, ⟨_, hu, rfl⟩, hf⟩

/-! ### Alternatives -/

/-- With fuel enough for all that is tried, the alternative that wins is the one chosen. -/
theorem wins_iff {fuel : Nat} {alternatives : List (Schema ε)} {index : Nat}
    (hfinished : ∀ o ∈ trials (check env fuel) sc alternatives t, o.log.finished = true) :
    env.Wins alternatives sc t index ↔
      fewest? (trials (check env fuel) sc alternatives t) = some index := by
  constructor
  · rintro ⟨fuel', hfinished', hindex⟩
    have hmax := trials_extends (check_extends env (Nat.le_max_left fuel fuel')) hfinished
    have hmax' := trials_extends (check_extends env (Nat.le_max_right fuel fuel')) hfinished'
    rw [← hmax, hmax', hindex]
  · intro hindex
    exact ⟨fuel, hfinished, hindex⟩

/-- A check of alternatives that has come to its end finds what is found where it leads. -/
theorem mem_findings_checkUnion {fuel : Nat} {alternatives : List (Schema ε)}
    (hfinished : (checkUnion (check env fuel) alternatives sc t).log.finished = true) :
    f ∈ (checkUnion (check env fuel) alternatives sc t).log.findings ↔
      Visit.Reports env ⟨.union alternatives, sc, t⟩ f ∨
        ∃ v, Visit.Leads env ⟨.union alternatives, sc, t⟩ v ∧
          f ∈ (v.outcome (check env fuel)).log.findings := by
  have hnone : ¬ Visit.Reports env ⟨.union alternatives, sc, t⟩ f := by
    intro hreports
    cases hreports with
    | wrongKind hs _ => cases hs
    | undecided h _ => cases h
  rcases checkUnion_cases (check_keeps env fuel) alternatives sc t with
    ⟨rfl, heq⟩ | ⟨index, best, hbest, hindex, _⟩
  · rw [heq]
    constructor
    · intro hf
      cases hf
    · rintro (hreports | ⟨v, hleads, _⟩)
      · exact absurd hreports hnone
      · cases hleads with
        | relay h => cases h
        | winner hbest _ => cases hbest
  · obtain ⟨htried, -⟩ := (finished_chosen_iff (check_keeps env fuel) hbest hindex).mp hfinished
    rw [findings_chosen (check_keeps env fuel) hbest hindex]
    constructor
    · intro hf
      have hwins : env.Wins alternatives sc t index := (wins_iff htried).mpr hindex
      exact Or.inr ⟨_, .winner hbest hwins, hf⟩
    · rintro (hreports | ⟨v, hleads, hf⟩)
      · exact absurd hreports hnone
      · cases hleads with
        | relay h => cases h
        | winner hbest' hwins =>
          have hindex' := (wins_iff htried).mp hwins
          cases hindex.symm.trans hindex'
          cases hbest.symm.trans hbest'
          exact hf

/-! ### Every schema -/

/-- A node that is handed on is of the kind that is asked for. -/
theorem kind_of_relay {r : Relay ε} {kind : Kind} (h : relay? env sc t s = some r)
    (hs : s.kind? = some kind) : t.kind = kind := by
  cases s with
  | scalar _ | oneOf _ | matching _ | object _ | array _ => cases h
  | anything | union _ | named _ | documented _ _ | select _ | custom _ _ => cases hs
  | switch key selector =>
    cases hs
    obtain ⟨members, hmembers, -⟩ := Option.map_eq_some_iff.mp h
    exact Node.kind_of_members? hmembers

/-- **One step** that has come to its end finds what its visit reports, and what is found where the
visit leads. -/
theorem mem_findings_step {fuel : Nat}
    (hfinished : (Check.step env (check env fuel) s sc t).log.finished = true) :
    f ∈ (Check.step env (check env fuel) s sc t).log.findings ↔
      Visit.Reports env ⟨s, sc, t⟩ f ∨
        ∃ v, Visit.Leads env ⟨s, sc, t⟩ v ∧ f ∈ (v.outcome (check env fuel)).log.findings := by
  cases way env sc t s with
  | relay hrelay =>
    rw [step_of_relay hrelay, Outcome.log_after, Log.findings_append, List.mem_append]
    constructor
    · rintro (hf | hf)
      · exact Or.inl (.undecided hrelay hf)
      · exact Or.inr ⟨_, .relay hrelay, hf⟩
    · rintro (hreports | ⟨v, hleads, hf⟩)
      · cases hreports with
        | wrongKind hs h => exact absurd (kind_of_relay hrelay hs) h
        | undecided h hf =>
          cases hrelay.symm.trans h
          exact Or.inl hf
        | unresolved h =>
          have hnone : relay? env sc t (.named _) = none := Option.map_eq_none_iff.mpr h
          rw [hnone] at hrelay
          cases hrelay
        | unexpected _ _ | mismatch _ _ | missing _ _ _ _ | unknown _ _ _ _
        | deprecated _ _ _ _ _ => cases hrelay
      · cases hleads with
        | relay h =>
          cases hrelay.symm.trans h
          exact Or.inr hf
        | property _ _ _ _ | key _ _ _ | value _ _ _ _ | item _ _ | winner _ _ => cases hrelay
  | alone hs hrelay =>
    rw [step_of_alone hs hrelay, mem_findings_alone hs hrelay]
    constructor
    · exact Or.inl
    · rintro (hreports | ⟨v, hleads, _⟩)
      · exact hreports
      · exact absurd hleads (not_leads_of_alone hs hrelay v)
  | object shape => exact mem_findings_checkObject (check env fuel) shape
  | array item => exact mem_findings_checkArray (check env fuel) item
  | union alternatives => exact mem_findings_checkUnion hfinished

/-- A step that has come to its end has come to the end of all that it leads to. -/
theorem finished_of_leads {fuel : Nat} {v : Visit ε}
    (hfinished : (Check.step env (check env fuel) s sc t).log.finished = true)
    (hleads : Visit.Leads env ⟨s, sc, t⟩ v) :
    (v.outcome (check env fuel)).log.finished = true := by
  cases hleads with
  | relay hrelay =>
    rw [step_of_relay hrelay] at hfinished
    exact Log.finished_right hfinished
  | property hmembers hm hkey hmem =>
    rw [Check.step, checkObject_of_members hmembers] at hfinished
    have hchecked := Log.finished_right hfinished
    rw [joint_checkMembers_fixed Log.joint_finished] at hchecked
    exact hchecked.2 _ hm _ hkey hmem
  | key hmembers hm hkey =>
    rw [Check.step, checkObject_of_members hmembers] at hfinished
    have hchecked := Log.finished_right hfinished
    rw [joint_checkMembers_keyed Log.joint_finished] at hchecked
    exact (hchecked _ hm _ hkey).1
  | value hmembers hm hkey hu =>
    rw [Check.step, checkObject_of_members hmembers] at hfinished
    have hchecked := Log.finished_right hfinished
    rw [joint_checkMembers_keyed Log.joint_finished] at hchecked
    exact (hchecked _ hm _ hkey).2 _ hu
  | item hitems hu =>
    rw [Check.step, checkArray_of_items hitems] at hfinished
    have hchecked := Log.finished_right hfinished
    rw [Log.joint_finished.join_iff, List.map_map, List.forall_mem_map] at hchecked
    exact hchecked _ hu
  | @winner alternatives _ _ index best hbest hwins =>
    rcases checkUnion_cases (check_keeps env fuel) alternatives sc t with
      ⟨rfl, _⟩ | ⟨index', best', hbest', hindex', _⟩
    · cases hbest
    · obtain ⟨htried, hchosen, -⟩ :=
        (finished_chosen_iff (check_keeps env fuel) hbest' hindex').mp hfinished
      have hindex := (wins_iff htried).mp hwins
      cases hindex.symm.trans hindex'
      cases hbest.symm.trans hbest'
      exact hchosen

end Step

end Check

/-- **Where findings come from**: a check that has come to its end has found what the visits report
that its first visit leads to, and nothing else. -/
theorem mem_findings_iff [CustomCheck ε] [Picking ε] (env : Environment ε) (fuel : Nat)
    (v : Visit ε) (hfinished : (v.outcome (check env fuel)).log.finished = true) (f : Finding) :
    f ∈ (v.outcome (check env fuel)).log.findings ↔
      ∃ w, Relation.ReflTransGen (Visit.Leads env) v w ∧ w.Reports env f := by
  induction fuel generalizing v with
  | zero => cases hfinished
  | succ fuel ih =>
    have hstep := Log.finished_right hfinished
    have hfound : f ∈ (v.outcome (check env (fuel + 1))).log.findings ↔
        v.Reports env f ∨ ∃ w, v.Leads env w ∧ f ∈ (w.outcome (check env fuel)).log.findings :=
      Check.mem_findings_step hstep
    rw [hfound]
    constructor
    · rintro (hreports | ⟨w, hleads, hf⟩)
      · exact ⟨v, .refl, hreports⟩
      · have hend := Check.finished_of_leads hstep hleads
        obtain ⟨x, hpath, hreports⟩ := (ih w hend).mp hf
        exact ⟨x, .head hleads hpath, hreports⟩
    · rintro ⟨x, hpath, hreports⟩
      rcases hpath.cases_head with rfl | ⟨w, hleads, hrest⟩
      · exact Or.inl hreports
      · have hend := Check.finished_of_leads hstep hleads
        exact Or.inr ⟨w, hleads, (ih w hend).mpr ⟨x, hrest, hreports⟩⟩

end DocShape
