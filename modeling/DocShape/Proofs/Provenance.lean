import DocShape.Proofs.Visit

/-!
# The places of findings

Every finding of a validation is reported by a visit that the run leads to, and so stands at a place
of the tree: at the head of an object, at a key, at a node, or behind a key without a value
(`Node.Anchors`). Visits stay on what the tree offers (`Node.Offers`): its own nodes, its keys as
strings, and null nodes behind keys that have no value. So nothing is ever found on the placeholder
that schemas describe themselves on, and a trial that loses leaves no finding.

In a tree whose spans are nested, every diagnostic therefore lies in the span of the tree
(`report_provenance`).
-/

namespace DocShape

/-! ### Where a visit can be -/

namespace Node

/-- The nodes that can be checked in the course of checking a tree. -/
inductive Offers (t : Node) : Node → Prop
  /-- The nodes of the tree, whatever has been left in their slots. -/
  | held {u v : Node} (hu : t.Holds u) (h : v.clear = u.clear) : Offers t v
  /-- The keys of the tree, as string nodes. -/
  | key {m : Member Node} {key : Key} {v : Node} (hm : t.HoldsMember m) (hkey : m.key = some key)
    (h : v.clear = key.toNode) : Offers t v
  /-- The null nodes that stand behind keys without a value. -/
  | unwritten {m : Member Node} {key : Key} {v : Node} (hm : t.HoldsMember m)
    (hkey : m.key = some key) (hvalue : m.value = none)
    (h : v.clear = Node.null (.point key.span.stop)) : Offers t v

/-- The places of a tree at which something can be found: a missing property or marker at the head
of an object, a fault of a key at the key, and any other fault at a node, at a key, or behind a key
that has no value. -/
def Anchors (t : Node) (span : Span) : Cause → Prop
  | .missingProperty _ | .missingDiscriminant _ =>
    ∃ u, t.Holds u ∧ u.kind = .object ∧ span = u.span.head
  | .unknownProperty property | .deprecatedProperty property =>
    ∃ m key, t.HoldsMember m ∧ m.key = some key ∧ key.text = property ∧ span = key.span
  | .typeMismatch .. | .unexpectedValue .. | .patternMismatch .. | .unresolvedReference _ =>
    (∃ u, t.Holds u ∧ span = u.span) ∨
    ∃ m key, t.HoldsMember m ∧ m.key = some key ∧
      (span = key.span ∨ (m.value = none ∧ span = .point key.span.stop))

variable {t v : Node}

/-- What is offered does not hang on slots. -/
theorem Offers.of_clear {w : Node} (h : t.Offers v) (hw : w.clear = v.clear) : t.Offers w := by
  cases h with
  | held hu hv => exact .held hu (hw.trans hv)
  | key hm hkey hv => exact .key hm hkey (hw.trans hv)
  | unwritten hm hkey hvalue hv => exact .unwritten hm hkey hvalue (hw.trans hv)

/-- The span of what is offered is a place for faults of a node. -/
theorem Offers.span (h : t.Offers v) :
    (∃ u, t.Holds u ∧ v.span = u.span) ∨
    ∃ m key, t.HoldsMember m ∧ m.key = some key ∧
      (v.span = key.span ∨ (m.value = none ∧ v.span = .point key.span.stop)) := by
  cases h with
  | held hu hv =>
    refine Or.inl ⟨_, hu, ?_⟩
    have hspan := congrArg Node.span hv
    rwa [span_clear, span_clear] at hspan
  | @key m key _ hm hkey hv =>
    refine Or.inr ⟨m, key, hm, hkey, Or.inl ?_⟩
    have hspan := congrArg Node.span hv
    rwa [span_clear] at hspan
  | @unwritten m key _ hm hkey hvalue hv =>
    refine Or.inr ⟨m, key, hm, hkey, Or.inr ⟨hvalue, ?_⟩⟩
    have hspan := congrArg Node.span hv
    rwa [span_clear] at hspan

/-- Only nodes of the tree are objects. -/
theorem Offers.object (h : t.Offers v) (hkind : v.kind = .object) :
    ∃ u, t.Holds u ∧ v.clear = u.clear := by
  cases h with
  | held hu hv => exact ⟨_, hu, hv⟩
  | key hm hkey hv | unwritten hm hkey hvalue hv =>
    have hkind' := congrArg Node.kind hv
    rw [kind_clear, hkind] at hkind'
    cases hkind'

/-- Only nodes of the tree are arrays. -/
theorem Offers.array (h : t.Offers v) (hkind : v.kind = .array) :
    ∃ u, t.Holds u ∧ v.clear = u.clear := by
  cases h with
  | held hu hv => exact ⟨_, hu, hv⟩
  | key hm hkey hv | unwritten hm hkey hvalue hv =>
    have hkind' := congrArg Node.kind hv
    rw [kind_clear, hkind] at hkind'
    cases hkind'

/-- The members of an object that is offered are members of the tree, up to slots. -/
theorem Offers.member {members : List (Member Node)} {m : Member Node} (h : t.Offers v)
    (hmembers : v.members? = some members) (hm : m ∈ members) :
    ∃ m', t.HoldsMember m' ∧ clearMember m' = clearMember m := by
  obtain ⟨u, hu, hclear⟩ := h.object (kind_of_members? hmembers)
  obtain ⟨members', m', hmembers', hm', hsame⟩ := exists_member_of_clear hclear hmembers hm
  exact ⟨m', ⟨u, members', hu, hmembers', hm'⟩, hsame⟩

/-- The value of a member is offered, and so is the null node that stands for a value that is not
there. -/
theorem Offers.valueOrNull {members : List (Member Node)} {m : Member Node} {key : Key}
    (h : t.Offers v) (hmembers : v.members? = some members) (hm : m ∈ members)
    (hkey : m.key = some key) : t.Offers (Check.valueOrNull key m) := by
  obtain ⟨m', hm', hsame⟩ := h.member hmembers hm
  unfold Check.valueOrNull
  cases hvalue : m.value with
  | some u =>
    obtain ⟨u', hu', hclear⟩ := exists_value_of_clear hsame hvalue
    exact .held (hm'.value hu') hclear.symm
  | none =>
    obtain ⟨key', hkey', -, hspan⟩ := exists_key_of_clear hsame hkey
    refine .unwritten hm' hkey' (value_eq_none_of_clear hsame hvalue) ?_
    rw [hspan]
    rfl

end Node

section Visits

variable {ε : Type} [CustomCheck ε] [Picking ε] {env : Environment ε} {v w : Visit ε} {t : Node}
  {f : Finding}

/-- **One step** of a visit stays on what the tree offers. -/
theorem Visit.Leads.offers (hleads : v.Leads env w) (h : t.Offers v.node) : t.Offers w.node := by
  cases hleads with
  | relay _ => exact h
  | property hmembers hm hkey _ => exact h.valueOrNull hmembers hm hkey
  | key hmembers hm hkey =>
    obtain ⟨m', hm', hsame⟩ := h.member hmembers hm
    obtain ⟨key', hkey', htext, hspan⟩ := Node.exists_key_of_clear hsame hkey
    refine .key hm' hkey' ?_
    rw [Node.clear_toNode, Key.toNode, Key.toNode, htext, hspan]
  | value hmembers hm _ hvalue =>
    obtain ⟨m', hm', hsame⟩ := h.member hmembers hm
    obtain ⟨u', hu', hclear⟩ := Node.exists_value_of_clear hsame hvalue
    exact .held (hm'.value hu') hclear.symm
  | item hitems hu =>
    obtain ⟨u', hu', hclear⟩ := h.array (Node.kind_of_items? hitems)
    obtain ⟨items', x, hitems', hx, hsame⟩ := Node.exists_item_of_clear hclear hitems hu
    obtain ⟨step, hstep⟩ := Node.child?_of_mem_items hitems' hx
    exact .held (hu'.trans (Node.holds_child hstep)) hsame.symm
  | winner _ _ => exact h.of_clear (Node.clear_clear _)

/-- All that a visit leads to stays on what the tree offers. -/
theorem Visit.offers_of_leads (hpath : Relation.ReflTransGen (Visit.Leads env) v w)
    (h : t.Offers v.node) : t.Offers w.node := by
  induction hpath with
  | refl => exact h
  | tail _ hleads ih => exact hleads.offers ih

/-- What a visit reports stands at a place of the tree. -/
theorem Visit.Reports.anchors (hreports : v.Reports env f) (h : t.Offers v.node) :
    t.Anchors f.span f.cause := by
  cases hreports with
  | wrongKind _ _ | unexpected _ _ | mismatch _ _ | unresolved _ => exact h.span
  | missing hmembers _ _ _ =>
    obtain ⟨u, hu, hclear⟩ := h.object (Node.kind_of_members? hmembers)
    have hspan := congrArg Node.span hclear
    have hkind := congrArg Node.kind hclear
    rw [Node.span_clear, Node.span_clear] at hspan
    rw [Node.kind_clear, Node.kind_clear] at hkind
    refine ⟨u, hu, hkind.symm.trans (Node.kind_of_members? hmembers), ?_⟩
    exact congrArg Span.head hspan
  | unknown hmembers hm hkey _ | deprecated hmembers hm hkey _ _ =>
    obtain ⟨m', hm', hsame⟩ := h.member hmembers hm
    obtain ⟨key', hkey', htext, hspan⟩ := Node.exists_key_of_clear hsame hkey
    exact ⟨m', key', hm', hkey', htext, hspan.symm⟩
  | undecided hrelay hf =>
    obtain ⟨hkind, candidates, rfl⟩ := Check.isUndecided_of_relay hrelay hf
    obtain ⟨u, hu, hclear⟩ := h.object hkind
    have hspan := congrArg Node.span hclear
    have hkind' := congrArg Node.kind hclear
    rw [Node.span_clear, Node.span_clear] at hspan
    rw [Node.kind_clear, Node.kind_clear] at hkind'
    exact ⟨u, hu, hkind'.symm.trans hkind, congrArg Span.head hspan⟩

end Visits

/-- In a nested tree, every place lies in the span of the tree. -/
theorem Node.Nested.within_of_anchors {t : Node} {span : Span} {cause : Cause} (h : t.Nested)
    (hanchors : t.Anchors span cause) : span.Within t.span := by
  have hhead : ∀ u, t.Holds u → u.kind = .object → u.span.head.Within t.span := by
    intro u hu hkind
    have hinner := Span.within_head (h.object hu hkind)
    exact hinner.trans (h.within hu)
  cases cause with
  | missingProperty _ | missingDiscriminant _ =>
    obtain ⟨u, hu, hkind, rfl⟩ := hanchors
    exact hhead u hu hkind
  | unknownProperty _ | deprecatedProperty _ =>
    obtain ⟨m, key, hm, hkey, -, rfl⟩ := hanchors
    exact h.within_key hm hkey
  | typeMismatch _ _ | unexpectedValue _ _ | patternMismatch _ _ | unresolvedReference _ =>
    rcases hanchors with ⟨u, hu, rfl⟩ | ⟨m, key, hm, hkey, rfl | ⟨-, rfl⟩⟩
    · exact h.within hu
    · exact h.within_key hm hkey
    · have hinner := Span.within_point_stop key.span
      exact hinner.trans (h.within_key hm hkey)

/-! ### Validations -/

/-- **Where diagnostics come from.** The diagnostics of a validation are the renderings of what is
reported by the visits that the run leads to, descriptions and losing alternatives being none of
them. Each renders one finding at a place of the tree that its cause allows. If the spans of the tree
are nested, all of them lie in the span of the tree. -/
theorem report_provenance (u : Setup Picker) {s : Schema Picker} {root : String} {t : Node}
    {o : Outcome} (h : u.Validates s root t o) :
    (∀ d, d ∈ u.report o.log ↔ ∃ v f,
      Relation.ReflTransGen (Visit.Leads u.toEnvironment) ⟨s, { path := root }, t.clear⟩ v ∧
        v.Reports u.toEnvironment f ∧ d = f.render u.messages) ∧
    (∀ d ∈ u.report o.log, ∃ f : Finding, d = f.render u.messages ∧ t.Anchors f.span f.cause) ∧
    (t.Nested → ∀ d ∈ u.report o.log, d.span.Within t.span) := by
  obtain ⟨fuel, rfl, hfinished⟩ := h
  let start : Visit Picker := ⟨s, { path := root }, t.clear⟩
  have hfound := mem_findings_iff u.toEnvironment fuel start hfinished
  have hreport : ∀ d, d ∈ u.report (start.outcome (check u.toEnvironment fuel)).log ↔ ∃ v f,
      Relation.ReflTransGen (Visit.Leads u.toEnvironment) start v ∧
        v.Reports u.toEnvironment f ∧ d = f.render u.messages := by
    intro d
    rw [Setup.report, List.mem_map]
    constructor
    · rintro ⟨f, hf, rfl⟩
      obtain ⟨v, hpath, hreports⟩ := (hfound f).mp hf
      exact ⟨v, f, hpath, hreports, rfl⟩
    · rintro ⟨v, f, hpath, hreports, rfl⟩
      exact ⟨f, (hfound f).mpr ⟨v, hpath, hreports⟩, rfl⟩
  have hplace : ∀ d ∈ u.report (start.outcome (check u.toEnvironment fuel)).log,
      ∃ f : Finding, d = f.render u.messages ∧ t.Anchors f.span f.cause := by
    intro d hd
    obtain ⟨v, f, hpath, hreports, rfl⟩ := (hreport d).mp hd
    have hstart : t.Offers start.node := .held (Node.Holds.refl t) (Node.clear_clear t)
    exact ⟨f, rfl, hreports.anchors (Visit.offers_of_leads hpath hstart)⟩
  refine ⟨hreport, hplace, ?_⟩
  intro hnested d hd
  obtain ⟨f, rfl, hanchors⟩ := hplace d hd
  exact hnested.within_of_anchors hanchors

/-- Two keys, each with a number or an array of numbers. -/
def numberPair : Schema Picker :=
  .object (.fixed ["a", "b"] ⟨[], ⟨.union [.scalar .number, .array (.scalar .number)], none⟩⟩)

/-- An object that has one of the keys, with a string. -/
def halfPair : Node :=
  ⟨⟨0, 10⟩, none, .object [⟨some ⟨"a", ⟨1, 4⟩, none⟩, some (.string "x" ⟨6, 9⟩)⟩]⟩

theorem nested_halfPair : halfPair.Nested := by
  have hstring : (Node.string "x" ⟨6, 9⟩).Nested := by
    rw [Node.nested_iff]
    exact ⟨nofun, nofun, nofun⟩
  rw [Node.nested_iff]
  refine ⟨fun _ => (by decide : (0 : Nat) < 10), ?_, nofun⟩
  rintro members ⟨⟩ m hm
  obtain rfl := List.mem_singleton.mp hm
  constructor
  · rintro key ⟨⟩
    unfold Span.Within
    decide
  · rintro u ⟨⟩
    refine ⟨?_, hstring⟩
    unfold Span.Within
    decide

/-- The object lacks a key, and its value is of the wrong kind. Both are said inside its span. -/
theorem provenance_halfPair :
    let u : Setup Picker := {}
    let o := check u.toEnvironment 4 numberPair { path := "" } halfPair.clear
    u.Validates numberPair "" halfPair o ∧ halfPair.Nested ∧
      o.log.findings = [⟨.missingProperty "b", ⟨0, 1⟩⟩, ⟨.typeMismatch "number" "string", ⟨6, 9⟩⟩] ∧
      (∀ d ∈ u.report o.log, ∃ f : Finding,
        d = f.render u.messages ∧ halfPair.Anchors f.span f.cause) ∧
      ∀ d ∈ u.report o.log, d.span.Within halfPair.span := by
  intro u o
  have hends : u.Validates numberPair "" halfPair o := ⟨4, rfl, by decide⟩
  obtain ⟨-, hplace, hwithin⟩ := report_provenance u hends
  exact ⟨hends, nested_halfPair, by decide, hplace, hwithin nested_halfPair⟩

end DocShape
