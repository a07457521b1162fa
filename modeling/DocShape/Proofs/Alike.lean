import DocShape.Proofs.Relay
import DocShape.Proofs.Selection

/-!
# Nodes that selections cannot tell apart

Selectors and discriminators see the kind of a node, its span, which keys it has, and the texts under
them; leaves see its own text besides. Nodes that are `Alike` agree in all of this, whatever else they
hold and in whichever order (`Node.Alike.of_members`). So they are handed on to the same schema with
the same findings (`Check.relay?_alike`), and a schema that looks at them by itself says the same of
both (`Check.log_alone_alike`).

Nodes of the same content are alike (`Node.alike_of_clear`), and steady checks cannot tell them apart
either (`Check.relay?_eq_of_clear`).
-/

namespace DocShape

/-- Two nodes that agree in all that selections and leaves see. -/
structure Node.Alike (t t' : Node) : Prop where
  span : t.span = t'.span
  kind : t.kind = t'.kind
  text : t.text? = t'.text?
  /-- The same text stands under each key. -/
  textUnder (key : String) : t.textUnder? key = t'.textUnder? key
  /-- The same keys are present. -/
  keys {members members' : List (Member Node)} (h : t.members? = some members)
    (h' : t'.members? = some members') (key : String) :
    key ∈ Member.keys members ↔ key ∈ Member.keys members'

/-- Nodes of the same span, kind and text are alike if their members have the same keys and the same
texts under them. -/
theorem Node.Alike.of_members {t t' : Node} (hspan : t.span = t'.span) (hkind : t.kind = t'.kind)
    (htext : t.text? = t'.text?)
    (h : ∀ members, t.members? = some members → ∃ members', t'.members? = some members' ∧
      (∀ key, (Member.value? members key).bind text? = (Member.value? members' key).bind text?) ∧
      ∀ key, key ∈ Member.keys members ↔ key ∈ Member.keys members') : t.Alike t' where
  span := hspan
  kind := hkind
  text := htext
  textUnder key := by
    unfold textUnder? value?
    cases hmembers : t.members? with
    | none =>
      have hmembers' : t'.members? = none := by
        rw [members?_eq_none_iff, ← hkind]
        exact members?_eq_none_iff.mp hmembers
      rw [hmembers']
    | some members =>
      obtain ⟨members', hmembers', htexts, -⟩ := h members hmembers
      rw [hmembers']
      exact htexts key
  keys hmembers hmembers' key := by
    obtain ⟨members'', hmembers'', -, hkeys⟩ := h _ hmembers
    cases hmembers'.symm.trans hmembers''
    exact hkeys key

/-- Nodes of the same content are alike. -/
theorem Node.alike_of_clear {t t' : Node} (h : t.clear = t'.clear) : t.Alike t' where
  span := by rw [← span_clear t, h, span_clear]
  kind := by rw [← kind_clear t, h, kind_clear]
  text := by rw [← text?_clear t, h, text?_clear]
  textUnder key := by rw [← textUnder?_clear t, h, textUnder?_clear]
  keys {members members'} hmembers hmembers' key := by
    have hcontent := congrArg members? h
    rw [members?_clear, members?_clear, hmembers, hmembers'] at hcontent
    have hkeys := congrArg Member.keys (Option.some.inj hcontent)
    rw [keys_clearMember, keys_clearMember] at hkeys
    rw [hkeys]

section Alike

variable {t t' : Node} (h : t.Alike t')

include h

theorem Node.Alike.members?_eq_none_iff : t.members? = none ↔ t'.members? = none := by
  rw [Node.members?_eq_none_iff, Node.members?_eq_none_iff, h.kind]

/-- If one of two nodes that are alike is an object, the other one is, too. -/
theorem Node.Alike.exists_members {members : List (Member Node)} (hmembers : t.members? = some members) :
    ∃ members', t'.members? = some members' := by
  cases hmembers' : t'.members? with
  | some members' => exact ⟨members', rfl⟩
  | none =>
    rw [h.members?_eq_none_iff.mpr hmembers'] at hmembers
    cases hmembers

theorem Node.Alike.wrongKind (expected : String) :
    Cause.wrongKind expected t = Cause.wrongKind expected t' := by
  unfold Cause.wrongKind
  rw [h.kind]

/-! ### Selections -/

variable {σ : Type}

/-- Objects that are alike have the same marker. -/
theorem MarkerTable.present?_alike (markers : MarkerTable σ) {members members' : List (Member Node)}
    (hmembers : t.members? = some members) (hmembers' : t'.members? = some members') :
    MarkerTable.present? markers (Member.keys members) =
      MarkerTable.present? markers (Member.keys members') := by
  unfold MarkerTable.present?
  refine congrArg (fun p => List.find? p markers.entries) (funext fun entry => ?_)
  have hkeys := h.keys hmembers hmembers' entry.1
  simp only [List.contains_eq_mem, hkeys]

theorem MarkerTable.settle_alike (markers : MarkerTable σ) :
    MarkerTable.settle markers t = MarkerTable.settle markers t' := by
  unfold MarkerTable.settle
  cases hmembers : t.members? with
  | none =>
    have hmembers' := h.members?_eq_none_iff.mp hmembers
    rw [hmembers']
  | some members =>
    obtain ⟨members', hmembers'⟩ := h.exists_members hmembers
    have hpresent := MarkerTable.present?_alike h markers hmembers hmembers'
    rw [hmembers']
    simp only [hpresent, h.span]

theorem OpenRecord.settle_alike (value : Option String) (properties : OpenRecord σ) :
    properties.settle value t = properties.settle value t' := by
  induction properties with
  | fixed _ | byCase _ => rfl
  | merged first second ih₁ ih₂ | ifAmong _ first second ih₁ ih₂ => rw [settle, settle, ih₁, ih₂]
  | byMarker markers => exact MarkerTable.settle_alike h markers
  | marked mark inner ih => rw [settle, settle, ih]

/-- Nodes that are alike select the same, and the same is found on the way. -/
theorem Selector.choose_alike (ofRecord : Record σ → σ) (selector : Selector σ)
    (value : Option String) :
    selector.choose ofRecord t value = selector.choose ofRecord t' value := by
  induction selector generalizing value with
  | record properties => cases value <;> simp only [choose, OpenRecord.settle_alike h]
  | byValue rows absent otherwise => cases value <;> rfl
  | byKind rows otherwise => cases value <;> simp only [choose, h.kind]
  | sibling key next ih => cases value <;> simp only [choose, h.textUnder, ih]

/-! ### One step -/

namespace Check

/-- Nodes that are alike are handed on to the same schema, if custom checks pick the same for both.
The settings make no difference otherwise. -/
theorem relay?_eq_of_alike {ε : Type} [CustomCheck ε] [Picking ε] {env env' : Environment ε}
    (hschemas : env.schemas = env'.schemas) {sc : Scope}
    (hindex : ∀ custom : ε, (Picking.picker custom).index env.settings sc t =
      (Picking.picker custom).index env'.settings sc t') (s : Schema ε) :
    relay? env sc t s = relay? env' sc t' s := by
  cases s with
  | anything | scalar _ | oneOf _ | matching _ | object _ | array _ | union _ => rfl
  | named name => rw [relay?, relay?, hschemas]
  | documented path s => rfl
  | switch key selector =>
    cases hmembers : t.members? with
    | none =>
      have hmembers' := h.members?_eq_none_iff.mp hmembers
      rw [relay?, relay?, hmembers, hmembers']
      rfl
    | some members =>
      obtain ⟨members', hmembers'⟩ := h.exists_members hmembers
      rw [relay?, relay?, hmembers, hmembers', h.textUnder, Selector.choose_alike h]
      rfl
  | select selector => rw [relay?, relay?, Selector.choose_alike h]
  | custom custom parts => rw [relay?, relay?, hindex]

/-- Discriminators pick the same for nodes that are alike. -/
theorem relay?_alike (env : Environment Discriminator) (sc : Scope) (s : Schema Discriminator) :
    relay? env sc t s = relay? env sc t' s := by
  refine relay?_eq_of_alike h rfl (fun d => ?_) s
  have htexts : t.textUnder? = t'.textUnder? := funext h.textUnder
  show d.index t.kind t.textUnder? = d.index t'.kind t'.textUnder?
  rw [h.kind, htexts]

theorem kindLog_alike (kind : Kind) : kindLog kind t = kindLog kind t' := by
  unfold kindLog
  rw [h.kind, h.wrongKind, h.span]

theorem textLog_alike (fault? : String → Option Cause) : textLog fault? t = textLog fault? t' := by
  unfold textLog
  rw [h.text, h.wrongKind, h.span]

/-- A schema that looks at nodes by itself says the same of nodes that are alike. -/
theorem log_alone_alike {ε : Type} (s : Schema ε) : (alone t s).log = (alone t' s).log := by
  cases s with
  | scalar scalar => exact kindLog_alike h scalar.kind
  | oneOf pool => exact textLog_alike h _
  | matching pattern => exact textLog_alike h _
  | named name =>
    simp only [alone]
    rw [h.span]
  | switch key selector =>
    simp only [alone]
    rw [h.wrongKind, h.span]
  | anything | object _ | array _ | union _ | documented _ _ | select _ | custom _ _ => rfl

end Check

end Alike

/-- In one scope, nodes of the same content are handed on to the same schema by steady checks,
whatever the settings. -/
theorem Check.relay?_eq_of_clear {ε : Type} [CustomCheck ε] [Picking ε] [Steady ε]
    {env env' : Environment ε} (hschemas : env.schemas = env'.schemas) {t t' : Node}
    (h : t.clear = t'.clear) (sc : Scope) (s : Schema ε) :
    relay? env sc t s = relay? env' sc t' s :=
  relay?_eq_of_alike (Node.alike_of_clear h) hschemas
    (fun custom => Steady.index_eq custom env.settings env'.settings sc h) s

/-- A schema that looks at nodes by itself fills the slots of two nodes in the same way, or leaves
both alone. -/
theorem Check.node_alone_congr {ε : Type} {R : Node → Node → Prop} {t t' : Node} (s : Schema ε)
    (h : R t t') (hR : ∀ expected, R (t.expecting expected) (t'.expecting expected)) :
    R (alone t s).node (alone t' s).node := by
  cases s with
  | named name => exact h
  | anything | scalar _ | oneOf _ | matching _ | object _ | array _ | union _ | documented _ _
  | switch _ _ | select _ | custom _ _ => exact hR _

end DocShape
