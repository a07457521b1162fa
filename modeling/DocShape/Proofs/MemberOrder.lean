import DocShape.Proofs.Reordered
import DocShape.Proofs.Visit

/-!
# The order of members does not matter

Two trees that are reordered come to the same when they are validated
(`report_perm_of_reordered`): one validation comes to its end if and only if the other one does, they
have the same findings up to order, and they leave trees that are reordered again, slots included.

The findings are not mixed up at will. What is missing in one object is found in one go, in the order
in which the properties are declared, and such a `Visit.Block` is moved as a whole (`SameBlocks`).

One step of a check ignores the order of members if everything further inside does
(`Check.step_ignoresOrder`); the rest is an induction on the fuel.
-/

namespace DocShape

/-! ### Findings in blocks -/

/-- Two lists of findings that are put together from the same blocks in some order. -/
def SameBlocks (P : List Finding → Prop) (fs fs' : List Finding) : Prop :=
  ∃ blocks blocks' : List (List Finding), (∀ block ∈ blocks, P block) ∧ blocks.Perm blocks' ∧
    fs = blocks.flatten ∧ fs' = blocks'.flatten

namespace SameBlocks

variable {P Q : List Finding → Prop} {fs fs' gs gs' : List Finding}

theorem nil : SameBlocks P [] [] := ⟨[], [], by simp, .nil, rfl, rfl⟩

theorem block (h : P fs) : SameBlocks P fs fs := by
  refine ⟨[fs], [fs], ?_, .refl _, ?_, ?_⟩
  · simpa using h
  · simp
  · simp

/-- Findings each of which is a block by itself. -/
theorem singles (h : ∀ f ∈ fs, P [f]) : SameBlocks P fs fs := by
  have hflatten : (fs.map fun f => [f]).flatten = fs := by
    induction fs with
    | nil => rfl
    | cons f fs ih =>
      have hrest := ih fun g hg => h g (List.mem_cons_of_mem _ hg)
      rw [List.map_cons, List.flatten_cons, hrest]
      rfl
  refine ⟨fs.map fun f => [f], fs.map fun f => [f], ?_, .refl _, hflatten.symm, hflatten.symm⟩
  rw [List.forall_mem_map]
  exact h

theorem append (h : SameBlocks P fs fs') (h' : SameBlocks P gs gs') :
    SameBlocks P (fs ++ gs) (fs' ++ gs') := by
  obtain ⟨bs, bs', hbs, hperm, rfl, rfl⟩ := h
  obtain ⟨cs, cs', hcs, hperm', rfl, rfl⟩ := h'
  refine ⟨bs ++ cs, bs' ++ cs', ?_, hperm.append hperm', ?_, ?_⟩
  · intro b hb
    rcases List.mem_append.mp hb with hb | hb
    · exact hbs b hb
    · exact hcs b hb
  · rw [List.flatten_append]
  · rw [List.flatten_append]

theorem mono (h : SameBlocks P fs fs') (hPQ : ∀ block, P block → Q block) :
    SameBlocks Q fs fs' := by
  obtain ⟨bs, bs', hbs, hrest⟩ := h
  exact ⟨bs, bs', fun b hb => hPQ b (hbs b hb), hrest⟩

/-- The same blocks hold the same findings. -/
theorem perm (h : SameBlocks P fs fs') : fs.Perm fs' := by
  obtain ⟨bs, bs', -, hperm, rfl, rfl⟩ := h
  exact hperm.flatten

/-- Lists that are put together from the same blocks element by element, the elements reordered. -/
theorem flatMap {α : Type} {R : α → α → Prop} {xs ys zs : List α} {g : α → List Finding}
    (hrel : List.Forall₂ R xs ys) (hperm : ys.Perm zs)
    (hg : ∀ x ∈ xs, ∀ y, R x y → SameBlocks P (g x) (g y)) :
    SameBlocks P (xs.flatMap g) (zs.flatMap g) := by
  -- each pair of related elements is cut into blocks, first for one side and then for the other
  obtain ⟨cuts, hcuts, hleft, hright⟩ : ∃ cuts : List (List (List Finding) × List (List Finding)),
      (∀ cut ∈ cuts, (∀ block ∈ cut.1, P block) ∧ cut.1.Perm cut.2) ∧
      xs.flatMap g = (cuts.flatMap (·.1)).flatten ∧
      List.Forall₂ (fun y cut => g y = cut.2.flatten) ys cuts := by
    clear hperm
    induction hrel with
    | nil => exact ⟨[], by simp, rfl, .nil⟩
    | @cons x y xs ys hxy _ ih =>
      obtain ⟨cuts, hcuts, hleft, hright⟩ := ih fun x hx => hg x (List.mem_cons_of_mem _ hx)
      obtain ⟨bs, bs', hbs, hbsperm, hbleft, hbright⟩ := hg x List.mem_cons_self y hxy
      refine ⟨(bs, bs') :: cuts, ?_, ?_, .cons hbright hright⟩
      · rw [List.forall_mem_cons]
        exact ⟨⟨hbs, hbsperm⟩, hcuts⟩
      · rw [List.flatMap_cons, List.flatMap_cons, List.flatten_append, hleft, hbleft]
  -- and the cuts are reordered along with the elements
  obtain ⟨cuts', hright', hcutsperm⟩ := List.perm_comp_forall₂ hperm.symm hright
  refine ⟨cuts.flatMap (·.1), cuts'.flatMap (·.2), ?_, ?_, hleft, ?_⟩
  · intro block hblock
    obtain ⟨cut, hcut, hmem⟩ := List.mem_flatMap.mp hblock
    exact (hcuts cut hcut).1 block hmem
  · have hsides : (cuts.flatMap (·.1)).Perm (cuts.flatMap (·.2)) :=
      List.Perm.flatMap_left cuts fun cut hcut => (hcuts cut hcut).2
    exact hsides.trans (hcutsperm.symm.flatMap_right _)
  · clear hperm hcutsperm
    induction hright' with
    | nil => rfl
    | cons hz _ ih => rw [List.flatMap_cons, List.flatMap_cons, List.flatten_append, ih, hz]

end SameBlocks

section Blocks

variable {ε : Type} [CustomCheck ε] [Picking ε] {env : Environment ε} {v w : Visit ε}

/-- What a visit reports about properties that its object lacks, in the order in which they are
declared. -/
def Visit.missing (v : Visit ε) : List Finding :=
  match v.schema, v.node.members? with
  | .object (.fixed keys fields), some members =>
    (Check.missingLog keys fields members v.node.span).findings
  | _, _ => []

/-- The blocks that the findings of a check consist of: all that one of its visits reports about
missing properties, or one finding of another kind. -/
inductive Visit.Block (env : Environment ε) (start : Visit ε) : List Finding → Prop
  | missing {v : Visit ε} (hpath : Relation.ReflTransGen (Visit.Leads env) start v) :
    Block env start v.missing
  | single {f : Finding} (hf : ∀ property, f.cause ≠ .missingProperty property) :
    Block env start [f]

/-- The blocks of a visit are blocks of every visit that leads to it. -/
theorem Visit.Leads.block (hleads : v.Leads env w) {fs : List Finding} (h : w.Block env fs) :
    v.Block env fs := by
  cases h with
  | missing hpath => exact .missing (.head hleads hpath)
  | single hf => exact .single hf

end Blocks

/-! ### Runs that ignore the order of members -/

/-- Two outcomes of a visit, on nodes that are reordered: both are finished or neither is, and if
they are, they agree up to the order of members and blocks. -/
structure Outcome.Reordered (env : Environment Discriminator) (v : Visit Discriminator)
    (o o' : Outcome) : Prop where
  finished : o.log.finished = o'.log.finished
  node (h : o.log.finished = true) : o.node.Reordered o'.node
  findings (h : o.log.finished = true) : SameBlocks (v.Block env) o.log.findings o'.log.findings

namespace Check

/-- A run that comes to the same on nodes that are reordered. -/
def IgnoresOrder (env : Environment Discriminator) (run : Run Discriminator) : Prop :=
  ∀ s sc t t', t.Reordered t' → Outcome.Reordered env ⟨s, sc, t⟩ (run s sc t) (run s sc t')

/-- Both of two rows of logs that are related one by one come to their end, or neither does. -/
theorem finished_join_eq {α : Type} {R : α → α → Prop} {xs ys zs : List α} {g : α → Log}
    (hrel : List.Forall₂ R xs ys) (hperm : ys.Perm zs)
    (hg : ∀ x ∈ xs, ∀ y, R x y → (g x).finished = (g y).finished) :
    (Log.join (xs.map g)).finished = (Log.join (zs.map g)).finished := by
  have hxy : xs.map (fun x => (g x).finished) = ys.map fun y => (g y).finished :=
    map_eq_map_of_forall₂ hrel hg
  rw [Bool.eq_iff_iff, Log.joint_finished.join_iff, Log.joint_finished.join_iff,
    List.forall_mem_map, List.forall_mem_map]
  have hall : (∀ x ∈ xs, (g x).finished = true) ↔ ∀ y ∈ ys, (g y).finished = true := by
    have hmaps := congrArg (fun bs : List Bool => ∀ b ∈ bs, b = true) hxy
    simpa only [List.forall_mem_map, eq_iff_iff] using hmaps
  rw [hall]
  constructor
  · intro h z hz
    exact h z (hperm.mem_iff.mpr hz)
  · intro h y hy
    exact h y (hperm.mem_iff.mp hy)

/-! ### Objects -/

/-- Two checked members that agree up to the order of members and blocks, if they are finished. -/
structure MemberReordered (P : List Finding → Prop) (c c' : Member Node × Log) : Prop where
  finished : c.2.finished = c'.2.finished
  rel (h : c.2.finished = true) : Member.Rel Node.Reordered c.1 c'.1
  findings (h : c.2.finished = true) : SameBlocks P c.2.findings c'.2.findings

section Object

variable {env : Environment Discriminator} {run : Run Discriminator} (hrun : IgnoresOrder env run)
  {sc : Scope} {t t' : Node} {members middle members' : List (Member Node)} {m m' : Member Node}

theorem valueOrNull_reordered (key : Key) (h : Member.Rel Node.Reordered m m') :
    (valueOrNull key m).Reordered (valueOrNull key m') := by
  cases h with
  | bare key' => exact .null _
  | valued key' hu => exact hu

include hrun

theorem checkDeclared_reordered {keys : List String} {fields : Fields (Schema Discriminator)}
    (hmembers : t.members? = some members) (hm : m ∈ members)
    (h : Member.Rel Node.Reordered m m') :
    MemberReordered (Visit.Block env ⟨.object (.fixed keys fields), sc, t⟩)
      (checkDeclared env run keys fields sc m) (checkDeclared env run keys fields sc m') := by
  have hkey := h.key_eq
  obtain ⟨key, value⟩ := m
  obtain ⟨key', value'⟩ := m'
  cases hkey
  cases key with
  | none => exact ⟨rfl, fun _ => h, fun _ => .nil⟩
  | some key =>
    by_cases hmem : key.text ∈ keys
    · have ho := hrun (fields.property key.text).schema
        (propertyScope (fields.property key.text) key.text sc) _ _ (valueOrNull_reordered key h)
      rw [checkDeclared_of_mem hmem, checkDeclared_of_mem hmem]
      have hend : (checkProperty env run (fields.property key.text) sc key
          ⟨some key, value⟩).2.finished = true →
            (run (fields.property key.text).schema
              (propertyScope (fields.property key.text) key.text sc)
              (valueOrNull key ⟨some key, value⟩)).log.finished = true :=
        fun hfinished => Log.finished_right hfinished
      refine ⟨?_, fun hfinished => ?_, fun hfinished => ?_⟩
      · simp only [checkProperty, Log.finished_append, ho.finished]
      · have hnode := ho.node (hend hfinished)
        simp only [checkProperty, hnode.labels_eq]
        cases h with
        | bare _ => exact .bare _
        | valued _ _ => exact .valued _ hnode
      · have hleads : Visit.Leads env ⟨.object (.fixed keys fields), sc, t⟩ _ :=
          .property hmembers hm rfl hmem
        refine .append (.singles ?_) ((ho.findings (hend hfinished)).mono fun _ => hleads.block)
        intro f hf
        obtain ⟨-, rfl⟩ := mem_findings_deprecationLog.mp hf
        refine .single fun property hcause => ?_
        cases hcause
    · rw [checkDeclared_of_not_mem hmem, checkDeclared_of_not_mem hmem]
      refine ⟨rfl, fun _ => h, fun _ => .block (.single fun property hcause => ?_)⟩
      cases hcause

theorem checkKeyed_reordered {keys : Schema Discriminator} {fields : Fields (Schema Discriminator)}
    (hmembers : t.members? = some members) (hm : m ∈ members)
    (h : Member.Rel Node.Reordered m m') :
    MemberReordered (Visit.Block env ⟨.object (.keyed keys fields), sc, t⟩)
      (checkKeyed run keys fields sc m) (checkKeyed run keys fields sc m') := by
  cases h with
  | bare key =>
    cases key with
    | none => exact ⟨rfl, fun _ => .bare none, fun _ => .nil⟩
    | some key =>
      have hkeyNode := hrun keys sc key.toNode key.toNode (.leaf rfl rfl)
      have hleads : Visit.Leads env ⟨.object (.keyed keys fields), sc, t⟩ _ :=
        .key hmembers hm rfl
      refine ⟨rfl, fun _ => .bare _, fun hfinished => ?_⟩
      exact (hkeyNode.findings hfinished).mono fun _ => hleads.block
  | @valued key u u' hu =>
    cases key with
    | none => exact ⟨rfl, fun _ => .valued none hu, fun _ => .nil⟩
    | some key =>
      have hkeyNode := hrun keys sc key.toNode key.toNode (.leaf rfl rfl)
      have ho := hrun (fields.property key.text).schema sc u u' hu
      have hleads : Visit.Leads env ⟨.object (.keyed keys fields), sc, t⟩ _ :=
        .key hmembers hm rfl
      have hleads' : Visit.Leads env ⟨.object (.keyed keys fields), sc, t⟩ _ :=
        .value hmembers hm rfl rfl
      refine ⟨?_, fun hfinished => ?_, fun hfinished => ?_⟩
      · simp only [checkKeyed, Log.finished_append, ho.finished]
      · have hend := (Log.joint_finished.append_iff _ _).mp hfinished
        exact .valued _ (ho.node hend.2)
      · have hend := (Log.joint_finished.append_iff _ _).mp hfinished
        exact .append ((hkeyNode.findings hend.1).mono fun _ => hleads.block)
          ((ho.findings hend.2).mono fun _ => hleads'.block)

omit hrun in
/-- Members that are checked one by one and agree one by one agree as a whole. -/
theorem members_reordered {P : List Finding → Prop} {f : Member Node → Member Node × Log}
    (hrel : List.Forall₂ (Member.Rel Node.Reordered) members middle) (hperm : middle.Perm members')
    (hf : ∀ m ∈ members, ∀ m', Member.Rel Node.Reordered m m' → MemberReordered P (f m) (f m')) :
    (Log.join ((members.map f).map (·.2))).finished =
      (Log.join ((members'.map f).map (·.2))).finished ∧
    ((Log.join ((members.map f).map (·.2))).finished = true →
      (∃ middle', List.Forall₂ (Member.Rel Node.Reordered) ((members.map f).map (·.1)) middle' ∧
        middle'.Perm ((members'.map f).map (·.1))) ∧
      SameBlocks P (Log.join ((members.map f).map (·.2))).findings
        (Log.join ((members'.map f).map (·.2))).findings) := by
  rw [List.map_map, List.map_map]
  refine ⟨finished_join_eq hrel hperm fun m hm m' h => (hf m hm m' h).finished, fun hfinished => ?_⟩
  rw [Log.joint_finished.join_iff, List.forall_mem_map] at hfinished
  constructor
  · refine ⟨(middle.map f).map (·.1), ?_, (hperm.map f).map _⟩
    rw [List.map_map, List.map_map]
    exact forall₂_map_of_mem hrel fun m hm m' h => (hf m hm m' h).rel (hfinished m hm)
  · rw [Log.findings_join, Log.findings_join, List.flatMap_map, List.flatMap_map]
    exact .flatMap hrel hperm fun m hm m' h => (hf m hm m' h).findings (hfinished m hm)

omit hrun in
/-- What is found about a node as a whole is a block by itself. -/
theorem sameBlocks_report {v : Visit Discriminator} (expected : String) (u : Node) (span : Span) :
    SameBlocks (v.Block env) (Log.report (.wrongKind expected u) span).findings
      (Log.report (.wrongKind expected u) span).findings :=
  .block (.single nofun)

/-- The members of an object come to the same up to order, whatever its shape. -/
theorem checkMembers_reordered (shape : Shape (Schema Discriminator)) (h : t.Reordered t')
    (hmembers : t.members? = some members) (hmembers' : t'.members? = some members')
    (hrel : List.Forall₂ (Member.Rel Node.Reordered) members middle) (hperm : middle.Perm members') :
    (checkMembers env run sc t.span members shape).2.finished =
      (checkMembers env run sc t'.span members' shape).2.finished ∧
    ((checkMembers env run sc t.span members shape).2.finished = true →
      (∃ middle', List.Forall₂ (Member.Rel Node.Reordered)
          (checkMembers env run sc t.span members shape).1 middle' ∧
        middle'.Perm (checkMembers env run sc t'.span members' shape).1) ∧
      SameBlocks (Visit.Block env ⟨.object shape, sc, t⟩)
        (checkMembers env run sc t.span members shape).2.findings
        (checkMembers env run sc t'.span members' shape).2.findings) := by
  cases shape with
  | free => exact ⟨rfl, fun _ => ⟨⟨middle, hrel, hperm⟩, .nil⟩⟩
  | fixed keys fields =>
    obtain ⟨hfin, hrest⟩ := members_reordered hrel hperm
      (P := Visit.Block env ⟨.object (.fixed keys fields), sc, t⟩)
      (f := checkDeclared env run keys fields sc)
      fun m hm m' hm' => checkDeclared_reordered hrun hmembers hm hm'
    have hmissing : missingLog keys fields members' t'.span =
        missingLog keys fields members t.span := by
      have hkeys' := h.alike.keys hmembers hmembers'
      unfold missingLog
      simp only [List.contains_eq_mem, hkeys', h.span_eq]
    have hblock : Visit.Block env ⟨.object (.fixed keys fields), sc, t⟩
        (missingLog keys fields members t.span).findings := by
      have hown : Visit.missing ⟨.object (.fixed keys fields), sc, t⟩ =
          (missingLog keys fields members t.span).findings := by
        simp only [Visit.missing, hmembers]
      rw [← hown]
      exact .missing .refl
    simp only [checkMembers, hmissing, Log.finished_append, Log.findings_append]
    refine ⟨by rw [hfin], fun hfinished => ?_⟩
    obtain ⟨hmiddle, hblocks⟩ := hrest (Bool.and_eq_true _ _ ▸ hfinished).2
    exact ⟨hmiddle, .append (.block hblock) hblocks⟩
  | keyed keys fields =>
    exact members_reordered hrel hperm fun m hm m' hm' =>
      checkKeyed_reordered hrun hmembers hm hm'

theorem checkObject_reordered (hkeeps : Keeps run) (shape : Shape (Schema Discriminator))
    (h : t.Reordered t') :
    Outcome.Reordered env ⟨.object shape, sc, t⟩ (checkObject env run shape sc t)
      (checkObject env run shape sc t') := by
  have hdescribed := findings_describeShape run env.settings sc shape
  cases hmembers : t.members? with
  | none =>
    have hmembers' := h.alike.members?_eq_none_iff.mp hmembers
    rw [checkObject_of_none hmembers, checkObject_of_none hmembers', ← h.alike.wrongKind,
      ← h.span_eq]
    refine ⟨rfl, fun _ => h.expecting _, fun _ => ?_⟩
    simp only [Log.findings_append, hdescribed, List.nil_append]
    exact sameBlocks_report _ _ _
  | some members =>
    obtain ⟨middle, members', hmembers', hrel, hperm, hkeys⟩ := h.members hmembers
    obtain ⟨hfin, hrest⟩ := @checkMembers_reordered env run hrun sc t t' members middle members' shape
      h hmembers hmembers' hrel hperm
    rw [checkObject_of_members hmembers, checkObject_of_members hmembers']
    refine ⟨?_, fun hfinished => ?_, fun hfinished => ?_⟩
    · simp only [Log.finished_append, hfin]
    · obtain ⟨⟨middle', hrel', hperm'⟩, -⟩ :=
        hrest (Log.finished_right hfinished)
      have hkept := congrArg Member.keys
        (clearMember_checkMembers hkeeps env sc t.span members shape)
      rw [Node.keys_clearMember, Node.keys_clearMember] at hkept
      dsimp only
      rw [← h.span_eq] at hperm' ⊢
      refine .object hrel' hperm' ?_
      rw [hkept]
      exact hkeys
    · obtain ⟨-, hblocks⟩ := hrest (Log.finished_right hfinished)
      simp only [Log.findings_append, hdescribed, List.nil_append]
      exact hblocks

/-! ### Arrays -/

theorem checkArray_reordered (item : Schema Discriminator) (h : t.Reordered t') :
    Outcome.Reordered env ⟨.array item, sc, t⟩ (checkArray env run item sc t)
      (checkArray env run item sc t') := by
  have hdescribed : (describePart run env.settings item sc).log.findings = [] :=
    findings_describePart run env.settings sc item
  cases hitems : t.items? with
  | none =>
    have hitems' : t'.items? = none := by
      rw [Node.items?_eq_none_iff, ← h.kind_eq]
      exact Node.items?_eq_none_iff.mp hitems
    rw [checkArray_of_none hitems, checkArray_of_none hitems', ← h.alike.wrongKind, ← h.span_eq]
    refine ⟨rfl, fun _ => h.expecting _, fun _ => ?_⟩
    simp only [Log.findings_append, hdescribed, List.nil_append]
    exact sameBlocks_report _ _ _
  | some items =>
    obtain ⟨items', hitems', hrel⟩ := h.items hitems
    have ho := fun u (hu : u ∈ items) u' (hu' : u.Reordered u') => hrun item sc u u' hu'
    rw [checkArray_of_items hitems, checkArray_of_items hitems']
    simp only [List.map_map]
    have hfin := finished_join_eq (g := Outcome.log ∘ run item sc) hrel (.refl items')
      fun u hu u' hu' => (ho u hu u' hu').finished
    have hend : (Log.join (items.map (Outcome.log ∘ run item sc))).finished = true →
        ∀ u ∈ items, (run item sc u).log.finished = true := by
      rw [Log.joint_finished.join_iff, List.forall_mem_map]
      exact id
    refine ⟨?_, fun hfinished => ?_, fun hfinished => ?_⟩
    · rw [Log.finished_append, Log.finished_append, hfin]
    · have hall := hend (Log.finished_right hfinished)
      rw [← h.span_eq]
      exact .array (forall₂_map_of_mem hrel fun u hu u' hu' => (ho u hu u' hu').node (hall u hu))
    · have hall := hend (Log.finished_right hfinished)
      rw [Log.findings_append, Log.findings_append, hdescribed, Log.findings_join, Log.findings_join,
        List.flatMap_map, List.flatMap_map]
      refine .append .nil (.flatMap hrel (.refl items') fun u hu u' hu' => ?_)
      have hleads : Visit.Leads env ⟨.array item, sc, t⟩ _ := .item hitems hu
      exact ((ho u hu u' hu').findings (hall u hu)).mono fun _ => hleads.block

/-! ### Alternatives -/

/-- Trials on nodes that are reordered come to their end together, and then have the same errors and
leave nodes that are reordered. -/
theorem trials_reordered (alternatives : List (Schema Discriminator)) (h : t.Reordered t') :
    ((∀ o ∈ trials run sc alternatives t, o.log.finished = true) ↔
      ∀ o ∈ trials run sc alternatives t', o.log.finished = true) ∧
    ((∀ o ∈ trials run sc alternatives t, o.log.finished = true) →
      List.Forall₂ (fun o o' => o.node.Reordered o'.node ∧ o.log.errors = o'.log.errors)
        (trials run sc alternatives t) (trials run sc alternatives t')) := by
  induction alternatives generalizing t t' with
  | nil => exact ⟨Iff.rfl, fun _ => .nil⟩
  | cons s rest ih =>
    have ho := hrun s sc t t' h
    by_cases hend : (run s sc t).log.finished = true
    · have hend' : (run s sc t').log.finished = true := ho.finished ▸ hend
      have hnode := ho.node hend
      have herrors : (run s sc t).log.errors = (run s sc t').log.errors :=
        (ho.findings hend).perm.countP_eq _
      rw [trials, trials, ← herrors]
      by_cases hs : (run s sc t).log.errors = 0
      · simp only [if_pos hs, List.forall_mem_singleton, hend, hend']
        exact ⟨trivial, fun _ => .cons ⟨hnode, herrors⟩ .nil⟩
      · obtain ⟨hiff, hrest⟩ := ih hnode
        simp only [if_neg hs, List.forall_mem_cons, hend, hend', true_and]
        exact ⟨hiff, fun hall => .cons ⟨hnode, herrors⟩ (hrest hall)⟩
    · have hend' : ¬ (run s sc t').log.finished = true := ho.finished ▸ hend
      have hhead := @head_mem_trials _ run sc s rest t
      have hhead' := @head_mem_trials _ run sc s rest t'
      exact ⟨⟨fun hall => absurd (hall _ hhead) hend, fun hall => absurd (hall _ hhead') hend'⟩,
        fun hall => absurd (hall _ hhead) hend⟩

end Object

section Union

variable {env : Environment Discriminator} {fuel : Nat} {sc : Scope} {t t' : Node}

/-- Once all that is tried on two nodes that are reordered has come to its end, the winner is the
same, and so are the alternatives that are left. -/
theorem winner_reordered (hrun : IgnoresOrder env (check env fuel))
    {alternatives : List (Schema Discriminator)} (h : t.Reordered t')
    (htried : ∀ o ∈ trials (check env fuel) sc alternatives t, o.log.finished = true) :
    fewest? (trials (check env fuel) sc alternatives t') =
      fewest? (trials (check env fuel) sc alternatives t) ∧
    (trials (check env fuel) sc alternatives t').length =
      (trials (check env fuel) sc alternatives t).length := by
  have htrials := (trials_reordered hrun alternatives h).2 htried
  have hcounts : errorCounts (trials (check env fuel) sc alternatives t) =
      errorCounts (trials (check env fuel) sc alternatives t') :=
    map_eq_map_of_forall₂ htrials fun o _ o' ho => ho.2
  exact ⟨(fewest?_congr hcounts).symm, htrials.length_eq.symm⟩

/-- A union on nodes that are reordered has the same winner, and expects the same. -/
theorem checkUnion_reordered (hrun : IgnoresOrder env (check env fuel))
    (alternatives : List (Schema Discriminator)) (h : t.Reordered t') :
    Outcome.Reordered env ⟨.union alternatives, sc, t⟩
      (checkUnion (check env fuel) alternatives sc t)
      (checkUnion (check env fuel) alternatives sc t') := by
  have hkeeps := check_keeps env fuel
  rcases checkUnion_cases hkeeps alternatives sc t with
    ⟨rfl, heq⟩ | ⟨index, best, hbest, hindex, _⟩
  · exact ⟨rfl, fun _ => h, fun _ => .nil⟩
  rcases checkUnion_cases hkeeps alternatives sc t' with
    ⟨rfl, _⟩ | ⟨index', best', hbest', hindex', _⟩
  · cases hbest
  obtain ⟨hiff, htrials⟩ := @trials_reordered env _ hrun sc t t' alternatives h
  have hsame : (∀ o ∈ trials (check env fuel) sc alternatives t, o.log.finished = true) →
      index' = index ∧ best' = best ∧
        (trials (check env fuel) sc alternatives t').length =
          (trials (check env fuel) sc alternatives t).length := by
    intro htried
    obtain ⟨hwinner, hlength⟩ := winner_reordered hrun h htried
    rw [hindex, hindex'] at hwinner
    cases hwinner
    cases hbest.symm.trans hbest'
    exact ⟨rfl, rfl, hlength⟩
  have hchosen := hrun best sc t.clear t'.clear h.clear
  refine ⟨?_, fun hfinished => ?_, fun hfinished => ?_⟩
  · rw [Bool.eq_iff_iff, finished_chosen_iff hkeeps hbest hindex,
      finished_chosen_iff hkeeps hbest' hindex', ← hiff]
    refine and_congr_right fun htried => ?_
    obtain ⟨-, hbest, hlength⟩ := hsame htried
    rw [hbest, hlength, hchosen.finished]
  · obtain ⟨htried, hfin, -⟩ := (finished_chosen_iff hkeeps hbest hindex).mp hfinished
    obtain ⟨rfl, rfl, hlength⟩ := hsame htried
    have hnode := hchosen.node hfin
    rw [node_chosen hkeeps hbest hindex, node_chosen hkeeps hbest' hindex', hlength]
    have hexpected := unionOf_congr
      (map_eq_map_of_forall₂ (htrials htried) fun o _ o' ho => ho.1.expectation_eq)
      hnode.expectation_eq index'
    rw [hexpected]
    exact hnode.expecting _
  · obtain ⟨htried, hfin, -⟩ := (finished_chosen_iff hkeeps hbest hindex).mp hfinished
    obtain ⟨rfl, rfl, -⟩ := hsame htried
    have hleads : Visit.Leads env ⟨.union alternatives, sc, t⟩ ⟨best', sc, t.clear⟩ :=
      .winner hbest ((wins_iff htried).mpr hindex)
    rw [findings_chosen hkeeps hbest hindex, findings_chosen hkeeps hbest' hindex']
    exact (hchosen.findings hfin).mono fun _ => hleads.block

end Union

/-! ### Every schema -/

section Step

variable {env : Environment Discriminator}

/-- A schema that looks at nodes by itself comes to the same on nodes that are reordered. -/
theorem alone_reordered {s : Schema Discriminator} {sc : Scope} {t t' : Node} (hs : ¬ s.Compound)
    (hrelay : relay? env sc t s = none) (h : t.Reordered t') :
    Outcome.Reordered env ⟨s, sc, t⟩ (alone t s) (alone t' s) := by
  have hlog := log_alone_alike h.alike s
  refine ⟨by rw [hlog], fun _ => node_alone_congr s h h.expecting, fun _ => ?_⟩
  rw [← hlog]
  refine .singles fun f hf => .single ?_
  -- only objects report what is missing
  have hreports := (mem_findings_alone hs hrelay).mp hf
  cases hreports with
  | missing _ _ _ _ | unknown _ _ _ _ | deprecated _ _ _ _ _ => exact absurd trivial hs
  | undecided h' _ =>
    rw [hrelay] at h'
    cases h'
  | wrongKind _ _ | unexpected _ _ | mismatch _ _ | unresolved _ => exact nofun

/-- **One step** ignores the order of members if everything further inside does. -/
theorem step_ignoresOrder {fuel : Nat} (hrun : IgnoresOrder env (check env fuel)) :
    IgnoresOrder env (Check.step env (check env fuel)) := by
  intro s sc t t' h
  cases way env sc t s with
  | @relay _ r hrelay =>
    have hrelay' : relay? env sc t' s = some r := by
      rw [← relay?_alike h.alike]
      exact hrelay
    have ho := hrun r.schema r.scope t t' h
    have hleads : Visit.Leads env ⟨s, sc, t⟩ ⟨r.schema, r.scope, t⟩ := .relay hrelay
    rw [step_of_relay hrelay, step_of_relay hrelay']
    refine ⟨?_, fun hfinished => ?_, fun hfinished => ?_⟩
    · simp only [Outcome.log_after, Log.finished_append, ho.finished]
    · exact ho.node (Log.finished_right hfinished)
    · have hend := Log.finished_right hfinished
      refine .append (.singles fun f hf => ?_) ((ho.findings hend).mono fun _ => hleads.block)
      obtain ⟨-, candidates, rfl⟩ := isUndecided_of_relay hrelay hf
      exact .single nofun
  | alone hs hrelay =>
    have hrelay' : relay? env sc t' s = none := by
      rw [← relay?_alike h.alike]
      exact hrelay
    rw [step_of_alone hs hrelay, step_of_alone hs hrelay']
    exact alone_reordered hs hrelay h
  | object shape => exact checkObject_reordered hrun (check_keeps env fuel) shape h
  | array item => exact checkArray_reordered hrun item h
  | union alternatives => exact checkUnion_reordered hrun alternatives h

/-- **Checks ignore the order of members**, with any fuel. -/
theorem check_ignoresOrder (env : Environment Discriminator) (fuel : Nat) :
    IgnoresOrder env (check env fuel) := by
  induction fuel with
  | zero => exact fun s sc t t' h => ⟨rfl, fun _ => h, fun _ => .nil⟩
  | succ fuel ih =>
    intro s sc t t' h
    have ho := step_ignoresOrder ih s sc t t' h
    rw [check_succ, check_succ]
    refine ⟨?_, fun hfinished => ?_, fun hfinished => ?_⟩
    · simp only [Outcome.log_after, Log.finished_append, ho.finished]
    · exact ho.node (Log.finished_right hfinished)
    · exact ho.findings (Log.finished_right hfinished)

end Step

end Check

/-! ### Validations -/

/-- **The order of members does not matter.** Of two trees that differ only in the order of members,
with distinct keys in each object, both validations come to their end or neither does. If they do,
the reports have the same diagnostics up to order, where what one object lacks is reported in the
same order, and corresponding nodes and keys have the same slots. -/
theorem report_perm_of_reordered (u : Setup Discriminator) (s : Schema Discriminator) (root : String)
    {t t' : Node} (h : t.clear.Reordered t'.clear) :
    ((∃ o, u.Validates s root t o) ↔ ∃ o', u.Validates s root t' o') ∧
    ∀ o o', u.Validates s root t o → u.Validates s root t' o' →
      (u.report o.log).Perm (u.report o'.log) ∧
      SameBlocks (Visit.Block u.toEnvironment ⟨s, { path := root }, t.clear⟩) o.log.findings
        o'.log.findings ∧
      o.node.Reordered o'.node := by
  have hlaw := fun fuel => Check.check_ignoresOrder u.toEnvironment fuel s { path := root } _ _ h
  refine ⟨⟨?_, ?_⟩, ?_⟩
  · rintro ⟨o, fuel, rfl, hfinished⟩
    exact ⟨_, fuel, rfl, (hlaw fuel).finished ▸ hfinished⟩
  · rintro ⟨o', fuel, rfl, hfinished⟩
    exact ⟨_, fuel, rfl, (hlaw fuel).finished ▸ hfinished⟩
  · rintro o o' ⟨fuel, rfl, hfinished⟩ hends'
    have hends : u.Validates s root t' _ := ⟨fuel, rfl, (hlaw fuel).finished ▸ hfinished⟩
    rw [hends'.unique hends]
    have hblocks := (hlaw fuel).findings hfinished
    exact ⟨hblocks.perm.map _, hblocks, (hlaw fuel).node hfinished⟩

/-- Three keys, the first of which holds a number. -/
def threeKeys : Schema Discriminator :=
  .object (.fixed ["a", "b", "c"] ⟨[("a", ⟨.scalar .number, none⟩)], ⟨.anything, none⟩⟩)

/-- An object in an object, with the members of both in the order in which they are given. -/
def nestedObject (order : List (Member Node) → List (Member Node)) : Node :=
  ⟨⟨0, 30⟩, none, .object (order
    [⟨some ⟨"a", ⟨1, 4⟩, none⟩, some ⟨⟨5, 20⟩, none, .object (order
      [⟨some ⟨"p", ⟨6, 9⟩, none⟩, some (.string "x" ⟨10, 13⟩)⟩, ⟨some ⟨"q", ⟨14, 17⟩, none⟩, none⟩])⟩⟩,
    ⟨some ⟨"z", ⟨21, 24⟩, none⟩, none⟩])⟩

theorem reordered_nestedObject : (nestedObject id).Reordered (nestedObject List.reverse) := by
  have hinner : List.Forall₂ (Member.Rel Node.Reordered)
      [⟨some ⟨"p", ⟨6, 9⟩, none⟩, some (.string "x" ⟨10, 13⟩)⟩, ⟨some ⟨"q", ⟨14, 17⟩, none⟩, none⟩]
      [⟨some ⟨"p", ⟨6, 9⟩, none⟩, some (.string "x" ⟨10, 13⟩)⟩, ⟨some ⟨"q", ⟨14, 17⟩, none⟩, none⟩] :=
    .cons (.valued _ (.leaf rfl rfl)) (.cons (.bare _) .nil)
  have hkeys : (["p", "q"] : List String).Nodup := by decide
  have hkeys' : (["a", "z"] : List String).Nodup := by decide
  have hobject := @Node.Reordered.object ⟨5, 20⟩ none _ _ _ hinner
    (List.reverse_perm _).symm hkeys
  exact .object (.cons (.valued _ hobject) (.cons (.bare _) .nil)) (List.reverse_perm _).symm hkeys'

/-- The order of members makes no difference to what is found in an object in an object. -/
theorem report_perm_nestedObject :
    let u : Setup Discriminator := {}
    let o := check u.toEnvironment 3 threeKeys { path := "" } (nestedObject id).clear
    let o' := check u.toEnvironment 3 threeKeys { path := "" } (nestedObject List.reverse).clear
    (nestedObject id).clear.Reordered (nestedObject List.reverse).clear ∧
      u.Validates threeKeys "" (nestedObject id) o ∧
      u.Validates threeKeys "" (nestedObject List.reverse) o' ∧
      o.log.findings.map (·.cause.code) = ["C-1-2", "C-1-2", "C-1-1", "C-1-3"] ∧
      o'.log.findings.map (·.cause.code) = ["C-1-2", "C-1-2", "C-1-3", "C-1-1"] ∧
      (u.report o.log).Perm (u.report o'.log) ∧ o.node.Reordered o'.node := by
  intro u o o'
  have hreordered := reordered_nestedObject.clear
  have hends : u.Validates threeKeys "" (nestedObject id) o := ⟨3, rfl, by decide⟩
  have hends' : u.Validates threeKeys "" (nestedObject List.reverse) o' := ⟨3, rfl, by decide⟩
  obtain ⟨-, hsame⟩ := report_perm_of_reordered u threeKeys "" hreordered
  obtain ⟨hperm, -, hnode⟩ := hsame o o' hends hends'
  exact ⟨hreordered, hends, hends', by decide, by decide, hperm, hnode⟩

end DocShape
