import DocShape.Proofs.Fuel
import DocShape.Proofs.Nesting
import DocShape.Proofs.Trimmed

/-!
# Raising the expectation depth only adds detail

The settings say how deep expectations are described. Two runs with different depths on the same tree
find the same and leave the same labels and hovers. Everything that is expected after the run with the
lower depth is what is expected after the other one, with some fields, keys or items left out, and is
nested no deeper than the depth allows (`report_eq_of_depth_le`).

The proof is a simulation between the runs, whose nodes differ in trimmed slots only. What a schema
says of itself is what a run leaves on a null node, so descriptions are trimmed because the slots of
runs are. Trials of alternatives have the same errors in both runs, and so the same winner. All that is
asked of the scopes that the runs are in is that they are in step (`Check.InStep`).
-/

namespace DocShape

/-- The same environment with another expectation depth. -/
def Environment.withDepth {ε : Type} (env : Environment ε) (depth : Int) : Environment ε :=
  { env with settings := { env.settings with expectationDepth := depth } }

/-- The same setup with another expectation depth. -/
def Setup.withDepth {ε : Type} (u : Setup ε) (depth : Int) : Setup ε :=
  { u with toEnvironment := u.toEnvironment.withDepth depth }

/-- Logs with the same findings one by one have the same findings when they are put together. -/
theorem Log.findings_join_congr {logs logs' : List Log}
    (h : List.Forall₂ (fun log log' => log.findings = log'.findings) logs logs') :
    (join logs).findings = (join logs').findings := by
  rw [findings_join, findings_join, List.flatMap_def, List.flatMap_def]
  exact congrArg List.flatten (map_eq_map_of_forall₂ h fun _ _ _ heq => heq)

/-- Two outcomes with the same findings, the slots of the first one trimmed. -/
structure Outcome.Trims (o o' : Outcome) : Prop where
  findings : o.log.findings = o'.log.findings
  node : o.node.SlotsRel SlotTrims o'.node

namespace Check

variable {ε : Type}

/-- The scopes that two runs with different depths are in at the same time: on the same path, and
wherever the first one describes parts, the second one does, too. The runs stay in such scopes, and
pick the same there for nodes of the same content. -/
structure InStep [CustomCheck ε] [Picking ε] (env : Environment ε) (D D' : Int)
    (R : Scope → Scope → Prop) : Prop where
  path_eq {sc sc' : Scope} (h : R sc sc') : sc.path = sc'.path
  describes {sc sc' : Scope} (h : R sc sc') (hdescribes : sc.Describes (env.withDepth D).settings) :
    sc'.Describes (env.withDepth D').settings
  aside {sc sc' : Scope} (h : R sc sc') : R sc.aside sc'.aside
  withPath {sc sc' : Scope} (h : R sc sc') (path : String) : R (sc.withPath path) (sc'.withPath path)
  index_eq {sc sc' : Scope} (h : R sc sc') {t t' : Node} (ht : t.clear = t'.clear) (custom : ε) :
    (Picking.picker custom).index (env.withDepth D).settings sc t =
      (Picking.picker custom).index (env.withDepth D').settings sc' t'

/-- Two runs that keep in step: on nodes with trimmed slots they have the same findings and leave
trimmed slots, wherever both come to their end. -/
def Trims (R : Scope → Scope → Prop) (run run' : Run ε) : Prop :=
  ∀ s sc sc' t t', R sc sc' → t.SlotsRel SlotTrims t' → (run s sc t).log.finished = true →
    (run' s sc' t').log.finished = true → (run s sc t).Trims (run' s sc' t')

/-- Two members with the same key, the slots of the first one's value trimmed, about which the same was
found. -/
structure MemberTrims (checked checked' : Member Node × Log) : Prop where
  findings : checked.2.findings = checked'.2.findings
  member : Member.Rel (Node.SlotsRel SlotTrims) checked.1 checked'.1

section Scopes

variable [CustomCheck ε] [Picking ε] {env : Environment ε} {D D' : Int} {R : Scope → Scope → Prop}
  {sc sc' : Scope}

/-- Under a greater depth more is described in the same scope. -/
theorem InStep.of_depth_le [Steady ε] (env : Environment ε) (hle : D ≤ D') :
    InStep env D D' (· = ·) where
  path_eq h := congrArg Scope.path h
  describes h hdescribes := h ▸ Int.le_trans hdescribes hle
  aside h := congrArg Scope.aside h
  withPath h path := congrArg (Scope.withPath · path) h
  index_eq h _ _ ht custom := h ▸ Steady.index_eq custom _ _ _ ht

variable (hR : InStep env D D' R) (hsc : R sc sc')

include hR hsc

/-- Both runs go down to the same part. -/
theorem InStep.descend (segment : String) : R (sc.descend segment) (sc'.descend segment) := by
  have hpath := hR.withPath hsc (sc.descend segment).path
  unfold Scope.descend at hpath ⊢
  rwa [hR.path_eq hsc] at hpath ⊢

theorem InStep.propertyScope (p : Property (Schema ε)) (key : String) :
    R (Check.propertyScope p key sc) (Check.propertyScope p key sc') := by
  unfold Check.propertyScope
  cases p.docPath? with
  | none => exact hR.descend hsc key
  | some segment => exact hR.descend (hR.descend hsc segment) key

/-- Both runs hand a node on to the same schema, with the same findings. -/
theorem relay?_inStep {t t' : Node} (h : t.clear = t'.clear) (s : Schema ε) :
    Option.Rel (fun r r' => r.schema = r'.schema ∧ R r.scope r'.scope ∧ r.log = r'.log)
      (relay? (env.withDepth D) sc t s) (relay? (env.withDepth D') sc' t' s) := by
  cases s with
  | anything | scalar _ | oneOf _ | matching _ | object _ | array _ | union _ => exact .none
  | named name =>
    show Option.Rel _ ((env.schemas.get? name).map _) ((env.schemas.get? name).map _)
    cases env.schemas.get? name with
    | none => exact .none
    | some s => exact .some ⟨rfl, hsc, rfl⟩
  | documented path s => exact .some ⟨rfl, hR.withPath hsc path, rfl⟩
  | switch key selector =>
    have hobject := Node.members?_eq_none_congr h
    rw [relay?, relay?, Node.textUnder?_congr h, Selector.choose_congr h]
    cases hmembers : t.members? with
    | none =>
      rw [hobject.mp hmembers]
      exact .none
    | some members =>
      obtain ⟨members', hmembers'⟩ := (Node.alike_of_clear h).exists_members hmembers
      rw [hmembers']
      exact .some ⟨rfl, hsc, rfl⟩
  | select selector =>
    rw [relay?, relay?, Selector.choose_congr h]
    exact .some ⟨rfl, hsc, rfl⟩
  | custom custom parts =>
    rw [relay?, relay?, hR.index_eq hsc h custom]
    cases parts[(Picking.picker custom).index (env.withDepth D').settings sc' t']? with
    | none => exact .none
    | some s => exact .some ⟨rfl, hsc, rfl⟩

end Scopes

section Step

variable [CustomCheck ε] [Picking ε] {env : Environment ε} {D D' : Int} {R : Scope → Scope → Prop}
  (hR : InStep env D D' R) {run run' : Run ε} (hrun : Trims R run run') {sc sc' : Scope}
  (hsc : R sc sc')

include hR hrun hsc

/-! ### Descriptions -/

/-- What a schema says of itself is trimmed. -/
theorem trims_describe {s : Schema ε} (hfinished : (describe run s sc).log.finished = true)
    (hfinished' : (describe run' s sc').log.finished = true) :
    SlotTrims (describe run s sc).expected (describe run' s sc').expected :=
  (hrun s sc.aside sc'.aside nowhere nowhere (hR.aside hsc) (.of_clear .none nowhere) hfinished
    hfinished').node.slot

/-- A part is described in both scopes, or in the second one only, or not at all. -/
theorem kept_describePart {s : Schema ε}
    (hfinished : (describePart run (env.withDepth D).settings s sc).log.finished = true)
    (hfinished' : (describePart run' (env.withDepth D').settings s sc').log.finished = true) :
    Kept (List.Forall₂ Expectation.Trims)
      (describePart run (env.withDepth D).settings s sc).expected
      (describePart run' (env.withDepth D').settings s sc').expected := by
  rw [joint_describePart Log.joint_finished] at hfinished hfinished'
  by_cases hdescribes : sc.Describes (env.withDepth D).settings
  · have hdescribes' := hR.describes hsc hdescribes
    rw [describePart, if_pos hdescribes, describePart, if_pos hdescribes']
    exact (trims_describe hR hrun hsc (hfinished hdescribes) (hfinished' hdescribes')).kept
  · rw [describePart, if_neg hdescribes]
    exact .leftOut _

theorem trims_describeShape {shape : Shape (Schema ε)}
    (hfinished : (describeShape run (env.withDepth D).settings sc shape).2.finished = true)
    (hfinished' : (describeShape run' (env.withDepth D').settings sc' shape).2.finished = true) :
    (describeShape run (env.withDepth D).settings sc shape).1.Trims
      (describeShape run' (env.withDepth D').settings sc' shape).1 := by
  cases shape with
  | free => exact .refl _
  | keyed keys fields =>
    exact .parts _ _ _ (.leftOut _) (kept_describePart hR hrun hsc hfinished hfinished') (.leftOut _)
  | fixed keys fields =>
    rw [joint_describeShape Log.joint_finished] at hfinished hfinished'
    by_cases hdescribes : sc.Describes (env.withDepth D).settings
    · have hdescribes' := hR.describes hsc hdescribes
      have hfields : ∀ key ∈ keys,
          SlotTrims (describe run (fields.property key).schema sc).expected
            (describe run' (fields.property key).schema sc').expected := by
        intro key hkey
        exact trims_describe hR hrun hsc (hfinished hdescribes _ (List.mem_map_of_mem hkey))
          (hfinished' hdescribes' _ (List.mem_map_of_mem hkey))
      simp only [describeShape, if_pos hdescribes, if_pos hdescribes', List.map_map]
      refine .parts _ _ _ (.kept ?_) (.leftOut _) (.leftOut _)
      rw [List.forall₂_map_left_iff, List.forall₂_map_right_iff, List.forall₂_same]
      exact fun key hkey => .mk _ _ _ (hfields key hkey)
    · by_cases hdescribes' : sc'.Describes (env.withDepth D').settings
      · simp only [describeShape, if_neg hdescribes, if_pos hdescribes']
        exact .parts _ _ _ (.leftOut _) (.leftOut _) (.leftOut _)
      · simp only [describeShape, if_neg hdescribes, if_neg hdescribes']
        exact .refl _

/-! ### Objects and arrays -/

theorem trims_checkDeclared (keys : List String) (fields : Fields (Schema ε)) {m m' : Member Node}
    (hm : Member.Rel (Node.SlotsRel SlotTrims) m m')
    (hfinished : (checkDeclared (env.withDepth D) run keys fields sc m).2.finished = true)
    (hfinished' : (checkDeclared (env.withDepth D') run' keys fields sc' m').2.finished = true) :
    MemberTrims (checkDeclared (env.withDepth D) run keys fields sc m)
      (checkDeclared (env.withDepth D') run' keys fields sc' m') := by
  obtain ⟨_ | key, value⟩ := m
  · cases hm with
    | bare _ => exact ⟨rfl, .bare _⟩
    | valued _ hu => exact ⟨rfl, .valued _ hu⟩
  · obtain ⟨_ | key', value'⟩ := m'
    · cases hm.key_eq
    · cases hm.key_eq
      by_cases hmem : key.text ∈ keys
      · rw [joint_checkDeclared Log.joint_finished] at hfinished hfinished'
        have hvalue : (valueOrNull key ⟨some key, value⟩).SlotsRel SlotTrims
            (valueOrNull key ⟨some key, value'⟩) := by
          cases hm with
          | bare _ => exact .of_clear .none (Node.null _)
          | valued _ hu => exact hu
        have hinside := hR.propertyScope hsc (fields.property key.text) key.text
        have ho := hrun _ _ _ _ _ hinside hvalue (hfinished key rfl hmem) (hfinished' key rfl hmem)
        rw [checkDeclared_of_mem hmem, checkDeclared_of_mem hmem, checkProperty, checkProperty,
          ho.node.labels_eq, hR.path_eq hinside]
        refine ⟨congrArg (fun findings => _ ++ findings) ho.findings, ?_⟩
        cases hm with
        | bare _ => exact .bare _
        | valued _ _ => exact .valued _ ho.node
      · rw [checkDeclared_of_not_mem hmem, checkDeclared_of_not_mem hmem]
        exact ⟨rfl, hm⟩

omit [CustomCheck ε] [Picking ε] hR in
theorem trims_checkKeyed (keys : Schema ε) (fields : Fields (Schema ε)) {m m' : Member Node}
    (hm : Member.Rel (Node.SlotsRel SlotTrims) m m')
    (hfinished : (checkKeyed run keys fields sc m).2.finished = true)
    (hfinished' : (checkKeyed run' keys fields sc' m').2.finished = true) :
    MemberTrims (checkKeyed run keys fields sc m) (checkKeyed run' keys fields sc' m') := by
  rw [joint_checkKeyed Log.joint_finished] at hfinished hfinished'
  cases hm with
  | bare key =>
    cases key with
    | none => exact ⟨rfl, .bare none⟩
    | some key =>
      have hkey := hrun keys sc sc' _ _ hsc (.of_clear .none key.toNode) (hfinished key rfl).1
        (hfinished' key rfl).1
      exact ⟨hkey.findings, .bare (some key)⟩
  | valued key hu =>
    cases key with
    | none => exact ⟨rfl, .valued none hu⟩
    | some key =>
      obtain ⟨hkeylog, hvalue⟩ := hfinished key rfl
      obtain ⟨hkeylog', hvalue'⟩ := hfinished' key rfl
      have hkey := hrun keys sc sc' _ _ hsc (.of_clear .none key.toNode) hkeylog hkeylog'
      have ho := hrun _ sc sc' _ _ hsc hu (hvalue _ rfl) (hvalue' _ rfl)
      exact ⟨congrArg₂ (· ++ ·) hkey.findings ho.findings, .valued (some key) ho.node⟩

theorem trims_checkMembers (shape : Shape (Schema ε)) (span : Span)
    {members members' : List (Member Node)}
    (hmembers : List.Forall₂ (Member.Rel (Node.SlotsRel SlotTrims)) members members')
    (hfinished : (checkMembers (env.withDepth D) run sc span members shape).2.finished = true)
    (hfinished' : (checkMembers (env.withDepth D') run' sc' span members' shape).2.finished = true) :
    (checkMembers (env.withDepth D) run sc span members shape).2.findings =
        (checkMembers (env.withDepth D') run' sc' span members' shape).2.findings ∧
      List.Forall₂ (Member.Rel (Node.SlotsRel SlotTrims))
        (checkMembers (env.withDepth D) run sc span members shape).1
        (checkMembers (env.withDepth D') run' sc' span members' shape).1 := by
  have hjoin : ∀ {checked checked' : List (Member Node × Log)},
      List.Forall₂ MemberTrims checked checked' →
      (Log.join (checked.map (·.2))).findings = (Log.join (checked'.map (·.2))).findings ∧
        List.Forall₂ (Member.Rel (Node.SlotsRel SlotTrims)) (checked.map (·.1))
          (checked'.map (·.1)) := fun h =>
    ⟨Log.findings_join_congr (forall₂_map_of_mem h fun _ _ _ hm => hm.findings),
      forall₂_map_of_mem h fun _ _ _ hm => hm.member⟩
  cases shape with
  | free => exact ⟨rfl, hmembers⟩
  | fixed keys fields =>
    have hlogs := Log.finished_right hfinished
    have hlogs' := Log.finished_right hfinished'
    rw [Log.joint_finished.join_iff, List.forall_mem_map, List.forall_mem_map] at hlogs hlogs'
    have hchecked : List.Forall₂ MemberTrims
        (members.map (checkDeclared (env.withDepth D) run keys fields sc))
        (members'.map (checkDeclared (env.withDepth D') run' keys fields sc')) :=
      forall₂_map_of_mem (forall₂_mem hmembers) fun m _ m' h =>
        trims_checkDeclared hR hrun hsc keys fields h.2.2 (hlogs m h.1) (hlogs' m' h.2.1)
    obtain ⟨hfindings, hnodes⟩ := hjoin hchecked
    refine ⟨?_, hnodes⟩
    simp only [checkMembers, missingLog, Log.findings_append, Member.keys_eq_of_rel hmembers,
      hfindings]
  | keyed keys fields =>
    simp only [checkMembers] at hfinished hfinished'
    rw [Log.joint_finished.join_iff, List.forall_mem_map, List.forall_mem_map]
      at hfinished hfinished'
    exact hjoin (forall₂_map_of_mem (forall₂_mem hmembers) fun m _ m' h =>
      trims_checkKeyed hrun hsc keys fields h.2.2 (hfinished m h.1) (hfinished' m' h.2.1))

theorem trims_checkObject (shape : Shape (Schema ε)) {t t' : Node} (ht : t.SlotsRel SlotTrims t')
    (hfinished : (checkObject (env.withDepth D) run shape sc t).log.finished = true)
    (hfinished' : (checkObject (env.withDepth D') run' shape sc' t').log.finished = true) :
    (checkObject (env.withDepth D) run shape sc t).Trims
      (checkObject (env.withDepth D') run' shape sc' t') := by
  cases hmembers : t.members? with
  | none =>
    have hmembers' := ht.members_none hmembers
    rw [checkObject_of_none hmembers] at hfinished ⊢
    rw [checkObject_of_none hmembers'] at hfinished' ⊢
    have hdescribed := trims_describeShape hR hrun hsc
      (Log.finished_left hfinished)
      (Log.finished_left hfinished')
    refine ⟨?_, ht.expecting (.some (.cons hdescribed .nil))⟩
    dsimp only
    rw [Log.findings_append, Log.findings_append, findings_describeShape, findings_describeShape,
      ht.alike.wrongKind, ht.alike.span]
  | some members =>
    obtain ⟨members', hmembers', hrel⟩ := ht.members hmembers
    rw [checkObject_of_members hmembers] at hfinished ⊢
    rw [checkObject_of_members hmembers'] at hfinished' ⊢
    obtain ⟨hshape, hchecked⟩ := (Log.joint_finished.append_iff _ _).mp hfinished
    obtain ⟨hshape', hchecked'⟩ := (Log.joint_finished.append_iff _ _).mp hfinished'
    have hdescribed := trims_describeShape hR hrun hsc hshape hshape'
    rw [← ht.alike.span] at hchecked' ⊢
    obtain ⟨hfindings, hnodes⟩ := trims_checkMembers hR hrun hsc shape t.span hrel hchecked hchecked'
    refine ⟨?_, .of_members rfl (.some (.cons hdescribed .nil)) rfl rfl hnodes⟩
    dsimp only
    rw [Log.findings_append, Log.findings_append, findings_describeShape, findings_describeShape,
      hfindings]

theorem trims_checkArray (item : Schema ε) {t t' : Node} (ht : t.SlotsRel SlotTrims t')
    (hfinished : (checkArray (env.withDepth D) run item sc t).log.finished = true)
    (hfinished' : (checkArray (env.withDepth D') run' item sc' t').log.finished = true) :
    (checkArray (env.withDepth D) run item sc t).Trims
      (checkArray (env.withDepth D') run' item sc' t') := by
  have htrims : ∀ {items items' : Option (List Expectation)},
      Kept (List.Forall₂ Expectation.Trims) items items' →
      SlotTrims (some [{ Expectation.array with items := items }])
        (some [{ Expectation.array with items := items' }]) := fun h =>
    .some (.cons (.parts _ _ _ (.leftOut _) (.leftOut _) h) .nil)
  cases hitems : t.items? with
  | none =>
    have hitems' := ht.items_none hitems
    rw [checkArray_of_none hitems] at hfinished ⊢
    rw [checkArray_of_none hitems'] at hfinished' ⊢
    have hpart := kept_describePart hR hrun hsc
      (Log.finished_left hfinished)
      (Log.finished_left hfinished')
    refine ⟨?_, ht.expecting (htrims hpart)⟩
    dsimp only
    rw [Log.findings_append, Log.findings_append, findings_describePart, findings_describePart,
      ht.alike.wrongKind, ht.alike.span]
  | some items =>
    obtain ⟨items', hitems', hrel⟩ := ht.items hitems
    rw [checkArray_of_items hitems] at hfinished ⊢
    rw [checkArray_of_items hitems'] at hfinished' ⊢
    obtain ⟨hpart, hchecked⟩ := (Log.joint_finished.append_iff _ _).mp hfinished
    obtain ⟨hpart', hchecked'⟩ := (Log.joint_finished.append_iff _ _).mp hfinished'
    rw [Log.joint_finished.join_iff, List.map_map, List.forall_mem_map] at hchecked hchecked'
    have hdescribed := kept_describePart hR hrun hsc hpart hpart'
    have houtcomes : List.Forall₂ Outcome.Trims (items.map (run item sc))
        (items'.map (run' item sc')) :=
      forall₂_map_of_mem (forall₂_mem hrel) fun u _ u' h =>
        hrun item sc sc' u u' hsc h.2.2 (hchecked u h.1) (hchecked' u' h.2.1)
    have hlogs := Log.findings_join_congr
      (forall₂_map_of_mem (f := (·.log)) (g := (·.log)) houtcomes fun _ _ _ ho => ho.findings)
    refine ⟨?_, .of_items ht.alike.span (htrims hdescribed) rfl rfl
      (forall₂_map_of_mem houtcomes fun _ _ _ ho => ho.node)⟩
    dsimp only
    rw [Log.findings_append, Log.findings_append, findings_describePart, findings_describePart,
      hlogs]

/-! ### Alternatives -/

omit [CustomCheck ε] [Picking ε] hR in
/-- Trials keep in step: one of them is the last one in both runs. -/
theorem trims_trials (alternatives : List (Schema ε)) {t t' : Node} (ht : t.SlotsRel SlotTrims t')
    (hfinished : ∀ o ∈ trials run sc alternatives t, o.log.finished = true)
    (hfinished' : ∀ o ∈ trials run' sc' alternatives t', o.log.finished = true) :
    List.Forall₂ Outcome.Trims (trials run sc alternatives t) (trials run' sc' alternatives t') := by
  induction alternatives generalizing t t' with
  | nil => exact .nil
  | cons s rest ih =>
    have ho := hrun s sc sc' t t' hsc ht (hfinished _ (head_mem_trials sc s rest t))
      (hfinished' _ (head_mem_trials sc' s rest t'))
    have herrors : (run s sc t).log.errors = (run' s sc' t').log.errors :=
      congrArg (List.countP _) ho.findings
    rw [trials] at hfinished hfinished' ⊢
    rw [trials]
    by_cases hs : (run s sc t).log.errors = 0
    · have hs' := herrors.symm.trans hs
      rw [if_pos hs, if_pos hs']
      exact .cons ho .nil
    · have hs' := fun hzero => hs (herrors.trans hzero)
      rw [if_neg hs] at hfinished ⊢
      rw [if_neg hs'] at hfinished' ⊢
      exact .cons ho (ih ho.node (fun o hmem => hfinished o (List.mem_cons_of_mem _ hmem))
        fun o hmem => hfinished' o (List.mem_cons_of_mem _ hmem))

theorem trims_checkUnion (hkeeps : Keeps run) (hkeeps' : Keeps run')
    (alternatives : List (Schema ε)) {t t' : Node} (ht : t.SlotsRel SlotTrims t')
    (hfinished : (checkUnion run alternatives sc t).log.finished = true)
    (hfinished' : (checkUnion run' alternatives sc' t').log.finished = true) :
    (checkUnion run alternatives sc t).Trims (checkUnion run' alternatives sc' t') := by
  rcases checkUnion_cases hkeeps alternatives sc t with ⟨rfl, _⟩ | ⟨index, best, hbest, hindex, _⟩
  · exact ⟨rfl, ht⟩
  rcases checkUnion_cases hkeeps' alternatives sc' t' with ⟨rfl, _⟩ | ⟨_, best', hbest', hindex', _⟩
  · exact ⟨rfl, ht⟩
  obtain ⟨htried, hchosen, huntried⟩ := (finished_chosen_iff hkeeps hbest hindex).mp hfinished
  obtain ⟨htried', hchosen', huntried'⟩ :=
    (finished_chosen_iff hkeeps' hbest' hindex').mp hfinished'
  have htrials := trims_trials hrun hsc alternatives ht htried htried'
  -- the winner is the same, and so is the number of those that were tried
  have hcounts : errorCounts (trials run sc alternatives t) =
      errorCounts (trials run' sc' alternatives t') :=
    map_eq_map_of_forall₂ htrials fun _ _ _ ho => congrArg (List.countP _) ho.findings
  have hlength := htrials.length_eq
  have hsame := (fewest?_congr hcounts).symm.trans hindex
  cases hindex'.symm.trans hsame
  cases hbest'.symm.trans hbest
  have hclear : t.clear.SlotsRel SlotTrims t'.clear := by
    rw [← ht.clear_eq]
    exact .of_clear .none t
  have hbestTrims := hrun best sc sc' _ _ hsc hclear hchosen hchosen'
  refine ⟨?_, ?_⟩
  · rw [findings_chosen hkeeps hbest hindex, findings_chosen hkeeps' hbest hindex']
    exact hbestTrims.findings
  · rw [node_chosen hkeeps hbest hindex, node_chosen hkeeps' hbest hindex']
    refine hbestTrims.node.expecting (.some ?_)
    have hslots := forall₂_map_of_mem (f := (·.node.expectation)) (g := (·.node.expectation))
      (forall₂_set_set htrials index hbestTrims) fun _ _ _ ho => ho.node.slot
    have hdescribed : List.Forall₂ SlotTrims
        (((alternatives.drop (trials run sc alternatives t).length).map (describe run · sc)).map
          (·.expected))
        (((alternatives.drop (trials run' sc' alternatives t').length).map (describe run' · sc')).map
          (·.expected)) := by
      rw [← hlength] at huntried' ⊢
      rw [List.map_map, List.map_map, List.forall₂_map_left_iff, List.forall₂_map_right_iff,
        List.forall₂_same]
      exact fun s hs => trims_describe hR hrun hsc (huntried s hs) (huntried' s hs)
    exact List.rel_flatMap (List.rel_append hslots hdescribed) fun _ _ hslot => hslot.getD

end Step

/-! ### Any check -/

variable [CustomCheck ε] [Picking ε] {env : Environment ε} {D D' : Int}

/-- **One step** keeps in step if everything further inside does. -/
theorem step_trims {R : Scope → Scope → Prop} (hR : InStep env D D' R) {run run' : Run ε}
    (hkeeps : Keeps run) (hkeeps' : Keeps run') (hrun : Trims R run run') :
    Trims R (Check.step (env.withDepth D) run) (Check.step (env.withDepth D') run') := by
  intro s sc sc' t t' hsc ht hfinished hfinished'
  have hrelay' := relay?_inStep hR hsc ht.clear_eq s
  cases way (env.withDepth D) sc t s with
  | relay hrelay =>
    rw [hrelay] at hrelay'
    generalize hnext : relay? (env.withDepth D') sc' t' s = next at hrelay'
    cases hrelay' with
    | @some r r' hr =>
      obtain ⟨hschema, hscope, hlog⟩ := hr
      rw [step_of_relay hrelay] at hfinished ⊢
      rw [step_of_relay hnext] at hfinished' ⊢
      rw [← hschema, ← hlog] at hfinished' ⊢
      have ho := hrun _ _ _ t t' hscope ht (Log.finished_right hfinished)
        (Log.finished_right hfinished')
      exact ⟨congrArg (fun findings => _ ++ findings) ho.findings, ho.node⟩
  | alone hs hrelay =>
    rw [hrelay] at hrelay'
    generalize hnext : relay? (env.withDepth D') sc' t' s = next at hrelay'
    cases hrelay' with
    | none =>
      rw [step_of_alone hs hrelay, step_of_alone hs hnext]
      refine ⟨congrArg Log.findings (log_alone_alike ht.alike s), node_alone_congr s ht ?_⟩
      exact fun expected => ht.expecting (.some (forall₂_trims_refl expected))
  | object shape => exact trims_checkObject hR hrun hsc shape ht hfinished hfinished'
  | array item => exact trims_checkArray hR hrun hsc item ht hfinished hfinished'
  | union alternatives =>
    exact trims_checkUnion hR hrun hsc hkeeps hkeeps' alternatives ht hfinished hfinished'

/-- **Checks with different depths keep in step**, with any fuel, from any scopes that do. -/
theorem check_inStep {R : Scope → Scope → Prop} (hR : InStep env D D' R) (fuel fuel' : Nat) :
    Trims R (check (env.withDepth D) fuel) (check (env.withDepth D') fuel') := by
  induction fuel generalizing fuel' with
  | zero =>
    intro s sc sc' t t' _ _ hfinished _
    cases hfinished
  | succ fuel ih =>
    intro s sc sc' t t' hsc ht hfinished hfinished'
    cases fuel' with
    | zero => cases hfinished'
    | succ fuel' =>
      have hfin := Log.finished_right hfinished
      have hfin' := Log.finished_right hfinished'
      have hstep := step_trims hR (check_keeps _ fuel) (check_keeps _ fuel') (ih fuel') s sc sc' t t'
        hsc ht hfin hfin'
      exact ⟨hstep.findings, hstep.node⟩

/-- In one scope, checks keep in step if the depth of the second one is no smaller. -/
theorem check_trims [Steady ε] (hle : D ≤ D') (fuel fuel' : Nat) (s : Schema ε) (sc : Scope)
    (t t' : Node) (ht : t.SlotsRel SlotTrims t')
    (hfinished : (check (env.withDepth D) fuel s sc t).log.finished = true)
    (hfinished' : (check (env.withDepth D') fuel' s sc t').log.finished = true) :
    (check (env.withDepth D) fuel s sc t).Trims (check (env.withDepth D') fuel' s sc t') :=
  check_inStep (.of_depth_le env hle) fuel fuel' s sc sc t t' rfl ht hfinished hfinished'

end Check

/-- **A greater expectation depth only adds detail.** Two runs against the same schema on the same tree,
the second one with a depth that is no smaller: where both come to their end, all that is expected after
the first one is nested no deeper than its depth allows, both have the same report, and a path leads to
a node in both trees or in none. The two nodes then have the same labels and the same keys with the same
hovers, and the first one expects what the second one does, with some fields, keys or items left out.
Custom checks are judges: they read neither slots nor settings, and so not the depth itself. -/
theorem report_eq_of_depth_le (u : Setup Judge) {D D' : Int} (hle : D ≤ D') {s : Schema Judge}
    {root : String} {t : Node} {o o' : Outcome} (h : (u.withDepth D).Validates s root t o)
    (h' : (u.withDepth D').Validates s root t o') :
    o.node.AllSlots (Expectation.NestsWithin (D + 1).toNat) ∧
    (u.withDepth D).report o.log = (u.withDepth D').report o'.log ∧
    ∀ path, Option.Rel (fun v v' => v.labels = v'.labels ∧
        (∀ i, v.memberKey? i = v'.memberKey? i) ∧ SlotTrims v.expectation v'.expectation)
      (o.node.find? path) (o'.node.find? path) := by
  obtain ⟨fuel, rfl, hfinished⟩ := h
  obtain ⟨fuel', rfl, hfinished'⟩ := h'
  have htrims := Check.check_trims hle fuel fuel' s { path := root } t.clear
    t.clear (.of_clear .none t) hfinished hfinished'
  refine ⟨?_, congrArg (List.map _) htrims.findings, htrims.node.places⟩
  refine Check.check_bounded _ fuel s { path := root } t.clear _ ?_ (Node.allSlots_clear t)
  exact Nat.le_of_eq (congrArg Int.toNat (Int.sub_zero (D + 1)))

/-- Links of a chain, each with the next one under a key. -/
def chain : Setup Judge where
  schemas := ⟨[("link", .object (.fixed ["next"]
    ⟨[("next", ⟨.named "link", some { optional := true }⟩)], ⟨.anything, none⟩⟩))]⟩

/-- A link with a number for the next one. -/
def brokenLink : Node :=
  ⟨⟨0, 9⟩, none, .object [⟨some ⟨"next", ⟨1, 7⟩, none⟩, some ⟨⟨8, 9⟩, none, .number ⟨0⟩⟩⟩]⟩

/-- With a depth of one, a link expects fields in its field. With a depth of zero it does not, and the
same is found. -/
theorem report_eq_brokenLink : ∃ o o',
    (chain.withDepth 0).Validates (.named "link") "" brokenLink o ∧
    (chain.withDepth 1).Validates (.named "link") "" brokenLink o' ∧
    o.log.findings.map (·.cause) = [.typeMismatch "object" "number"] ∧
    (chain.withDepth 0).report o.log = (chain.withDepth 1).report o'.log ∧
    o.node.AllSlots (Expectation.NestsWithin 1) ∧ ¬ o'.node.AllSlots (Expectation.NestsWithin 1) := by
  obtain ⟨o, ho, hcauses⟩ : ∃ o, (chain.withDepth 0).Validates (.named "link") "" brokenLink o ∧
      o.log.findings.map (·.cause) = [.typeMismatch "object" "number"] :=
    ⟨_, ⟨8, rfl, rfl⟩, rfl⟩
  obtain ⟨o', e, field, inner, ho', hslot, hfields, hvalue, hinner⟩ : ∃ o' e field inner,
      (chain.withDepth 1).Validates (.named "link") "" brokenLink o' ∧
      o'.node.expectation = some [e] ∧ e.fields = some [field] ∧ field.value = some [inner] ∧
      inner.fields.isSome = true :=
    ⟨_, _, _, _, ⟨8, rfl, rfl⟩, rfl, rfl, rfl, rfl⟩
  have hle : (0 : Int) ≤ 1 := by decide
  obtain ⟨hnests, hreport, -⟩ := report_eq_of_depth_le chain hle ho ho'
  refine ⟨o, o', ho, ho', hcauses, hreport, hnests, fun hnests' => ?_⟩
  have he := hnests'.slot _ hslot e (List.mem_singleton_self e)
  have hbare := he.1 _ hfields field (List.mem_singleton_self field) _ hvalue inner
    (List.mem_singleton_self inner)
  rw [hbare.1] at hinner
  cases hinner

end DocShape
