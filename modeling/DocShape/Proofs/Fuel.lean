import DocShape.Setup
import DocShape.Proofs.Joint
import DocShape.Proofs.Keeps

/-!
# More fuel changes nothing

A check that has come to its end never asked for more fuel, so with more fuel it comes to the same
(`check_extends`). What a check comes to is therefore a matter of the check alone, and not of its
fuel: `Environment.Ends` says that some fuel is enough, and what comes of it, and there is at most
one outcome (`Environment.Ends.unique`).

Every run that a step makes leaves its mark in the log of the step, be it a description, a trial or
the check of a value. A step that has come to its end has therefore come to the end of all of them,
and goes the same way with another run that agrees on those (`step_extends`).
-/

namespace DocShape

variable {ε : Type}

namespace Check

/-- A run that comes to the same as another one wherever that one comes to its end. -/
def Extends (run run' : Run ε) : Prop :=
  ∀ s sc t, (run s sc t).log.finished = true → run' s sc t = run s sc t

section Step

variable {run run' : Run ε} (h : Extends run run') {env : Environment ε} {sc : Scope}

include h

/-! ### Objects and arrays -/

theorem describe_extends {s : Schema ε} (hfinished : (describe run s sc).log.finished = true) :
    describe run' s sc = describe run s sc := by
  have hrun : run' s sc.aside nowhere = run s sc.aside nowhere := h s sc.aside nowhere hfinished
  unfold describe
  rw [hrun]

theorem describePart_extends {s : Schema ε}
    (hfinished : (describePart run env.settings s sc).log.finished = true) :
    describePart run' env.settings s sc = describePart run env.settings s sc := by
  rw [joint_describePart Log.joint_finished] at hfinished
  unfold describePart
  by_cases hdescribes : sc.Describes env.settings
  · rw [if_pos hdescribes, if_pos hdescribes, describe_extends h (hfinished hdescribes)]
  · rw [if_neg hdescribes, if_neg hdescribes]

theorem describeShape_extends {shape : Shape (Schema ε)}
    (hfinished : (describeShape run env.settings sc shape).2.finished = true) :
    describeShape run' env.settings sc shape = describeShape run env.settings sc shape := by
  cases shape with
  | free => rfl
  | fixed keys fields =>
    rw [joint_describeShape Log.joint_finished] at hfinished
    unfold describeShape
    by_cases hdescribes : sc.Describes env.settings
    · have hrows : keys.map (fun key => (key, describe run' (fields.property key).schema sc)) =
          keys.map fun key => (key, describe run (fields.property key).schema sc) := by
        refine List.map_congr_left fun key hkey => ?_
        have hpart := hfinished hdescribes _ (List.mem_map_of_mem hkey)
        rw [describe_extends h hpart]
      simp only [hrows]
    · simp only [if_neg hdescribes]
  | keyed keys fields =>
    have hpart : describePart run' env.settings keys sc = describePart run env.settings keys sc :=
      describePart_extends h hfinished
    simp only [describeShape, hpart]

theorem checkDeclared_extends {keys : List String} {fields : Fields (Schema ε)} {m : Member Node}
    (hfinished : ∀ key, m.key = some key → key.text ∈ keys →
      (run (fields.property key.text).schema
        (propertyScope (fields.property key.text) key.text sc) (valueOrNull key m)).log.finished) :
    checkDeclared env run' keys fields sc m = checkDeclared env run keys fields sc m := by
  obtain ⟨_ | key, value⟩ := m
  · rfl
  · by_cases hmem : key.text ∈ keys
    · have hvalue := h _ _ _ (hfinished key rfl hmem)
      rw [checkDeclared_of_mem hmem, checkDeclared_of_mem hmem, checkProperty, checkProperty, hvalue]
    · rw [checkDeclared_of_not_mem hmem, checkDeclared_of_not_mem hmem]

theorem checkKeyed_extends {keys : Schema ε} {fields : Fields (Schema ε)} {m : Member Node}
    (hfinished : ∀ key, m.key = some key → (run keys sc key.toNode).log.finished ∧
      ∀ u, m.value = some u → (run (fields.property key.text).schema sc u).log.finished) :
    checkKeyed run' keys fields sc m = checkKeyed run keys fields sc m := by
  obtain ⟨_ | key, value⟩ := m
  · rfl
  · obtain ⟨hkey, hvalue⟩ := hfinished key rfl
    have hkey' := h _ _ _ hkey
    cases value with
    | none => simp only [checkKeyed, hkey']
    | some u =>
      have hu := h _ _ _ (hvalue u rfl)
      simp only [checkKeyed, hkey', hu]

theorem checkMembers_extends {span : Span} {members : List (Member Node)} {shape : Shape (Schema ε)}
    (hfinished : (checkMembers env run sc span members shape).2.finished = true) :
    checkMembers env run' sc span members shape = checkMembers env run sc span members shape := by
  cases shape with
  | free => rfl
  | fixed keys fields =>
    rw [joint_checkMembers_fixed Log.joint_finished] at hfinished
    have hmembers : members.map (checkDeclared env run' keys fields sc) =
        members.map (checkDeclared env run keys fields sc) :=
      List.map_congr_left fun m hm => checkDeclared_extends h (hfinished.2 m hm)
    simp only [checkMembers, hmembers]
  | keyed keys fields =>
    rw [joint_checkMembers_keyed Log.joint_finished] at hfinished
    have hmembers : members.map (checkKeyed run' keys fields sc) =
        members.map (checkKeyed run keys fields sc) :=
      List.map_congr_left fun m hm => checkKeyed_extends h (hfinished m hm)
    simp only [checkMembers, hmembers]

theorem checkObject_extends {shape : Shape (Schema ε)} {t : Node}
    (hfinished : (checkObject env run shape sc t).log.finished = true) :
    checkObject env run' shape sc t = checkObject env run shape sc t := by
  obtain ⟨span, expectation, body⟩ := t
  cases body with
  | object members =>
    obtain ⟨hdescribed, hmembers⟩ := (Log.joint_finished.append_iff _ _).mp hfinished
    simp only [checkObject, describeShape_extends h hdescribed, checkMembers_extends h hmembers]
  | array _ | string _ | number _ | boolean _ | null =>
    obtain ⟨hdescribed, -⟩ := (Log.joint_finished.append_iff _ _).mp hfinished
    simp only [checkObject, describeShape_extends h hdescribed]

theorem checkArray_extends {item : Schema ε} {t : Node}
    (hfinished : (checkArray env run item sc t).log.finished = true) :
    checkArray env run' item sc t = checkArray env run item sc t := by
  obtain ⟨span, expectation, body⟩ := t
  cases body with
  | array items =>
    obtain ⟨hdescribed, hitems⟩ := (Log.joint_finished.append_iff _ _).mp hfinished
    rw [Log.joint_finished.join_iff, List.map_map, List.forall_mem_map] at hitems
    have hrun : items.map (run' item sc) = items.map (run item sc) :=
      List.map_congr_left fun u hu => h item sc u (hitems u hu)
    simp only [checkArray, describePart_extends h hdescribed, hrun]
  | object _ | string _ | number _ | boolean _ | null =>
    obtain ⟨hdescribed, -⟩ := (Log.joint_finished.append_iff _ _).mp hfinished
    simp only [checkArray, describePart_extends h hdescribed]

/-! ### Alternatives -/

theorem trials_extends {alternatives : List (Schema ε)} {t : Node}
    (hfinished : ∀ o ∈ trials run sc alternatives t, o.log.finished = true) :
    trials run' sc alternatives t = trials run sc alternatives t := by
  induction alternatives generalizing t with
  | nil => rfl
  | cons s rest ih =>
    rw [trials] at hfinished
    have hhead : (run s sc t).log.finished = true := by
      split at hfinished <;> exact hfinished _ List.mem_cons_self
    have hrun := h s sc t hhead
    rw [trials, trials, hrun]
    by_cases hs : (run s sc t).log.errors = 0
    · rw [if_pos hs, if_pos hs]
    · rw [if_neg hs] at hfinished
      rw [if_neg hs, if_neg hs, ih fun o ho => hfinished o (List.mem_cons_of_mem _ ho)]

theorem checkUnion_extends (hkeeps : Keeps run) {alternatives : List (Schema ε)} {t : Node}
    (hfinished : (checkUnion run alternatives sc t).log.finished = true) :
    checkUnion run' alternatives sc t = checkUnion run alternatives sc t := by
  rcases checkUnion_cases hkeeps alternatives sc t with
    ⟨rfl, _⟩ | ⟨index, best, hbest, hindex, heq⟩
  · rfl
  · obtain ⟨htried, hchosen, huntried⟩ :=
      (finished_chosen_iff hkeeps hbest hindex).mp hfinished
    have htrials : trials run' sc alternatives t = trials run sc alternatives t :=
      trials_extends h htried
    have hchosen' := h best sc t.clear hchosen
    have hdescribed :
        (alternatives.drop (trials run sc alternatives t).length).map (describe run' · sc) =
          (alternatives.drop (trials run sc alternatives t).length).map (describe run · sc) := by
      exact List.map_congr_left fun s hs => describe_extends h (huntried s hs)
    rw [heq]
    simp only [checkUnion, htrials, hindex, hbest, clear_lastNode hkeeps, hchosen', hdescribed]

end Step

/-! ### Every schema -/

variable [CustomCheck ε] [Picking ε]

/-- **One step** that has come to its end is the same under a run that comes to the same wherever
the first one comes to its end. -/
theorem step_extends (env : Environment ε) {run run' : Run ε} (hkeeps : Keeps run)
    (h : Extends run run') : Extends (Check.step env run) (Check.step env run') := by
  intro s sc t hfinished
  cases way env sc t s with
  | relay hrelay =>
    rw [step_of_relay hrelay] at hfinished ⊢
    have hrun := h _ _ _ (Log.finished_right hfinished)
    rw [step_of_relay hrelay, hrun]
  | alone hs hrelay => rw [step_of_alone hs hrelay, step_of_alone hs hrelay]
  | object shape => exact checkObject_extends h hfinished
  | array item => exact checkArray_extends h hfinished
  | union alternatives => exact checkUnion_extends h hkeeps hfinished

/-- One more unit of fuel changes nothing that has come to its end. -/
theorem check_extends_succ (env : Environment ε) (fuel : Nat) :
    Extends (check env fuel) (check env (fuel + 1)) := by
  induction fuel with
  | zero =>
    intro s sc t hfinished
    cases hfinished
  | succ fuel ih =>
    intro s sc t hfinished
    have hstep := Log.finished_right hfinished
    rw [check_succ, check_succ, step_extends env (check_keeps env fuel) ih s sc t hstep]

/-- **More fuel** changes nothing that has come to its end. -/
theorem check_extends (env : Environment ε) {fuel more : Nat} (hle : fuel ≤ more) :
    Extends (check env fuel) (check env more) := by
  induction hle with
  | refl => exact fun _ _ _ _ => rfl
  | @step more _ ih =>
    intro s sc t hfinished
    have hmore := ih s sc t hfinished
    rw [← hmore] at hfinished
    have hnext := check_extends_succ env more s sc t hfinished
    rw [hnext, hmore]

end Check

/-! ### Checks that come to their end -/

/-- A check that comes to its end, and what it comes to: some fuel is enough for it. -/
def Environment.Ends [CustomCheck ε] (env : Environment ε) (s : Schema ε) (sc : Scope) (t : Node)
    (o : Outcome) : Prop :=
  ∃ fuel, check env fuel s sc t = o ∧ o.log.finished = true

/-- A validation that comes to its end, and what it comes to. -/
def Setup.Validates [CustomCheck ε] (u : Setup ε) (s : Schema ε) (root : String) (t : Node)
    (o : Outcome) : Prop :=
  u.Ends s { path := root } t.clear o

section Ends

variable [CustomCheck ε] [Picking ε] {env : Environment ε} {s : Schema ε} {sc : Scope} {t : Node}
  {o o' : Outcome}

/-- A check comes to one outcome. -/
theorem Environment.Ends.unique (h : env.Ends s sc t o) (h' : env.Ends s sc t o') : o = o' := by
  obtain ⟨fuel, rfl, hfinished⟩ := h
  obtain ⟨fuel', rfl, hfinished'⟩ := h'
  have hmax := Check.check_extends env (Nat.le_max_left fuel fuel') s sc t hfinished
  have hmax' := Check.check_extends env (Nat.le_max_right fuel fuel') s sc t hfinished'
  exact hmax.symm.trans hmax'

/-- A check that hands its node on comes to what the other one comes to. -/
theorem Environment.Ends.of_relay {r : Relay ε} (hrelay : Check.relay? env sc t s = some r)
    (h : env.Ends s sc t o) :
    ∃ o', env.Ends r.schema r.scope t o' ∧ o.node = o'.node ∧
      o.log.findings = r.log.findings ++ o'.log.findings ∧
      o.log.forced = r.log.forced ++ o'.log.forced := by
  obtain ⟨_ | fuel, rfl, hfinished⟩ := h
  · cases hfinished
  · have hstep := Log.finished_right hfinished
    rw [Check.step_of_relay hrelay] at hstep
    rw [check_succ, Check.step_of_relay hrelay]
    exact ⟨_, ⟨fuel, rfl, Log.finished_right hstep⟩, rfl, rfl, rfl⟩

/-- A check of a registered name comes to what the schema of the name comes to. -/
theorem Environment.Ends.of_named {name : String} (hget : env.schemas.get? name = some s)
    (h : env.Ends (.named name) sc t o) :
    ∃ o', env.Ends s sc t o' ∧ o.node = o'.node ∧ o.log.findings = o'.log.findings := by
  have hrelay : Check.relay? env sc t (.named name) = some { schema := s, scope := sc } := by
    rw [Check.relay?, hget]
    rfl
  obtain ⟨o', h', hnode, hfindings, -⟩ := h.of_relay hrelay
  exact ⟨o', h', hnode, hfindings⟩

/-- A documented schema comes to the same in another scope. -/
theorem Environment.Ends.of_documented {path : String} (h : env.Ends (.documented path s) sc t o) :
    ∃ o', env.Ends s (sc.withPath path) t o' ∧ o.node = o'.node ∧
      o.log.findings = o'.log.findings := by
  obtain ⟨o', h', hnode, hfindings, -⟩ := h.of_relay rfl
  exact ⟨o', h', hnode, hfindings⟩

/-- A union that comes to its end has a winner, and with some fuel so do all trials, the last run of
the winner, and what the alternatives say of themselves that were not tried. -/
theorem Environment.Ends.of_union {alternatives : List (Schema ε)} (hne : alternatives ≠ [])
    (h : env.Ends (.union alternatives) sc t o) :
    ∃ fuel index best, alternatives[index]? = some best ∧
      Check.fewest? (Check.trials (check env fuel) sc alternatives t) = some index ∧
      (∀ tried ∈ Check.trials (check env fuel) sc alternatives t, tried.log.finished = true) ∧
      (check env fuel best sc t.clear).log.finished = true ∧
      (∀ s ∈ alternatives.drop (Check.trials (check env fuel) sc alternatives t).length,
        (Check.describe (check env fuel) s sc).log.finished = true) ∧
      o.node = (Check.checkUnion (check env fuel) alternatives sc t).node ∧
      o.log.findings = (Check.checkUnion (check env fuel) alternatives sc t).log.findings := by
  obtain ⟨_ | fuel, rfl, hfinished⟩ := h
  · cases hfinished
  · have hkeeps := Check.check_keeps env fuel
    rcases Check.checkUnion_cases hkeeps alternatives sc t with
      ⟨hnil, _⟩ | ⟨index, best, hbest, hindex, _⟩
    · exact absurd hnil hne
    · obtain ⟨htried, hchosen, huntried⟩ :=
        (Check.finished_chosen_iff hkeeps hbest hindex).mp (Log.finished_right hfinished)
      exact ⟨fuel, index, best, hbest, hindex, htried, hchosen, huntried, rfl, rfl⟩

end Ends

/-- A validation that has come to its end with its budget comes to its end. -/
theorem Setup.validates_validate [CustomCheck ε] (u : Setup ε) (s : Schema ε) (root : String)
    (t : Node) (h : (u.validate s root t).log.finished = true) :
    u.Validates s root t (u.validate s root t) :=
  ⟨_, rfl, h⟩

end DocShape
