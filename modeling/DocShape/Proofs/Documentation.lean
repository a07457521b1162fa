import DocShape.Setup
import DocShape.Proofs.Blind
import DocShape.Proofs.Joint
import DocShape.Proofs.Related

/-!
# Documentation says nothing about a document

Two runs on the same tree may differ in the documentation that is looked up, in all settings, in the
path at which they start, and in every documentation path of the schemas. If both come to their end,
they report the same (`report_eq_of_sameButDocumentation`), however much is described in either.

The proof is a simulation between the two runs. Descriptions are run in numbers that differ, but
what they find is dropped, and what they leave on their own nodes is never read. The trials of
alternatives are run on both sides in step (`findings_trials`): as long as they have found the same,
they go on to the next alternative together.
-/

namespace DocShape

/-- Marks that ask the same of a document: they agree on what may be left out and on what should no
longer be used. -/
def SameDemands (marks marks' : Option Marks) : Prop :=
  marks.any (·.optional) = marks'.any (·.optional) ∧
    marks.any (·.deprecated) = marks'.any (·.deprecated)

theorem marksRelation_sameDemands : MarksRelation SameDemands where
  none := ⟨rfl, rfl⟩
  apply m {marks marks'} h := by
    obtain ⟨hoptional, hdeprecated⟩ := h
    cases m with
    | optional | deprecated | docPath segment =>
      cases marks <;> cases marks' <;>
        simp_all [SameDemands, Mark.apply]

/-- Two schemas that differ in nothing but documentation paths. -/
abbrev SameButDocumentation {ε : Type} (s s' : Schema ε) : Prop := Schema.Related SameDemands s s'

/-- Two registries with the same names, whose schemas differ in nothing but documentation paths. -/
def SameRegistry {ε : Type} (schemas schemas' : Table (Schema ε)) : Prop :=
  ∀ name, Option.Rel SameButDocumentation (schemas.get? name) (schemas'.get? name)

section Property

variable {σ : Type} {R : σ → σ → Prop} {p q : Property σ}

theorem isDeprecated_eq (h : Property.Rel SameDemands R p q) :
    p.isDeprecated = q.isDeprecated := by
  obtain ⟨_, hmarks⟩ := h
  exact hmarks.2

theorem mayBeAbsent_eq (h : Property.Rel SameDemands R p q) : p.mayBeAbsent = q.mayBeAbsent := by
  obtain ⟨_, hmarks⟩ := h
  exact congrArg₂ (· || ·) hmarks.1 hmarks.2

end Property

namespace Check

variable {ε : Type}

/-- Two runs that find the same wherever both come to their end. -/
def Agree (run run' : Run ε) : Prop :=
  ∀ s s', SameButDocumentation s s' → ∀ sc sc' t t', t.clear = t'.clear →
    (run s sc t).log.finished = true → (run' s' sc' t').log.finished = true →
    (run s sc t).log.findings = (run' s' sc' t').log.findings

section Step

variable {env env' : Environment ε} {run run' : Run ε} {sc sc' : Scope}

/-! ### Objects and arrays -/

theorem missingLog_eq {f g : Fields (Schema ε)}
    (h : Fields.Rel SameDemands SameButDocumentation f g) (keys : List String)
    (members : List (Member Node)) (span : Span) :
    missingLog keys f members span = missingLog keys g members span := by
  have habsent : ∀ key, (f.property key).mayBeAbsent = (g.property key).mayBeAbsent :=
    fun key => mayBeAbsent_eq (h.property key)
  unfold missingLog
  simp only [habsent]

variable (hagree : Agree run run')

include hagree

theorem findings_checkDeclared {f g : Fields (Schema ε)}
    (h : Fields.Rel SameDemands SameButDocumentation f g) (keys : List String) (m : Member Node)
    (hfinished : (checkDeclared env run keys f sc m).2.finished = true)
    (hfinished' : (checkDeclared env' run' keys g sc' m).2.finished = true) :
    (checkDeclared env run keys f sc m).2.findings =
      (checkDeclared env' run' keys g sc' m).2.findings := by
  obtain ⟨_ | key, value⟩ := m
  · rfl
  · by_cases hmem : key.text ∈ keys
    · rw [joint_checkDeclared Log.joint_finished] at hfinished hfinished'
      have hp := h.property key.text
      have hdeprecation : deprecationLog (f.property key.text) key =
          deprecationLog (g.property key.text) key := by
        unfold deprecationLog
        rw [isDeprecated_eq hp]
      rw [checkDeclared_of_mem hmem, checkDeclared_of_mem hmem, checkProperty, checkProperty]
      dsimp only
      rw [Log.findings_append, Log.findings_append, hdeprecation]
      exact congrArg _ (hagree _ _ hp.schema _ _ _ _ rfl (hfinished key rfl hmem)
        (hfinished' key rfl hmem))
    · rw [checkDeclared_of_not_mem hmem, checkDeclared_of_not_mem hmem]

theorem findings_checkKeyed {keys keys' : Schema ε} (hkeys : SameButDocumentation keys keys')
    {f g : Fields (Schema ε)} (h : Fields.Rel SameDemands SameButDocumentation f g)
    (m : Member Node) (hfinished : (checkKeyed run keys f sc m).2.finished = true)
    (hfinished' : (checkKeyed run' keys' g sc' m).2.finished = true) :
    (checkKeyed run keys f sc m).2.findings = (checkKeyed run' keys' g sc' m).2.findings := by
  rw [joint_checkKeyed Log.joint_finished] at hfinished hfinished'
  obtain ⟨_ | key, value⟩ := m
  · rfl
  · obtain ⟨hkey, hvalue⟩ := hfinished key rfl
    obtain ⟨hkey', hvalue'⟩ := hfinished' key rfl
    have hkeylog := hagree _ _ hkeys sc sc' _ _ rfl hkey hkey'
    cases value with
    | none => exact hkeylog
    | some u =>
      rw [checkKeyed, checkKeyed]
      dsimp only
      rw [Log.findings_append, Log.findings_append, hkeylog]
      exact congrArg _ (hagree _ _ (h.property key.text).schema sc sc' u u rfl (hvalue u rfl)
        (hvalue' u rfl))

/-- Members of related shapes are found the same about, each if its check comes to its end. -/
theorem findings_checkMembers {shape shape' : Shape (Schema ε)}
    (h : Shape.Rel SameDemands SameButDocumentation shape shape') (span : Span)
    (members : List (Member Node))
    (hfinished : (checkMembers env run sc span members shape).2.finished = true)
    (hfinished' : (checkMembers env' run' sc' span members shape').2.finished = true) :
    (checkMembers env run sc span members shape).2.findings =
      (checkMembers env' run' sc' span members shape').2.findings := by
  cases h with
  | free => rfl
  | fixed keys h =>
    have hmembers := Log.finished_right hfinished
    have hmembers' := Log.finished_right hfinished'
    rw [Log.joint_finished.join_iff, List.forall_mem_map, List.forall_mem_map]
      at hmembers hmembers'
    simp only [checkMembers, Log.findings_append, Log.findings_join, List.flatMap_map,
      missingLog_eq h]
    refine congrArg _ (List.flatMap_congr fun m hm => ?_)
    exact findings_checkDeclared hagree h keys m (hmembers m hm) (hmembers' m hm)
  | keyed hkeys h =>
    simp only [checkMembers] at hfinished hfinished'
    rw [Log.joint_finished.join_iff, List.forall_mem_map, List.forall_mem_map]
      at hfinished hfinished'
    simp only [checkMembers, Log.findings_join, List.flatMap_map]
    refine List.flatMap_congr fun m hm => ?_
    exact findings_checkKeyed hagree hkeys h m (hfinished m hm) (hfinished' m hm)

theorem findings_checkObject {shape shape' : Shape (Schema ε)}
    (h : Shape.Rel SameDemands SameButDocumentation shape shape') (t : Node)
    (hfinished : (checkObject env run shape sc t).log.finished = true)
    (hfinished' : (checkObject env' run' shape' sc' t).log.finished = true) :
    (checkObject env run shape sc t).log.findings =
      (checkObject env' run' shape' sc' t).log.findings := by
  obtain ⟨span, expectation, body⟩ := t
  have hdescribed := findings_describeShape run env.settings sc shape
  have hdescribed' := findings_describeShape run' env'.settings sc' shape'
  cases body with
  | array _ | string _ | number _ | boolean _ | null =>
    simp only [checkObject, Log.findings_append, hdescribed, hdescribed']
  | object members =>
    have hmembers := Log.finished_right hfinished
    have hmembers' := Log.finished_right hfinished'
    simp only [checkObject, Log.findings_append, hdescribed, hdescribed']
    exact congrArg _ (findings_checkMembers hagree h span members hmembers hmembers')

theorem findings_checkArray {item item' : Schema ε} (h : SameButDocumentation item item') (t : Node)
    (hfinished : (checkArray env run item sc t).log.finished = true)
    (hfinished' : (checkArray env' run' item' sc' t).log.finished = true) :
    (checkArray env run item sc t).log.findings =
      (checkArray env' run' item' sc' t).log.findings := by
  obtain ⟨span, expectation, body⟩ := t
  have hdescribed := findings_describePart run env.settings sc item
  have hdescribed' := findings_describePart run' env'.settings sc' item'
  cases body with
  | object _ | string _ | number _ | boolean _ | null =>
    simp only [checkArray, Log.findings_append, hdescribed, hdescribed']
  | array items =>
    have hitems := Log.finished_right hfinished
    have hitems' := Log.finished_right hfinished'
    rw [Log.joint_finished.join_iff, List.forall_mem_map, List.forall_mem_map] at hitems hitems'
    simp only [checkArray, Log.findings_append, hdescribed, hdescribed', Log.findings_join,
      List.flatMap_map]
    refine congrArg _ (List.flatMap_congr fun u hu => ?_)
    exact hagree _ _ h sc sc' u u rfl (hitems u hu) (hitems' u hu)

/-! ### Alternatives -/

/-- Trials of related alternatives go on in step and find the same, as long as each comes to its
end. -/
theorem findings_trials (hrun : Blind run) (hrun' : Blind run') {ss ss' : List (Schema ε)}
    (h : List.Forall₂ SameButDocumentation ss ss') {t t' : Node} (hclear : t.clear = t'.clear)
    (hfinished : ∀ o ∈ trials run sc ss t, o.log.finished = true)
    (hfinished' : ∀ o ∈ trials run' sc' ss' t', o.log.finished = true) :
    (trials run sc ss t).map (·.log.findings) = (trials run' sc' ss' t').map (·.log.findings) := by
  induction h generalizing t t' with
  | nil => rfl
  | @cons s s' ss ss' hs _ ih =>
    rw [trials] at hfinished ⊢
    rw [trials] at hfinished' ⊢
    have hhead : (run s sc t).log.finished = true := by
      split at hfinished <;> exact hfinished _ List.mem_cons_self
    have hhead' : (run' s' sc' t').log.finished = true := by
      split at hfinished' <;> exact hfinished' _ List.mem_cons_self
    have hsame := hagree s s' hs sc sc' t t' hclear hhead hhead'
    have herrors : (run s sc t).log.errors = (run' s' sc' t').log.errors :=
      congrArg (List.countP _) hsame
    by_cases hzero : (run' s' sc' t').log.errors = 0
    · rw [herrors, if_pos hzero, if_pos hzero, List.map_singleton, List.map_singleton, hsame]
    · rw [herrors, if_neg hzero] at hfinished ⊢
      rw [if_neg hzero] at hfinished' ⊢
      rw [List.map_cons, List.map_cons, hsame]
      refine congrArg _ (ih ?_ (fun o ho => hfinished o (List.mem_cons_of_mem _ ho))
        fun o ho => hfinished' o (List.mem_cons_of_mem _ ho))
      rw [hrun.clear_node, hrun'.clear_node, hclear]

/-- Only what the best alternative finds is reported. -/
theorem findings_checkUnion (hrun : Blind run) (hrun' : Blind run') {ss ss' : List (Schema ε)}
    (h : List.Forall₂ SameButDocumentation ss ss') (t : Node)
    (hfinished : (checkUnion run ss sc t).log.finished = true)
    (hfinished' : (checkUnion run' ss' sc' t).log.finished = true) :
    (checkUnion run ss sc t).log.findings = (checkUnion run' ss' sc' t).log.findings := by
  rcases checkUnion_eq hrun ss sc t with ⟨rfl, _⟩ | ⟨i, best, hbest, _, hi, _⟩
  · cases h
    rfl
  rcases checkUnion_eq hrun' ss' sc' t with ⟨rfl, _⟩ | ⟨j, best', hbest', _, hj, _⟩
  · cases h
    cases hbest
  obtain ⟨htried, hchosen⟩ := finished_winner hrun hbest hi hfinished
  obtain ⟨htried', hchosen'⟩ := finished_winner hrun' hbest' hj hfinished'
  have htrials := findings_trials hagree hrun hrun' h rfl htried htried'
  have hcounts := congrArg (List.map (List.countP Finding.isError)) htrials
  rw [List.map_map, List.map_map] at hcounts
  have hij : some i = some j := by
    rw [← hi, ← hj]
    exact fewest?_congr hcounts
  cases hij
  have hs : SameButDocumentation best best' := by
    have hrel := getElem?_rel h i
    rw [hbest, hbest'] at hrel
    cases hrel with
    | some hs => exact hs
  rw [findings_winner hrun hbest hi, findings_winner hrun' hbest' hj]
  exact hagree best best' hs sc sc' t t rfl hchosen hchosen'

/-! ### Names, selections and choices -/

theorem findings_checkSelected {sel sel' : Selector (Schema ε)}
    (h : Selector.Rel SameDemands SameButDocumentation sel sel') (value : Option String) (t : Node)
    (hfinished : (checkSelected run sel value sc t).log.finished = true)
    (hfinished' : (checkSelected run' sel' value sc' t).log.finished = true) :
    (checkSelected run sel value sc t).log.findings =
      (checkSelected run' sel' value sc' t).log.findings := by
  obtain ⟨hchosen, hlog⟩ := Selector.choose_rel marksRelation_sameDemands
    (fun _ _ => record_rel marksRelation_sameDemands) h value t
  have hfin := Log.finished_right hfinished
  have hfin' := Log.finished_right hfinished'
  unfold checkSelected Outcome.after
  dsimp only
  rw [Log.findings_append, Log.findings_append, hlog]
  exact congrArg _ (hagree _ _ hchosen sc sc' t t rfl hfin hfin')

theorem findings_runChooser (chooser : Chooser) {ss ss' : List (Schema ε)}
    (h : List.Forall₂ SameButDocumentation ss ss') (t : Node)
    (hfinished : (chooser.run (ss.map run) sc t).log.finished = true)
    (hfinished' : (chooser.run (ss'.map run') sc' t).log.finished = true) :
    (chooser.run (ss.map run) sc t).log.findings =
      (chooser.run (ss'.map run') sc' t).log.findings := by
  have hpart := getElem?_rel h (chooser.index t.clear)
  unfold Chooser.run at hfinished hfinished' ⊢
  rw [List.getElem?_map] at hfinished hfinished' ⊢
  rw [List.getElem?_map]
  generalize ss[chooser.index t.clear]? = o at *
  generalize ss'[chooser.index t.clear]? = o' at *
  cases hpart with
  | none => rfl
  | some hs => exact hagree _ _ hs sc sc' t t rfl hfinished hfinished'

end Step

/-! ### Any check -/

variable [CustomCheck ε] [Choosing ε] {env env' : Environment ε} {run run' : Run ε}

/-- **One step** on related schemas finds the same if everything further inside does. -/
theorem step_agree (hregistry : SameRegistry env.schemas env'.schemas) (hrun : Blind run)
    (hrun' : Blind run') (hagree : Agree run run') :
    Agree (Check.step env run) (Check.step env' run') := by
  intro s s' h sc sc' t t' hclear hfinished hfinished'
  -- by blindness, both may start on the same node
  rw [(step_blind env' hrun').log_congr s' sc' hclear.symm] at hfinished' ⊢
  cases h with
  | anything | scalar _ | oneOf _ | matching _ => rfl
  | object h => exact findings_checkObject hagree h t hfinished hfinished'
  | array h => exact findings_checkArray hagree h t hfinished hfinished'
  | union h => exact findings_checkUnion hagree hrun hrun' h t hfinished hfinished'
  | named name =>
    have hname := hregistry name
    rw [Check.step, checkNamed] at hfinished hfinished' ⊢
    rw [Check.step, checkNamed]
    generalize env.schemas.get? name = o at *
    generalize env'.schemas.get? name = o' at *
    cases hname with
    | none => rfl
    | some h => exact hagree _ _ h sc sc' t t rfl hfinished hfinished'
  | documented path path' h => exact hagree _ _ h _ _ t t rfl hfinished hfinished'
  | switch key h =>
    rw [Check.step, checkSwitch] at hfinished hfinished' ⊢
    rw [Check.step, checkSwitch]
    cases hmembers : t.members? with
    | none => rfl
    | some members =>
      rw [hmembers] at hfinished hfinished'
      exact findings_checkSelected hagree h _ t hfinished hfinished'
  | select h => exact findings_checkSelected hagree h none t hfinished hfinished'
  | custom custom h =>
    obtain ⟨chooser, hchooser⟩ := Choosing.exists_chooser custom
    rw [Check.step, hchooser] at hfinished hfinished' ⊢
    rw [Check.step, hchooser]
    exact findings_runChooser hagree chooser h t hfinished hfinished'

/-- Checks of schemas that differ in nothing but documentation paths find the same, wherever both
come to their end. -/
theorem check_agree (hregistry : SameRegistry env.schemas env'.schemas) (fuel fuel' : Nat) :
    Agree (check env fuel) (check env' fuel') := by
  induction fuel generalizing fuel' with
  | zero =>
    intro s s' h sc sc' t t' hclear hfinished _
    cases hfinished
  | succ fuel ih =>
    intro s s' h sc sc' t t' hclear hfinished hfinished'
    cases fuel' with
    | zero => cases hfinished'
    | succ fuel' =>
      have hstep := Log.finished_right hfinished
      have hstep' := Log.finished_right hfinished'
      exact step_agree hregistry (check_blind env fuel) (check_blind env' fuel') (ih fuel')
        s s' h sc sc' t t' hclear hstep hstep'

end Check

/-- A run of a setup on a tree that comes to its end, and what it reports: some fuel is enough for
it. -/
def Setup.Reports {ε : Type} [CustomCheck ε] (u : Setup ε) (s : Schema ε) (root : String) (t : Node)
    (r : Report) : Prop :=
  ∃ fuel, let o := DocShape.check u.toEnvironment fuel s { path := root } t.clear
    o.log.finished = true ∧ r = u.report o.log

/-- **Documentation never affects validation**: two setups with the same messages, whose registries
differ in nothing but documentation paths, report the same about a tree, each against one of two
schemas that differ in nothing else either. What documentation there is, the settings, and the path
at the root make no difference. -/
theorem report_eq_of_sameButDocumentation (u u' : Setup Chooser) (s s' : Schema Chooser)
    (root root' : String) (t : Node) (r r' : Report) (hmessages : u.messages = u'.messages)
    (hregistry : SameRegistry u.schemas u'.schemas) (hs : SameButDocumentation s s')
    (h : u.Reports s root t r) (h' : u'.Reports s' root' t r') : r = r' := by
  obtain ⟨fuel, hfinished, rfl⟩ := h
  obtain ⟨fuel', hfinished', rfl⟩ := h'
  have hfindings := Check.check_agree hregistry fuel fuel' s s' hs { path := root }
    { path := root' } t.clear t.clear rfl hfinished hfinished'
  unfold Setup.report
  rw [hfindings, hmessages]

/-- Flags by name, documented under some path, with nothing set and nothing to show. -/
def plainFlags (path : String) : Setup Chooser where
  schemas := ⟨[("flag", .documented path (.scalar .boolean))]⟩

/-- The same with documentation everywhere, shown another way and described deeper down. -/
def documentedFlags (path : String) : Setup Chooser where
  schemas := ⟨[("flag", .documented path (.scalar .boolean))]⟩
  documentation := .placeholders ""
  settings := { expectationDepth := 3, hoverLanguage := "text", hoverSeparator := "" }

/-- An object with a flag, documented along some segment if one is given. -/
def flagged (segment : Option String) : Schema Chooser :=
  .object (.fixed ["a"] ⟨[("a", ⟨.named "flag", some { docPath := segment }⟩)], ⟨.anything, none⟩⟩)

/-- A flag that is a string is reported the same by both. -/
theorem report_eq_flagged :
    let t : Node := ⟨⟨0, 9⟩, none, .object [⟨some ⟨"a", ⟨1, 4⟩, none⟩, some (.string "" ⟨6, 8⟩)⟩]⟩
    ∃ r, r.length = 1 ∧ (plainFlags "x").Reports (flagged none) "" t r ∧
      (documentedFlags "y").Reports (flagged (some "z")) "root" t r := by
  intro t
  have hregistry : SameRegistry (plainFlags "x").schemas (documentedFlags "y").schemas :=
    Table.Rel.get? ⟨.cons ⟨"flag", .documented "x" "y" (.scalar .boolean)⟩ .nil⟩
  have hs : SameButDocumentation (flagged none) (flagged (some "z")) :=
    .object (.fixed _ ⟨.cons ⟨"a", ⟨.named "flag", ⟨rfl, rfl⟩⟩⟩ .nil, ⟨.anything, ⟨rfl, rfl⟩⟩⟩)
  obtain ⟨r, hr, h⟩ : ∃ r, r.length = 1 ∧ (plainFlags "x").Reports (flagged none) "" t r :=
    ⟨_, rfl, 4, rfl, rfl⟩
  obtain ⟨r', h'⟩ : ∃ r', (documentedFlags "y").Reports (flagged (some "z")) "root" t r' :=
    ⟨_, 4, rfl, rfl⟩
  have heq := report_eq_of_sameButDocumentation (plainFlags "x") (documentedFlags "y")
    (flagged none) (flagged (some "z")) "" "root" t r r' rfl hregistry hs h h'
  exact ⟨r, hr, h, heq ▸ h'⟩

end DocShape
