import DocShape.Setup
import DocShape.Proofs.Blind
import DocShape.Proofs.Termination

/-!
# What it means to conform to a schema

`Conforms` says which nodes conform to a schema, one rule for each constructor and without any word
about slots, descriptions, trials or fuel. A validation in a guarded registry comes to its end, and
its report is valid exactly for the trees that conform (`isValid_validate_iff`).

One step of a check is right about its node if everything further inside is right
(`Check.step_right`). That a check finds no error is read off its log piece by piece; that it has
come to its end is, too, so that each piece may be trusted.
-/

namespace DocShape

/-- The nodes that conform to a schema where some schemas are registered. -/
inductive Conforms (schemas : Table (Schema Chooser)) : Schema Chooser → Node → Prop
  /-- Everything is something. -/
  | anything (t : Node) : Conforms schemas .anything t
  | scalar {scalar : Scalar} {t : Node} (h : t.kind = scalar.kind) :
    Conforms schemas (.scalar scalar) t
  | oneOf {pool : List String} {text : String} {t : Node} (h : t.text? = some text)
    (hmem : text ∈ pool) : Conforms schemas (.oneOf pool) t
  | matching {pattern : Pattern} {text : String} {t : Node} (h : t.text? = some text)
    (haccepts : pattern.accepts text = true) : Conforms schemas (.matching pattern) t
  | free {members : List (Member Node)} {t : Node} (h : t.members? = some members) :
    Conforms schemas (.object .free) t
  /-- A declared key is there unless it may be absent, and wherever it is, its value conforms; a
  null node stands for a value that is not there. -/
  | fixed {keys : List String} {fields : Fields (Schema Chooser)} {members : List (Member Node)}
    {t : Node} (h : t.members? = some members)
    (hpresent : ∀ key ∈ keys, ¬ (fields.property key).mayBeAbsent → key ∈ Member.keys members)
    (hvalues : ∀ m ∈ members, ∀ key, m.key = some key → key.text ∈ keys →
      Conforms schemas (fields.property key.text).schema (Check.valueOrNull key m)) :
    Conforms schemas (.object (.fixed keys fields)) t
  /-- Keys conform as string nodes, and the values that are there conform. -/
  | keyed {keys : Schema Chooser} {fields : Fields (Schema Chooser)} {members : List (Member Node)}
    {t : Node} (h : t.members? = some members)
    (hkeys : ∀ m ∈ members, ∀ key, m.key = some key → Conforms schemas keys key.toNode)
    (hvalues : ∀ m ∈ members, ∀ key u, m.key = some key → m.value = some u →
      Conforms schemas (fields.property key.text).schema u) :
    Conforms schemas (.object (.keyed keys fields)) t
  | array {item : Schema Chooser} {items : List Node} {t : Node} (h : t.items? = some items)
    (hitems : ∀ u ∈ items, Conforms schemas item u) : Conforms schemas (.array item) t
  /-- Nothing is asked where there are no alternatives. -/
  | noUnion (t : Node) : Conforms schemas (.union []) t
  | union {alternatives : List (Schema Chooser)} {s : Schema Chooser} {t : Node}
    (hmem : s ∈ alternatives) (h : Conforms schemas s t) : Conforms schemas (.union alternatives) t
  /-- Nothing conforms to a name without a schema. -/
  | named {name : String} {s : Schema Chooser} {t : Node} (hget : schemas.get? name = some s)
    (h : Conforms schemas s t) : Conforms schemas (.named name) t
  | documented {path : String} {s : Schema Chooser} {t : Node} (h : Conforms schemas s t) :
    Conforms schemas (.documented path s) t
  /-- An object has the markers that are asked for, and conforms to what its text under the key
  selects. -/
  | switch {key : String} {selector : Selector (Schema Chooser)} {members : List (Member Node)}
    {t : Node} (hmembers : t.members? = some members) (hmarked : selector.MarkedOn t)
    (h : Conforms schemas (selector.choose Schema.record t (t.textUnder? key)).1 t) :
    Conforms schemas (.switch key selector) t
  | select {selector : Selector (Schema Chooser)} {t : Node} (hmarked : selector.MarkedOn t)
    (h : Conforms schemas (selector.choose Schema.record t none).1 t) :
    Conforms schemas (.select selector) t
  /-- The part that is chosen is conformed to, if there is one. -/
  | custom {chooser : Chooser} {parts : List (Schema Chooser)} {t : Node}
    (h : ∀ s, parts[chooser.index t.clear]? = some s → Conforms schemas s t) :
    Conforms schemas (.custom chooser parts) t

namespace Check

/-! ### Leaves -/

theorem errors_kindLog_eq_zero_iff (kind : Kind) (t : Node) :
    (kindLog kind t).errors = 0 ↔ t.kind = kind := by
  unfold kindLog
  by_cases h : t.kind = kind
  · rw [if_pos h]
    exact ⟨fun _ => h, fun _ => rfl⟩
  · rw [if_neg h]
    exact ⟨fun herrors => absurd herrors Nat.one_ne_zero, fun h' => absurd h' h⟩

theorem errors_textLog_eq_zero_iff {fault? : String → Option Cause} {t : Node}
    (hfault : ∀ text cause, fault? text = some cause → cause.severity = .error) :
    (textLog fault? t).errors = 0 ↔ ∃ text, t.text? = some text ∧ fault? text = none := by
  unfold textLog
  cases t.text? with
  | none => exact ⟨fun herrors => absurd herrors Nat.one_ne_zero, fun ⟨_, h, _⟩ => nomatch h⟩
  | some text =>
    cases h : fault? text with
    | none =>
      have hempty : ({} : Log).errors = 0 := rfl
      simp [h, hempty]
    | some cause =>
      have hcause : (Log.report cause t.span).errors = 1 := by
        simp [Log.errors, Log.report, Finding.isError, hfault text cause h]
      simp [h, hcause]

/-! ### Objects and arrays -/

/-- The errors about what an object lacks: one for each declaration of a key that is not there and may
not be absent. -/
theorem errors_missingLog {ε : Type} (keys : List String) (fields : Fields (Schema ε))
    (members : List (Member Node)) (span : Span) :
    (missingLog keys fields members span).errors = keys.countP fun key =>
      !(Member.keys members).contains key && !(fields.property key).mayBeAbsent := by
  unfold missingLog Log.errors
  rw [List.countP_map, List.countP_filter]
  rfl

/-- Nothing is missing where all keys are present that may not be absent. -/
theorem errors_missingLog_eq_zero_iff {ε : Type} (keys : List String) (fields : Fields (Schema ε))
    (members : List (Member Node)) (span : Span) :
    (missingLog keys fields members span).errors = 0 ↔
      ∀ key ∈ keys, ¬ (fields.property key).mayBeAbsent → key ∈ Member.keys members := by
  rw [errors_missingLog, List.countP_eq_zero]
  refine forall₂_congr fun key _ => ?_
  rw [← List.contains_iff_mem]
  cases (Member.keys members).contains key <;> cases (fields.property key).mayBeAbsent <;> simp

/-- Describing finds nothing. -/
theorem errors_describeShape {ε : Type} (run : Run ε) (env : Environment ε) (sc : Scope)
    (shape : Shape (Schema ε)) : (describeShape run env.settings sc shape).2.errors = 0 := by
  rw [joint_describeShape Log.joint_errors]
  exact fun _ _ _ => rfl

theorem errors_describePart {ε : Type} (run : Run ε) (env : Environment ε) (sc : Scope)
    (s : Schema ε) : (describePart run env.settings s sc).log.errors = 0 := by
  rw [joint_describePart Log.joint_errors]
  exact fun _ => rfl

/-- A run that, wherever it comes to its end, finds an error if and only if the node does not
conform. -/
def Right (schemas : Table (Schema Chooser)) (run : Run Chooser) : Prop :=
  ∀ s sc t, (run s sc t).log.finished = true →
    ((run s sc t).log.errors = 0 ↔ Conforms schemas s t)

section Step

variable {env : Environment Chooser} {run : Run Chooser} {sc : Scope} {t : Node}
  (hright : Right env.schemas run)

include hright

theorem checkObject_right (shape : Shape (Schema Chooser))
    (hfinished : (checkObject env run shape sc t).log.finished = true) :
    (checkObject env run shape sc t).log.errors = 0 ↔ Conforms env.schemas (.object shape) t := by
  obtain ⟨span, expectation, body⟩ := t
  cases body with
  | array _ | string _ | number _ | boolean _ | null =>
    constructor
    · intro herrors
      have hkind := ((Log.joint_errors.append_iff _ _).mp herrors).2
      exact absurd hkind Nat.one_ne_zero
    · intro h
      cases h <;> contradiction
  | object members =>
    have hmembers := Log.finished_right hfinished
    refine (Log.joint_errors.append_iff _ _).trans ?_
    refine (and_iff_right (errors_describeShape run env sc shape)).trans ?_
    cases shape with
    | free => exact ⟨fun _ => .free rfl, fun _ => rfl⟩
    | fixed keys fields =>
      rw [joint_checkMembers_fixed Log.joint_finished] at hmembers
      rw [joint_checkMembers_fixed Log.joint_errors, errors_missingLog_eq_zero_iff]
      have hvalues := fun m hm key hkey hmem => hright _ _ _ (hmembers.2 m hm key hkey hmem)
      constructor
      · rintro ⟨hpresent, herrors⟩
        refine .fixed rfl hpresent fun m hm key hkey hmem => ?_
        exact (hvalues m hm key hkey hmem).mp (herrors m hm key hkey hmem)
      · intro h
        cases h with
        | fixed heq hpresent hconform =>
          cases heq
          refine ⟨hpresent, fun m hm key hkey hmem => ?_⟩
          exact (hvalues m hm key hkey hmem).mpr (hconform m hm key hkey hmem)
    | keyed keys fields =>
      rw [joint_checkMembers_keyed Log.joint_finished] at hmembers
      rw [joint_checkMembers_keyed Log.joint_errors]
      have hkeys := fun m hm key hkey => hright _ _ _ (hmembers m hm key hkey).1
      have hvalues := fun m hm key hkey u hu => hright _ _ _ ((hmembers m hm key hkey).2 u hu)
      constructor
      · intro herrors
        refine .keyed rfl (fun m hm key hkey => ?_) fun m hm key u hkey hu => ?_
        · exact (hkeys m hm key hkey).mp (herrors m hm key hkey).1
        · exact (hvalues m hm key hkey u hu).mp ((herrors m hm key hkey).2 u hu)
      · intro h
        cases h with
        | keyed heq hconform hconform' =>
          cases heq
          intro m hm key hkey
          refine ⟨(hkeys m hm key hkey).mpr (hconform m hm key hkey), fun u hu => ?_⟩
          exact (hvalues m hm key hkey u hu).mpr (hconform' m hm key u hkey hu)

theorem checkArray_right (item : Schema Chooser)
    (hfinished : (checkArray env run item sc t).log.finished = true) :
    (checkArray env run item sc t).log.errors = 0 ↔ Conforms env.schemas (.array item) t := by
  obtain ⟨span, expectation, body⟩ := t
  cases body with
  | object _ | string _ | number _ | boolean _ | null =>
    constructor
    · intro herrors
      have hkind := ((Log.joint_errors.append_iff _ _).mp herrors).2
      exact absurd hkind Nat.one_ne_zero
    · intro h
      cases h
      contradiction
  | array items =>
    have hitems := Log.finished_right hfinished
    refine (Log.joint_errors.append_iff _ _).trans ?_
    refine (and_iff_right (errors_describePart run env sc item)).trans ?_
    rw [Log.joint_finished.join_iff, List.map_map, List.forall_mem_map] at hitems
    rw [Log.joint_errors.join_iff, List.map_map, List.forall_mem_map]
    constructor
    · intro herrors
      refine .array rfl fun u hu => ?_
      exact (hright _ _ _ (hitems u hu)).mp (herrors u hu)
    · intro h
      cases h with
      | array heq hconform =>
        cases heq
        intro u hu
        exact (hright _ _ _ (hitems u hu)).mpr (hconform u hu)

/-- The best alternative is without errors as soon as one alternative conforms: one that was tried
counts as it is, and one that was left out was left out behind one without errors. -/
theorem checkUnion_right (hrun : Blind run) (alternatives : List (Schema Chooser))
    (hfinished : (checkUnion run alternatives sc t).log.finished = true) :
    (checkUnion run alternatives sc t).log.errors = 0 ↔
      Conforms env.schemas (.union alternatives) t := by
  rcases checkUnion_eq hrun alternatives sc t with ⟨rfl, heq⟩ | ⟨i, best, hbest, hfirst, hi, _⟩
  · rw [heq]
    exact ⟨fun _ => .noUnion t, fun _ => rfl⟩
  · obtain ⟨htried, hchosen⟩ := finished_winner hrun hbest hi hfinished
    have herrors : (checkUnion run alternatives sc t).log.errors = (run best sc t).log.errors :=
      congrArg (List.countP _) (findings_winner hrun hbest hi)
    rw [herrors, hright best sc t hchosen]
    constructor
    · intro h
      exact .union (List.mem_of_getElem? hbest) h
    · intro h
      cases h with
      | noUnion => simp at hbest
      | @union _ s _ hmem h =>
        have hzero : 0 ∈ alternatives.map fun s => (run s sc t).log.errors := by
          rcases log_mem_trials_or hrun hmem t with hs | hzero
          · obtain ⟨o, ho, hlog⟩ := List.mem_map.mp hs
            have hfin : (run s sc t).log.finished = true := by
              rw [← hlog]
              exact htried o ho
            exact List.mem_map.mpr ⟨s, hmem, (hright s sc t hfin).mpr h⟩
          · exact hzero
        rw [← hright best sc t hchosen]
        have hleast := hfirst.eq_zero hzero
        rw [List.getElem?_map, hbest] at hleast
        exact Option.some.inj hleast

theorem checkNamed_right (name : String)
    (hfinished : (checkNamed env run name sc t).log.finished = true) :
    (checkNamed env run name sc t).log.errors = 0 ↔ Conforms env.schemas (.named name) t := by
  unfold checkNamed at hfinished ⊢
  cases hget : env.schemas.get? name with
  | none =>
    constructor
    · intro herrors
      exact absurd herrors Nat.one_ne_zero
    · intro h
      cases h with
      | named hget' _ =>
        rw [hget] at hget'
        cases hget'
  | some s =>
    rw [hget] at hfinished
    refine (hright s sc t hfinished).trans ?_
    constructor
    · intro h
      exact .named hget h
    · intro h
      cases h with
      | named hget' h =>
        rw [hget] at hget'
        cases hget'
        exact h

/-- A selected schema finds no error if the markers are there and the node conforms to what is
selected. -/
theorem checkSelected_right (selector : Selector (Schema Chooser)) (value : Option String)
    (hfinished : (checkSelected run selector value sc t).log.finished = true) :
    (checkSelected run selector value sc t).log.errors = 0 ↔
      selector.MarkedOn t ∧ Conforms env.schemas (selector.choose Schema.record t value).1 t := by
  have hchosen := Log.finished_right hfinished
  refine (Log.joint_errors.append_iff _ _).trans ?_
  exact and_congr (selector.errors_choose_eq_zero_iff _ t value) (hright _ sc t hchosen)

theorem checkSwitch_right (key : String) (selector : Selector (Schema Chooser))
    (hfinished : (checkSwitch run key selector sc t).log.finished = true) :
    (checkSwitch run key selector sc t).log.errors = 0 ↔
      Conforms env.schemas (.switch key selector) t := by
  unfold checkSwitch at hfinished ⊢
  cases hmembers : t.members? with
  | none =>
    constructor
    · intro herrors
      exact absurd herrors Nat.one_ne_zero
    · intro h
      cases h with
      | switch hmembers' _ _ =>
        rw [hmembers] at hmembers'
        cases hmembers'
  | some members =>
    rw [hmembers] at hfinished
    refine (checkSelected_right hright selector _ hfinished).trans ?_
    constructor
    · rintro ⟨hmarked, h⟩
      exact .switch hmembers hmarked h
    · intro h
      cases h with
      | switch _ hmarked h => exact ⟨hmarked, h⟩

theorem runChooser_right (chooser : Chooser) (parts : List (Schema Chooser))
    (hfinished : (chooser.run (parts.map run) sc t).log.finished = true) :
    (chooser.run (parts.map run) sc t).log.errors = 0 ↔
      Conforms env.schemas (.custom chooser parts) t := by
  unfold Chooser.run at hfinished ⊢
  rw [List.getElem?_map] at hfinished ⊢
  cases hpart : parts[chooser.index t.clear]? with
  | none =>
    constructor
    · intro _
      refine .custom fun s hs => ?_
      rw [hpart] at hs
      cases hs
    · intro _
      rfl
  | some s =>
    rw [hpart] at hfinished
    refine (hright s sc t hfinished).trans ?_
    constructor
    · intro h
      refine .custom fun s' hs' => ?_
      rw [hpart] at hs'
      cases hs'
      exact h
    · intro h
      cases h with
      | custom h => exact h s hpart

end Step

/-- **One step** is right about its node if everything further inside is. -/
theorem step_right (env : Environment Chooser) {run : Run Chooser} (hrun : Blind run)
    (hright : Right env.schemas run) : Right env.schemas (Check.step env run) := by
  intro s sc t hfinished
  cases s with
  | anything => exact ⟨fun _ => .anything t, fun _ => rfl⟩
  | scalar scalar =>
    refine (errors_kindLog_eq_zero_iff scalar.kind t).trans ⟨.scalar, fun h => ?_⟩
    cases h with
    | scalar h => exact h
  | oneOf pool =>
    refine (errors_textLog_eq_zero_iff fun text cause hcause => ?_).trans ?_
    · split at hcause <;> cases hcause
      rfl
    · constructor
      · rintro ⟨text, htext, hfault⟩
        split at hfault
        · next hmem => exact .oneOf htext (List.contains_iff_mem.mp hmem)
        · cases hfault
      · intro h
        cases h with
        | oneOf htext hmem => exact ⟨_, htext, if_pos (List.contains_iff_mem.mpr hmem)⟩
  | matching pattern =>
    refine (errors_textLog_eq_zero_iff fun text cause hcause => ?_).trans ?_
    · split at hcause <;> cases hcause
      rfl
    · constructor
      · rintro ⟨text, htext, hfault⟩
        split at hfault
        · next haccepts => exact .matching htext haccepts
        · cases hfault
      · intro h
        cases h with
        | matching htext haccepts => exact ⟨_, htext, if_pos haccepts⟩
  | object shape => exact checkObject_right hright shape hfinished
  | array item => exact checkArray_right hright item hfinished
  | union alternatives => exact checkUnion_right hright hrun alternatives hfinished
  | named name => exact checkNamed_right hright name hfinished
  | documented path s =>
    refine (hright s _ t hfinished).trans ⟨.documented, fun h => ?_⟩
    cases h with
    | documented h => exact h
  | switch key selector => exact checkSwitch_right hright key selector hfinished
  | select selector =>
    refine (checkSelected_right hright selector none hfinished).trans ?_
    constructor
    · rintro ⟨hmarked, h⟩
      exact .select hmarked h
    · intro h
      cases h with
      | select hmarked h => exact ⟨hmarked, h⟩
  | custom chooser parts => exact runChooser_right hright chooser parts hfinished

/-- With any fuel, a check that comes to its end is right about its node. -/
theorem check_right (env : Environment Chooser) (fuel : Nat) :
    Right env.schemas (check env fuel) := by
  induction fuel with
  | zero =>
    intro s sc t hfinished
    cases hfinished
  | succ fuel ih =>
    intro s sc t hfinished
    have hstep := Log.finished_right hfinished
    rw [check_succ]
    refine (Log.joint_errors.append_iff _ _).trans ((and_iff_right rfl).trans ?_)
    exact step_right env (check_blind env fuel) ih s sc t hstep

end Check

/-- A report is valid if and only if there is no error in the log. -/
theorem Setup.isValid_report_iff {ε : Type} (u : Setup ε) (log : Log) :
    (u.report log).isValid = true ↔ log.errors = 0 := by
  have hrender : ∀ f : Finding, (f.render u.messages).isError = f.isError := fun _ => rfl
  unfold Setup.report Report.isValid Log.errors
  rw [List.any_map, List.countP_eq_zero, Bool.not_eq_true', List.any_eq_false]
  simp only [Function.comp_apply, hrender]

/-- **Validity is conformance**: where each circle of registered names passes through an object or
an array, every validation comes to its end, and its report is valid if and only if the tree
conforms to the schema. -/
theorem isValid_validate_iff (u : Setup Chooser) (hguard : Guarded u.schemas) (s : Schema Chooser)
    (root : String) (t : Node) :
    (u.validate s root t).log.finished = true ∧
      ((u.report (u.validate s root t).log).isValid = true ↔ Conforms u.schemas s t) := by
  have hfinished : (u.validate s root t).log.finished = true :=
    finished_check hguard s { path := root } t.clear _ (Nat.le_refl _)
  refine ⟨hfinished, (u.isValid_report_iff _).trans ?_⟩
  have hlog : (u.validate s root t).log =
      (check u.toEnvironment (u.budget s { path := root } t.clear) s { path := root } t).log :=
    (Check.check_blind u.toEnvironment _).log_clear s { path := root } t
  rw [hlog] at hfinished ⊢
  exact Check.check_right u.toEnvironment _ s { path := root } t hfinished

/-- Strings in arrays of any depth, registered under two names: one goes round through an array, and
the other stands for it. -/
def nestedStrings : Setup Chooser where
  schemas := .ofList [("strings", .union [.scalar .string, .array (.named "strings")]),
    ("alias", .named "strings")]

theorem guarded_nestedStrings : Guarded nestedStrings.schemas := by
  refine guarded_of_measure (fun name => if name = "alias" then 1 else 0) ?_
  rintro name other ⟨s, hget, hexposes⟩
  have hrow := Table.mem_entries_of_get? hget
  have hrows : nestedStrings.schemas.entries = [("strings", .union [.scalar .string,
    .array (.named "strings")]), ("alias", .named "strings")] := rfl
  rw [hrows, List.mem_cons, List.mem_singleton] at hrow
  rcases hrow with hrow | hrow <;> cases hrow
  · have hunion : (Schema.union [.scalar .string, .array (.named "strings")] :
        Schema Chooser).Sealed :=
      .of_openParts nofun (List.forall_mem_cons.mpr
        ⟨.of_openParts nofun nofun, List.forall_mem_singleton.mpr (Schema.sealed_array _)⟩)
    exact absurd hexposes (hunion other)
  · cases hexposes with
    | named => decide
    | part hp _ => cases hp

/-- An array that holds a string is valid under the second name. -/
theorem isValid_nestedStrings :
    let t : Node := ⟨⟨0, 5⟩, none, .array [.string "a" ⟨1, 4⟩]⟩
    let o := nestedStrings.validate (.named "alias") "" t
    Guarded nestedStrings.schemas ∧ o.log.finished = true ∧
      (nestedStrings.report o.log).isValid = true := by
  intro t o
  obtain ⟨hfinished, hvalid⟩ :=
    isValid_validate_iff nestedStrings guarded_nestedStrings (.named "alias") "" t
  have hitem : Conforms nestedStrings.schemas (.named "strings") (.string "a" ⟨1, 4⟩) :=
    .named rfl (.union List.mem_cons_self (.scalar rfl))
  have hitems : Conforms nestedStrings.schemas (.array (.named "strings")) t := by
    refine .array rfl fun u hu => ?_
    rw [List.mem_singleton.mp hu]
    exact hitem
  have ht : Conforms nestedStrings.schemas (.named "alias") t :=
    .named rfl (.named rfl (.union (List.mem_cons_of_mem _ (List.mem_singleton_self _)) hitems))
  exact ⟨guarded_nestedStrings, hfinished, hvalid.mpr ht⟩

end DocShape
