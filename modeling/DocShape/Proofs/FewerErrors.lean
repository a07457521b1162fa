import Mathlib.Algebra.Order.BigOperators.Group.List
import DocShape.Proofs.Conformance
import DocShape.Proofs.Loosened

/-!
# Asking for less never adds an error

Two runs on the same tree, one against a schema and one against the same schema with some properties
marked as optional or deprecated: the second never finds more errors, and a tree that was valid stays
so (`errors_report_le_of_loosened`). What is found may well differ otherwise, because another
alternative may come out best.

The proof is a simulation between the runs. Objects and arrays add up the errors of what they hold,
a key that had to be present may be absent at most in the second run, and a union has the errors of
its best alternative, which are the fewest of all (`Check.errors_checkUnion_le`).
-/

namespace DocShape

/-! ### Counting errors -/

/-- The errors of some logs in a row add up. -/
theorem Log.errors_join (logs : List Log) : (Log.join logs).errors = (logs.map Log.errors).sum := by
  induction logs with
  | nil => rfl
  | cons a logs ih => rw [join_cons, errors_append, ih, List.map_cons, List.sum_cons]

/-- The errors of a report are those of the log. -/
theorem Setup.errors_report {ε : Type} (u : Setup ε) (log : Log) :
    (u.report log).errors = log.errors := by
  unfold Setup.report Report.errors Report.count Log.errors
  rw [List.countP_map]
  rfl

namespace Check

variable {ε : Type}

/-- A deprecated key is no error. -/
theorem errors_deprecationLog (p : Property (Schema ε)) (key : Key) :
    (deprecationLog p key).errors = 0 := by
  unfold deprecationLog
  split <;> rfl

/-- The second run never finds more errors than the first, each node being checked in the same scope
against a schema and against the loosened schema, wherever both come to their end. -/
def Fewer (run run' : Run ε) : Prop :=
  ∀ s s', s.Loosened s' → ∀ sc t, (run s sc t).log.finished = true →
    (run' s' sc t).log.finished = true → (run' s' sc t).log.errors ≤ (run s sc t).log.errors

section Step

variable {env env' : Environment ε} {run run' : Run ε} {sc : Scope}

/-! ### Objects and arrays -/

/-- Less is missing from an object whose properties are loosened. -/
theorem errors_missingLog_le {f g : Fields (Schema ε)}
    (h : Fields.Rel Marks.Loosened Schema.Loosened f g) (keys : List String)
    (members : List (Member Node)) (span : Span) :
    (missingLog keys g members span).errors ≤ (missingLog keys f members span).errors := by
  rw [errors_missingLog, errors_missingLog]
  refine List.countP_mono_left fun key _ hmissing => ?_
  rw [Bool.and_eq_true, Bool.not_eq_true', Bool.not_eq_true'] at hmissing ⊢
  refine ⟨hmissing.1, ?_⟩
  by_contra hp
  rw [Bool.not_eq_false] at hp
  have hq := (h.property key).mayBeAbsent_of_loosened hp
  rw [hq] at hmissing
  cases hmissing.2

variable (hfewer : Fewer run run')

include hfewer

theorem errors_checkDeclared_le {f g : Fields (Schema ε)}
    (h : Fields.Rel Marks.Loosened Schema.Loosened f g) (keys : List String) (m : Member Node)
    (hfinished : (checkDeclared env run keys f sc m).2.finished = true)
    (hfinished' : (checkDeclared env' run' keys g sc m).2.finished = true) :
    (checkDeclared env' run' keys g sc m).2.errors ≤
      (checkDeclared env run keys f sc m).2.errors := by
  obtain ⟨_ | key, value⟩ := m
  · exact Nat.le_refl _
  · by_cases hmem : key.text ∈ keys
    · rw [joint_checkDeclared Log.joint_finished] at hfinished hfinished'
      have hp := h.property key.text
      have hscope : propertyScope (f.property key.text) key.text sc =
          propertyScope (g.property key.text) key.text sc := by
        unfold propertyScope
        rw [hp.docPath?_eq_of_loosened]
      have hvalue' := hfinished' key rfl hmem
      rw [checkDeclared_of_mem hmem, checkDeclared_of_mem hmem, checkProperty, checkProperty]
      dsimp only
      rw [Log.errors_append, Log.errors_append, errors_deprecationLog, errors_deprecationLog,
        Nat.zero_add, Nat.zero_add]
      rw [← hscope] at hvalue' ⊢
      exact hfewer _ _ hp.schema _ _ (hfinished key rfl hmem) hvalue'
    · rw [checkDeclared_of_not_mem hmem, checkDeclared_of_not_mem hmem]

theorem errors_checkKeyed_le {keys keys' : Schema ε} (hkeys : keys.Loosened keys')
    {f g : Fields (Schema ε)} (h : Fields.Rel Marks.Loosened Schema.Loosened f g) (m : Member Node)
    (hfinished : (checkKeyed run keys f sc m).2.finished = true)
    (hfinished' : (checkKeyed run' keys' g sc m).2.finished = true) :
    (checkKeyed run' keys' g sc m).2.errors ≤ (checkKeyed run keys f sc m).2.errors := by
  rw [joint_checkKeyed Log.joint_finished] at hfinished hfinished'
  obtain ⟨_ | key, value⟩ := m
  · exact Nat.le_refl _
  · obtain ⟨hkey, hvalue⟩ := hfinished key rfl
    obtain ⟨hkey', hvalue'⟩ := hfinished' key rfl
    have hkeylog := hfewer _ _ hkeys sc _ hkey hkey'
    cases value with
    | none => exact hkeylog
    | some u =>
      have hu := hfewer _ _ (h.property key.text).schema sc u (hvalue u rfl) (hvalue' u rfl)
      rw [checkKeyed, checkKeyed]
      dsimp only
      rw [Log.errors_append, Log.errors_append]
      exact Nat.add_le_add hkeylog hu

/-- The errors about the members of an object of a loosened shape. -/
theorem errors_checkMembers_le {shape shape' : Shape (Schema ε)}
    (h : Shape.Rel Marks.Loosened Schema.Loosened shape shape') (span : Span)
    (members : List (Member Node))
    (hfinished : (checkMembers env run sc span members shape).2.finished = true)
    (hfinished' : (checkMembers env' run' sc span members shape').2.finished = true) :
    (checkMembers env' run' sc span members shape').2.errors ≤
      (checkMembers env run sc span members shape).2.errors := by
  cases h with
  | free => exact Nat.le_refl _
  | fixed keys h =>
    have hmembers := Log.finished_right hfinished
    have hmembers' := Log.finished_right hfinished'
    rw [Log.joint_finished.join_iff, List.forall_mem_map, List.forall_mem_map]
      at hmembers hmembers'
    simp only [checkMembers, Log.errors_append, Log.errors_join, List.map_map]
    refine Nat.add_le_add (errors_missingLog_le h keys members span) ?_
    refine List.sum_le_sum fun m hm => ?_
    exact errors_checkDeclared_le hfewer h keys m (hmembers m hm) (hmembers' m hm)
  | keyed hkeys h =>
    simp only [checkMembers] at hfinished hfinished'
    rw [Log.joint_finished.join_iff, List.forall_mem_map, List.forall_mem_map]
      at hfinished hfinished'
    simp only [checkMembers, Log.errors_join, List.map_map]
    refine List.sum_le_sum fun m hm => ?_
    exact errors_checkKeyed_le hfewer hkeys h m (hfinished m hm) (hfinished' m hm)

theorem errors_checkObject_le {shape shape' : Shape (Schema ε)}
    (h : Shape.Rel Marks.Loosened Schema.Loosened shape shape') (t : Node)
    (hfinished : (checkObject env run shape sc t).log.finished = true)
    (hfinished' : (checkObject env' run' shape' sc t).log.finished = true) :
    (checkObject env' run' shape' sc t).log.errors ≤ (checkObject env run shape sc t).log.errors := by
  cases hmembers : t.members? with
  | none =>
    rw [checkObject_of_none hmembers, checkObject_of_none hmembers]
    dsimp only
    rw [Log.errors_append, Log.errors_append, errors_describeShape, errors_describeShape]
  | some members =>
    rw [checkObject_of_members hmembers] at hfinished hfinished' ⊢
    rw [checkObject_of_members hmembers]
    have hfin := Log.finished_right hfinished
    have hfin' := Log.finished_right hfinished'
    dsimp only
    rw [Log.errors_append, Log.errors_append, errors_describeShape, errors_describeShape,
      Nat.zero_add, Nat.zero_add]
    exact errors_checkMembers_le hfewer h t.span members hfin hfin'

theorem errors_checkArray_le {item item' : Schema ε} (h : item.Loosened item') (t : Node)
    (hfinished : (checkArray env run item sc t).log.finished = true)
    (hfinished' : (checkArray env' run' item' sc t).log.finished = true) :
    (checkArray env' run' item' sc t).log.errors ≤ (checkArray env run item sc t).log.errors := by
  cases hitems : t.items? with
  | none =>
    rw [checkArray_of_none hitems, checkArray_of_none hitems]
    dsimp only
    rw [Log.errors_append, Log.errors_append, errors_describePart, errors_describePart]
  | some items =>
    rw [checkArray_of_items hitems] at hfinished hfinished' ⊢
    rw [checkArray_of_items hitems]
    have hfin := Log.finished_right hfinished
    have hfin' := Log.finished_right hfinished'
    rw [Log.joint_finished.join_iff, List.map_map, List.forall_mem_map] at hfin hfin'
    dsimp only
    rw [Log.errors_append, Log.errors_append, errors_describePart, errors_describePart,
      Nat.zero_add, Nat.zero_add, Log.errors_join, Log.errors_join, List.map_map, List.map_map,
      List.map_map, List.map_map]
    refine List.sum_le_sum fun u hu => ?_
    exact hfewer _ _ h sc u (hfin u hu) (hfin' u hu)

/-! ### Alternatives -/

omit hfewer in
/-- A union has no more errors than any of its alternatives that comes to its end, as long as all come
to their end that were tried. -/
theorem errors_checkUnion_le (hrun : Blind run) {ss : List (Schema ε)} {t : Node} {s : Schema ε}
    (hs : s ∈ ss) {bound : Nat}
    (hfinished : (checkUnion run ss sc t).log.finished = true)
    (hbound : (run s sc t).log.finished = true → (run s sc t).log.errors ≤ bound) :
    (checkUnion run ss sc t).log.errors ≤ bound := by
  rcases checkUnion_eq hrun ss sc t with ⟨rfl, _⟩ | ⟨i, best, hbest, hfirst, hi, _⟩
  · cases hs
  have herrors : (checkUnion run ss sc t).log.errors = (run best sc t).log.errors :=
    congrArg (List.countP _) (findings_winner hrun hbest hi)
  obtain ⟨htried, -⟩ := finished_winner hrun hbest hi hfinished
  have hwinner : (ss.map fun s => (run s sc t).log.errors)[i]? =
      some (run best sc t).log.errors := by
    rw [List.getElem?_map, hbest, Option.map_some]
  rcases log_mem_trials_or hrun hs t with hlog | hzero
  · obtain ⟨o, ho, holog⟩ := List.mem_map.mp hlog
    have hfin : (run s sc t).log.finished = true := holog ▸ htried o ho
    obtain ⟨k, hk, hget⟩ := List.getElem_of_mem (List.mem_map_of_mem hs)
    have hle := hfirst.le k hk
    rw [List.getElem?_eq_getElem hfirst.lt_length] at hwinner
    rw [Option.some.inj hwinner, hget] at hle
    rw [herrors]
    exact Nat.le_trans hle (hbound hfin)
  · rw [hfirst.eq_zero hzero] at hwinner
    rw [herrors, ← Option.some.inj hwinner]
    exact Nat.zero_le bound

/-- A union of loosened alternatives has no more errors: the alternative that came out best before
has no more than it had, and the best one now has no more than that. -/
theorem errors_checkUnion_loosened_le (hrun : Blind run) (hrun' : Blind run')
    {ss ss' : List (Schema ε)} (h : List.Forall₂ Schema.Loosened ss ss') (t : Node)
    (hfinished : (checkUnion run ss sc t).log.finished = true)
    (hfinished' : (checkUnion run' ss' sc t).log.finished = true) :
    (checkUnion run' ss' sc t).log.errors ≤ (checkUnion run ss sc t).log.errors := by
  rcases checkUnion_eq hrun ss sc t with ⟨rfl, _⟩ | ⟨i, best, hbest, _, hi, _⟩
  · cases h
    exact Nat.le_refl _
  have herrors : (checkUnion run ss sc t).log.errors = (run best sc t).log.errors :=
    congrArg (List.countP _) (findings_winner hrun hbest hi)
  obtain ⟨-, hchosen⟩ := finished_winner hrun hbest hi hfinished
  have hrel := getElem?_rel h i
  rw [hbest] at hrel
  generalize hbest' : ss'[i]? = o at hrel
  cases hrel with
  | some hs =>
    rw [herrors]
    exact errors_checkUnion_le hrun' (List.mem_of_getElem? hbest') hfinished'
      (hfewer best _ hs sc t hchosen)

end Step

/-! ### Any check -/

variable [CustomCheck ε] [Picking ε] [Steady ε] {env env' : Environment ε} {run run' : Run ε}

/-- **One step** finds no more errors if nothing further inside does. -/
theorem step_fewer (hregistry : LoosenedRegistry env.schemas env'.schemas) (hrun : Blind run)
    (hrun' : Blind run') (hfewer : Fewer run run') :
    Fewer (Check.step env run) (Check.step env' run') := by
  intro s s' h sc t hfinished hfinished'
  have hrelay' := relay?_loosened hregistry h sc t
  cases way env sc t s with
  | relay hrelay =>
    rw [hrelay] at hrelay'
    generalize hr' : relay? env' sc t s' = o at hrelay'
    cases hrelay' with
    | some hr =>
      rw [step_of_relay hrelay] at hfinished ⊢
      rw [step_of_relay hr'] at hfinished' ⊢
      have hfin := Log.finished_right hfinished
      have hfin' := Log.finished_right hfinished'
      rw [Outcome.log_after, Outcome.log_after, Log.errors_append, Log.errors_append, hr.log]
      rw [← hr.scope] at hfin' ⊢
      exact Nat.add_le_add_left (hfewer _ _ hr.schema _ t hfin hfin') _
  | alone hs hrelay =>
    rw [hrelay] at hrelay'
    generalize hr' : relay? env' sc t s' = o at hrelay'
    cases hrelay' with
    | none =>
      rw [step_of_alone hs hrelay, step_of_alone (h.not_compound hs) hr', log_alone_loosened h]
  | object shape =>
    cases h with
    | object h => exact errors_checkObject_le hfewer h t hfinished hfinished'
  | array item =>
    cases h with
    | array h => exact errors_checkArray_le hfewer h t hfinished hfinished'
  | union alternatives =>
    cases h with
    | union h => exact errors_checkUnion_loosened_le hfewer hrun hrun' h t hfinished hfinished'

/-- Checks against loosened schemas find no more errors, wherever both come to their end. -/
theorem check_fewer (hregistry : LoosenedRegistry env.schemas env'.schemas) (fuel fuel' : Nat) :
    Fewer (check env fuel) (check env' fuel') := by
  induction fuel generalizing fuel' with
  | zero =>
    intro s s' h sc t hfinished _
    cases hfinished
  | succ fuel ih =>
    intro s s' h sc t hfinished hfinished'
    cases fuel' with
    | zero => cases hfinished'
    | succ fuel' =>
      have hfin := Log.finished_right hfinished
      have hfin' := Log.finished_right hfinished'
      have hstep := step_fewer hregistry (blind_check env fuel) (blind_check env' fuel')
        (ih fuel') s s' h sc t hfin hfin'
      rw [check_succ, check_succ, Outcome.log_after, Outcome.log_after, Log.errors_append,
        Log.errors_append]
      exact Nat.add_le_add_left hstep _

end Check

/-- **Asking for less never adds an error**: two setups of which the second has a loosened registry,
whatever else they look up, check a tree from the same path, the second one against a loosened
schema. Where both come to their end, the second finds no more errors, and reports a valid tree if
the first does. Both do come to their end where each circle of names in the first registry passes
through an object or an array. Custom checks are judges: they read neither slots, which are filled
differently in the two runs, nor settings, in which the two setups may differ. -/
theorem errors_report_le_of_loosened (u u' : Setup Judge)
    (hregistry : LoosenedRegistry u.schemas u'.schemas) {s s' : Schema Judge} (hs : s.Loosened s')
    (root : String) (t : Node) :
    (∀ o o', u.Validates s root t o → u'.Validates s' root t o' →
      (u'.report o'.log).errors ≤ (u.report o.log).errors ∧
      ((u.report o.log).isValid = true → (u'.report o'.log).isValid = true)) ∧
    (Guarded u.schemas → u.Validates s root t (u.validate s root t) ∧
      u'.Validates s' root t (u'.validate s' root t)) := by
  constructor
  · rintro o o' ⟨fuel, rfl, hfinished⟩ ⟨fuel', rfl, hfinished'⟩
    have hle := Check.check_fewer hregistry fuel fuel' s s' hs _ _ hfinished hfinished'
    rw [u.errors_report, u'.errors_report, u.isValid_report_iff, u'.isValid_report_iff]
    exact ⟨hle, fun hvalid => Nat.eq_zero_of_le_zero (Nat.le_trans hle (Nat.le_of_eq hvalid))⟩
  · intro hguard
    exact ⟨u.validates_validate s root t (finished_check hguard s _ _ _ (Nat.le_refl _)),
      u'.validates_validate s' root t
        (finished_check (hguard.loosened hregistry) s' _ _ _ (Nat.le_refl _))⟩

/-- Points by name: two numbers, the second one marked in some way, or else a label. -/
def pointSchema (marks : Option Marks) : Schema Judge :=
  .union [
    .object (.fixed ["x", "y"] ⟨[("x", ⟨.scalar .number, none⟩), ("y", ⟨.scalar .number, marks⟩)],
      ⟨.anything, none⟩⟩),
    .object (.fixed ["label"] ⟨[("label", ⟨.scalar .string, none⟩)], ⟨.anything, none⟩⟩)]

/-- Nothing but points. -/
def points (marks : Option Marks) : Setup Judge where
  schemas := ⟨[("point", pointSchema marks)]⟩

theorem guarded_points (marks : Option Marks) : Guarded (points marks).schemas := by
  apply guarded_of_sealed
  -- both alternatives are objects
  refine List.forall_mem_singleton.mpr (.of_openParts nofun (List.forall_mem_cons.mpr ⟨?_, ?_⟩))
  · exact Schema.sealed_object _
  · exact List.forall_mem_singleton.mpr (Schema.sealed_object _)

theorem loosened_points :
    LoosenedRegistry (points none).schemas (points (some { optional := true })).schemas := by
  have hx : Property.Rel Marks.Loosened Schema.Loosened
      (⟨.scalar .number, none⟩ : Property (Schema Judge)) ⟨.scalar .number, none⟩ :=
    ⟨.scalar .number, .refl⟩
  have hy : Property.Rel Marks.Loosened Schema.Loosened
      (⟨.scalar .number, none⟩ : Property (Schema Judge))
      ⟨.scalar .number, some { optional := true }⟩ := ⟨.scalar .number, .optional .refl⟩
  have hany : Property.Rel Marks.Loosened Schema.Loosened
      (⟨.anything, none⟩ : Property (Schema Judge)) ⟨.anything, none⟩ := ⟨.anything, .refl⟩
  have hlabel : Property.Rel Marks.Loosened Schema.Loosened
      (⟨.scalar .string, none⟩ : Property (Schema Judge)) ⟨.scalar .string, none⟩ :=
    ⟨.scalar .string, .refl⟩
  have hpoint : (pointSchema none).Loosened (pointSchema (some { optional := true })) :=
    .union (.cons (.object (.fixed _ ⟨.cons ⟨"x", hx⟩ (.cons ⟨"y", hy⟩ .nil), hany⟩))
      (.cons (.object (.fixed _ ⟨.cons ⟨"label", hlabel⟩ .nil, hany⟩)) .nil))
  exact Table.Rel.get? ⟨.cons ⟨"point", hpoint⟩ .nil⟩

/-- An array with one point that has nothing but an `x`, and one that is no number. -/
def misfit : Node :=
  ⟨⟨0, 10⟩, none, .array [⟨⟨1, 9⟩, none,
    .object [⟨some ⟨"x", ⟨2, 5⟩, none⟩, some (.string "" ⟨7, 8⟩)⟩]⟩]⟩

/-- With `y` required the label fits better, with `y` optional the two numbers do. There is one error in
either case, but not the same. -/
theorem errors_report_le_misfit :
    (points none).Validates (.array (.named "point")) "" misfit
      ((points none).validate (.array (.named "point")) "" misfit) ∧
    ∃ o o', (points none).Validates (.array (.named "point")) "" misfit o ∧
      (points (some { optional := true })).Validates (.array (.named "point")) "" misfit o' ∧
      o.log.findings.map (·.cause) = [.missingProperty "label", .unknownProperty "x"] ∧
      o'.log.findings.map (·.cause) = [.typeMismatch "number" "string"] ∧
      ((points (some { optional := true })).report o'.log).errors ≤
        ((points none).report o.log).errors := by
  obtain ⟨hle, hends⟩ := errors_report_le_of_loosened (points none) (points (some { optional := true }))
    loosened_points (.array (.named "point")) "" misfit
  obtain ⟨o, ho, hcauses⟩ : ∃ o, (points none).Validates (.array (.named "point")) "" misfit o ∧
      o.log.findings.map (·.cause) = [.missingProperty "label", .unknownProperty "x"] :=
    ⟨_, ⟨6, rfl, rfl⟩, rfl⟩
  obtain ⟨o', ho', hcauses'⟩ : ∃ o',
      (points (some { optional := true })).Validates (.array (.named "point")) "" misfit o' ∧
      o'.log.findings.map (·.cause) = [.typeMismatch "number" "string"] :=
    ⟨_, ⟨6, rfl, rfl⟩, rfl⟩
  exact ⟨(hends (guarded_points none)).1, o, o', ho, ho', hcauses, hcauses', (hle o o' ho ho').1⟩

end DocShape
