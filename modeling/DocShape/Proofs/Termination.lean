import Mathlib.Data.List.MinMax
import Mathlib.Tactic.Ring
import DocShape.Proofs.Fuel
import DocShape.Proofs.Guard

/-!
# Checks come to their end

With a guarded registry, `Environment.budget` is fuel enough for every check (`finished_check`), so
that checking and describing terminate (`check_describe_terminate`).
What a check still has to do goes down in two ways. Entering an object or an array brings it further
down the tree or into one more description, which can happen only so often (`Environment.reach`). In
between it stays on its node, and then goes down a schema or passes one more name, of which there is
an end as well (`Trail`).

One step comes to its end if all that it goes on to do comes to its end (`step_finished`); the rest
is an induction on the fuel, with what is left to do bounded by it (`finished_of_enough`).
-/

namespace DocShape

variable {ε : Type}

/-! ### The way down a schema -/

/-- The height of a part is below that of the schema. -/
theorem Schema.height_lt_of_mem_parts {s p : Schema ε} (h : p ∈ s.parts) : p.height < s.height := by
  rw [Schema.height.eq_def s]
  refine Nat.lt_succ_of_le (List.le_max_of_le' 0 (List.mem_map.mpr ?_) (Nat.le_refl _))
  exact ⟨⟨p, h⟩, List.mem_attach _ _, rfl⟩

/-- No registered schema is higher than the highest one. -/
theorem height_le_of_get? {schemas : Table (Schema ε)} {name : String} {c : Schema ε}
    (hget : schemas.get? name = some c) (n : Nat) :
    c.height ≤ (schemas.entries.map (·.2.height)).foldr max n := by
  refine List.le_max_of_le' _ (List.mem_map.mpr ?_) (Nat.le_refl _)
  exact ⟨_, Table.mem_entries_of_get? hget, rfl⟩

/-- The bound for the number of steps that a check stays on a node without passing a name. An object
takes one step, however high it is. -/
def Schema.weight : Schema ε → Nat
  | .object _ => 1
  | s => s.height + 1

theorem Schema.one_le_height (s : Schema ε) : 1 ≤ s.height := by
  rw [Schema.height.eq_def]
  exact Nat.le_add_left 1 _

theorem Schema.height_anything : (Schema.anything : Schema ε).height = 1 := by
  rw [Schema.height.eq_def]
  rfl

theorem Schema.one_le_weight (s : Schema ε) : 1 ≤ s.weight := by
  cases s <;> simp [weight]

theorem Schema.one_lt_weight {s : Schema ε} (h : ∀ shape, s ≠ .object shape) : 1 < s.weight := by
  cases s with
  | object shape => exact absurd rfl (h shape)
  | _ => exact Nat.succ_lt_succ (one_le_height _)

theorem Schema.weight_le (s : Schema ε) : s.weight ≤ s.height + 1 := by
  cases s <;> simp [weight]

/-- A schema that takes at most so many steps on a node, with parts of at most that height. -/
structure Schema.Within (levels : Nat) (s : Schema ε) : Prop where
  weight_le : s.weight ≤ levels + 1
  height_le (p : Schema ε) (hp : p ∈ s.parts) : p.height ≤ levels

/-- A schema of at most that height is within the bound. -/
theorem Schema.within_of_height_le {levels : Nat} {s : Schema ε} (h : s.height ≤ levels) :
    s.Within levels := by
  refine ⟨?_, fun p hp => ?_⟩
  · have := s.weight_le
    omega
  · have := height_lt_of_mem_parts hp
    omega

/-! ### The way down a tree -/

/-- How often a check can still enter an object or an array, be it in the tree or in a description.
-/
def Environment.reach (env : Environment ε) (sc : Scope) (t : Node) : Nat :=
  t.height + (env.settings.expectationDepth + 1 - sc.depth).toNat

section Reach

variable (env : Environment ε)

/-- Only the depth of a scope counts. -/
theorem reach_congr {sc sc' : Scope} {t u : Node} (hdepth : sc.depth = sc'.depth)
    (h : t.clear = u.clear) : env.reach sc t = env.reach sc' u := by
  have hheight : t.height = u.height := by rw [← t.height_clear, h, u.height_clear]
  unfold Environment.reach
  rw [hdepth, hheight]

/-- A description reaches no further than the node that it is made for. -/
theorem reach_aside_le (sc : Scope) (t : Node) :
    env.reach sc.aside Check.nowhere ≤ env.reach sc t := by
  have ht := t.one_le_height
  have hnowhere : Check.nowhere.height = 1 := rfl
  have hdepth : sc.aside.depth = sc.depth + 1 := rfl
  unfold Environment.reach
  rw [hnowhere, hdepth]
  omega

/-- Where parts are described, a description reaches less far. -/
theorem reach_aside_lt {sc : Scope} (h : sc.Describes env.settings) (t : Node) :
    env.reach sc.aside Check.nowhere < env.reach sc t := by
  have ht := t.one_le_height
  have hnowhere : Check.nowhere.height = 1 := rfl
  have hdepth : sc.aside.depth = sc.depth + 1 := rfl
  unfold Scope.Describes at h
  unfold Environment.reach
  rw [hnowhere, hdepth]
  omega

/-- What stands lower in the tree reaches less far. -/
theorem reach_lt {sc sc' : Scope} {t u : Node} (hdepth : sc'.depth = sc.depth)
    (h : u.height < t.height) : env.reach sc' u < env.reach sc t := by
  unfold Environment.reach
  rw [hdepth]
  omega

end Reach

/-! ### One step -/

namespace Check

section Course

variable {Q : Log → Prop} (hQ : Log.Course Q)

include hQ

theorem course_textLog (fault? : String → Option Cause) (t : Node) : Q (textLog fault? t) := by
  unfold textLog
  cases t.text? with
  | none => exact hQ.of_idle rfl rfl
  | some text =>
    dsimp only
    cases fault? text with
    | none => exact hQ.empty
    | some cause => exact hQ.of_idle rfl rfl

theorem course_kindLog (kind : Kind) (t : Node) : Q (kindLog kind t) := by
  unfold kindLog
  split
  · exact hQ.empty
  · exact hQ.of_idle rfl rfl

/-- What is neither handed on nor gone into runs nothing. -/
theorem course_alone (t : Node) (s : Schema ε) : Q (alone t s).log := by
  cases s with
  | scalar scalar => exact course_kindLog hQ scalar.kind t
  | oneOf pool => exact course_textLog hQ _ t
  | matching pattern => exact course_textLog hQ _ t
  | _ => exact hQ.of_idle rfl rfl

/-- Neither is anything run when a node is handed on. -/
theorem course_of_relay [CustomCheck ε] [Picking ε] {env : Environment ε} {sc : Scope} {t : Node}
    {s : Schema ε} {r : Relay ε} (h : relay? env sc t s = some r) : Q r.log := by
  cases s with
  | anything | scalar _ | oneOf _ | matching _ | object _ | array _ | union _ => cases h
  | named name =>
    obtain ⟨c, -, rfl⟩ := Option.map_eq_some_iff.mp h
    exact hQ.empty
  | documented path c =>
    cases h
    exact hQ.empty
  | switch key selector =>
    obtain ⟨members, -, rfl⟩ := Option.map_eq_some_iff.mp h
    exact selector.course_choose hQ _ t _
  | select selector =>
    cases h
    exact selector.course_choose hQ _ t none
  | custom custom parts =>
    obtain ⟨c, -, rfl⟩ := Option.map_eq_some_iff.mp h
    exact hQ.empty

end Course

section Step

variable {env : Environment ε} {run : Run ε} {sc : Scope} {t : Node}

theorem depth_propertyScope (p : Property (Schema ε)) (key : String) :
    (propertyScope p key sc).depth = sc.depth := by
  unfold propertyScope
  cases p.docPath? <;> rfl

/-- Checking an object comes to its end if all that lies lower does. -/
theorem finished_checkObject {shape : Shape (Schema ε)}
    (hlower : ∀ p ∈ shape.schemas, ∀ sc' u, env.reach sc' u < env.reach sc t →
      (run p sc' u).log.finished = true) :
    (checkObject env run shape sc t).log.finished = true := by
  have hdescribed : (describeShape run env.settings sc shape).2.finished = true := by
    rw [joint_describeShape Log.joint_finished]
    intro hdescribes s hs
    exact hlower s (Shape.mem_schemas_of_mem_described hs) _ _ (reach_aside_lt env hdescribes t)
  obtain ⟨span, expectation, body⟩ := t
  unfold checkObject
  cases body with
  | array _ | string _ | number _ | boolean _ | null =>
    exact (Log.joint_finished.append_iff _ _).mpr ⟨hdescribed, rfl⟩
  | object members =>
    refine (Log.joint_finished.append_iff _ _).mpr ⟨hdescribed, ?_⟩
    have hheight : ∀ m ∈ members, ∀ at' : Span,
        (m.value.getD (Node.null at')).height < Node.height ⟨span, expectation, .object members⟩ :=
      fun m hm at' => Nat.lt_succ_of_le (Node.height_le_of_mem_members hm at')
    cases shape with
    | free => rfl
    | fixed keys fields =>
      rw [joint_checkMembers_fixed Log.joint_finished]
      refine ⟨rfl, fun m hm key _ _ => ?_⟩
      exact hlower _ (fields.property_mem key.text) _ _
        (reach_lt env (depth_propertyScope _ _) (hheight m hm _))
    | keyed keys fields =>
      rw [joint_checkMembers_keyed Log.joint_finished]
      refine fun m hm key _ => ⟨?_, fun u hu => ?_⟩
      · have hkey : key.toNode.height < Node.height ⟨span, expectation, .object members⟩ :=
          Nat.lt_of_le_of_lt (Node.one_le_height _) (hheight m hm key.span)
        exact hlower keys List.mem_cons_self sc _ (reach_lt env rfl hkey)
      · have hvalue := hheight m hm key.span
        rw [hu] at hvalue
        exact hlower _ (List.mem_cons_of_mem _ (fields.property_mem key.text)) sc u
          (reach_lt env rfl hvalue)

/-- Checking an array comes to its end if all that lies lower does. -/
theorem finished_checkArray {item : Schema ε}
    (hlower : ∀ sc' u, env.reach sc' u < env.reach sc t → (run item sc' u).log.finished = true) :
    (checkArray env run item sc t).log.finished = true := by
  have hdescribed : (describePart run env.settings item sc).log.finished = true := by
    rw [joint_describePart Log.joint_finished]
    intro hdescribes
    exact hlower _ _ (reach_aside_lt env hdescribes t)
  obtain ⟨span, expectation, body⟩ := t
  unfold checkArray
  cases body with
  | object _ | string _ | number _ | boolean _ | null =>
    exact (Log.joint_finished.append_iff _ _).mpr ⟨hdescribed, rfl⟩
  | array items =>
    refine (Log.joint_finished.append_iff _ _).mpr ⟨hdescribed, ?_⟩
    rw [Log.joint_finished.join_iff, List.map_map, List.forall_mem_map]
    intro u hu
    have hheight : u.height < Node.height ⟨span, expectation, .array items⟩ :=
      Nat.lt_succ_of_le (Node.height_le_of_mem_items hu)
    exact hlower sc u (reach_lt env rfl hheight)

/-- Checking alternatives comes to its end if checking each of them does, on the node and in a
description. -/
theorem finished_checkUnion (hrun : Keeps run) {alternatives : List (Schema ε)}
    (hopen : ∀ s ∈ alternatives, ∀ sc' u, env.reach sc' u ≤ env.reach sc t →
      (run s sc' u).log.finished = true) :
    (checkUnion run alternatives sc t).log.finished = true := by
  rcases checkUnion_cases hrun alternatives sc t with ⟨_, heq⟩ | ⟨i, best, hbest, hindex, _⟩
  · rw [heq]
  · refine (finished_chosen_iff hrun hbest hindex).mpr ⟨?_, ?_, ?_⟩
    · intro o ho
      obtain ⟨s, hs, v, hv, rfl⟩ := mem_trials hrun ho
      exact hopen s hs sc v (Nat.le_of_eq (reach_congr env rfl hv))
    · exact hopen best (List.mem_of_getElem? hbest) sc t.clear
        (Nat.le_of_eq (reach_congr env rfl t.clear_clear))
    · intro s hs
      exact hopen s (List.mem_of_mem_drop hs) _ _ (reach_aside_le env sc t)

variable [CustomCheck ε] [Picking ε]

/-- A relay is one of the steps that stay on the node, and keeps the depth. -/
theorem hands_of_relay {s : Schema ε} {r : Relay ε} (h : relay? env sc t s = some r) :
    s.Hands env.schemas t r.schema ∧ r.scope.depth = sc.depth := by
  cases s with
  | anything | scalar _ | oneOf _ | matching _ | object _ | array _ | union _ => cases h
  | named name =>
    obtain ⟨c, hget, rfl⟩ := Option.map_eq_some_iff.mp h
    exact ⟨.named hget, rfl⟩
  | documented path c =>
    cases h
    exact ⟨.documented path c, rfl⟩
  | switch key selector =>
    obtain ⟨members, -, rfl⟩ := Option.map_eq_some_iff.mp h
    exact ⟨.switch key selector _, rfl⟩
  | select selector =>
    cases h
    exact ⟨.select selector none, rfl⟩
  | custom custom parts =>
    obtain ⟨c, hpart, rfl⟩ := Option.map_eq_some_iff.mp h
    exact ⟨.part (List.mem_of_getElem? hpart), rfl⟩

/-- **One step** comes to its end if what it hands its node on to does, as far as the node reaches,
and its parts do wherever less is within reach. -/
theorem step_finished (hrun : Keeps run) (s : Schema ε)
    (hopen : ∀ c, s.Hands env.schemas t c → ∀ sc' u, env.reach sc' u ≤ env.reach sc t →
      (run c sc' u).log.finished = true)
    (hlower : ∀ p ∈ s.parts, ∀ sc' u, env.reach sc' u < env.reach sc t →
      (run p sc' u).log.finished = true) :
    (Check.step env run s sc t).log.finished = true := by
  cases way env sc t s with
  | relay hrelay =>
    obtain ⟨hhands, hdepth⟩ := hands_of_relay hrelay
    have hreach := Nat.le_of_eq (reach_congr env (t := t) hdepth rfl)
    have hlog := course_of_relay Log.course_finished hrelay
    rw [step_of_relay hrelay]
    exact (Log.joint_finished.append_iff _ _).mpr ⟨hlog, hopen _ hhands _ t hreach⟩
  | alone hs hrelay =>
    rw [step_of_alone hs hrelay]
    exact course_alone Log.course_finished t s
  | object shape => exact finished_checkObject hlower
  | array item => exact finished_checkArray (hlower item (List.mem_singleton_self item))
  | union alternatives => exact finished_checkUnion hrun fun s hs => hopen s (.alternative hs)

end Step

end Check

/-! ### Any check -/

section Check

variable {env : Environment ε} {levels : Nat}

/-- What a check may still have to do: enter objects and arrays, each time going down schemas and
passing names, and now pass the names that are left and go down its schema. -/
def Environment.workload (env : Environment ε) (levels : Nat) (s : Schema ε) (sc : Scope) (t : Node)
    (passed : List String) : Nat :=
  env.reach sc t * ((env.schemas.size + 1) * (levels + 1))
    + (env.schemas.size - passed.length) * (levels + 1) + s.weight

/-- There is less to do where less is within reach, even with all names to be passed again. -/
theorem workload_lower {s p : Schema ε} {sc sc' : Scope} {t u : Node} {passed : List String}
    (hreach : env.reach sc' u < env.reach sc t) (hp : p.height ≤ levels) :
    env.workload levels p sc' u [] < env.workload levels s sc t passed := by
  have hs := s.one_le_weight
  have hweight := p.weight_le
  have hsize : (env.schemas.size + 1) * (levels + 1) =
      env.schemas.size * (levels + 1) + (levels + 1) := Nat.succ_mul _ _
  have hmul := Nat.mul_le_mul_right ((env.schemas.size + 1) * (levels + 1)) hreach
  rw [Nat.succ_mul] at hmul
  unfold Environment.workload
  rw [List.length_nil, Nat.sub_zero]
  omega

/-- There is less to do on the same node once less of a schema is left. -/
theorem workload_open {s c : Schema ε} {sc sc' : Scope} {t u : Node} {passed : List String}
    (hreach : env.reach sc' u ≤ env.reach sc t) (hc : c.weight < s.weight) :
    env.workload levels c sc' u passed < env.workload levels s sc t passed := by
  have hmul := Nat.mul_le_mul_right ((env.schemas.size + 1) * (levels + 1)) hreach
  unfold Environment.workload
  omega

/-- There is less to do on the same node once one more name is passed. -/
theorem workload_named {c : Schema ε} {name : String} {sc sc' : Scope} {t u : Node}
    {passed : List String} (hreach : env.reach sc' u ≤ env.reach sc t)
    (hc : c.weight ≤ levels + 1) (htrail : Trail env.schemas (name :: passed) c) :
    env.workload levels c sc' u (name :: passed) <
      env.workload levels (.named name) sc t passed := by
  have hlength := htrail.length_le
  rw [List.length_cons] at hlength
  have hweight := (.named name : Schema ε).one_le_weight
  have hmul := Nat.mul_le_mul_right ((env.schemas.size + 1) * (levels + 1)) hreach
  obtain ⟨left, hleft⟩ : ∃ left, env.schemas.size = passed.length + 1 + left :=
    ⟨_, (Nat.add_sub_cancel' hlength).symm⟩
  have hnow : env.schemas.size - passed.length = left + 1 := by omega
  have hthen : env.schemas.size - (passed.length + 1) = left := by omega
  have hnext : (left + 1) * (levels + 1) = left * (levels + 1) + (levels + 1) := Nat.succ_mul _ _
  unfold Environment.workload
  rw [List.length_cons, hnow, hthen, hnext]
  omega

/-- What a schema hands its node on to goes on within the bound, by the same trail or by one with
the name that has been passed, and has less to do. -/
theorem workload_hands {s c : Schema ε} {sc sc' : Scope} {t u : Node} {passed : List String}
    (hguard : Guarded env.schemas)
    (hregistry : ∀ name s, env.schemas.get? name = some s → s.height ≤ levels)
    (hlevels : 1 ≤ levels) (hs : s.Within levels) (htrail : Trail env.schemas passed s)
    (hc : s.Hands env.schemas t c) (hreach : env.reach sc' u ≤ env.reach sc t) :
    c.Within levels ∧ ∃ passed', Trail env.schemas passed' c ∧
      env.workload levels c sc' u passed' < env.workload levels s sc t passed := by
  rcases hc.cases_on_parts with ⟨name, rfl, hget⟩ | ⟨hopen, hpart⟩ | ⟨⟨shape, hshape⟩, hs', hparts⟩
  · have hwithin := Schema.within_of_height_le (hregistry name c hget)
    have htrail' := htrail.named hguard hget
    exact ⟨hwithin, _, htrail', workload_named hreach hwithin.weight_le htrail'⟩
  · have hheight := Schema.height_lt_of_mem_parts hpart
    have hweight : c.weight < s.weight := by
      have := c.weight_le
      cases s with
      | object shape => cases hopen
      | _ => exact Nat.lt_of_le_of_lt this (Nat.succ_lt_succ hheight)
    exact ⟨Schema.within_of_height_le (hs.height_le c hpart), passed,
      htrail.mono fun other hother => .part hopen hother, workload_open hreach hweight⟩
  · have hweight : c.weight < s.weight := by
      rw [hshape]
      exact Schema.one_lt_weight hs'
    refine ⟨⟨?_, fun p hp => ?_⟩, passed, htrail.mono fun other hother => ?_,
      workload_open hreach hweight⟩
    · rw [hshape]
      exact Nat.le_add_left 1 levels
    · rcases hparts p hp with rfl | hp
      · rwa [Schema.height_anything]
      · exact hs.height_le p hp
    · rw [hshape] at hother
      exact absurd hother (Schema.sealed_object shape other)

variable [CustomCheck ε] [Picking ε]

/-- A check comes to its end if its fuel is enough for what there is to do. -/
theorem finished_of_enough (hguard : Guarded env.schemas)
    (hregistry : ∀ name s, env.schemas.get? name = some s → s.height ≤ levels)
    (hlevels : 1 ≤ levels) (fuel : Nat) (s : Schema ε) (sc : Scope) (t : Node)
    (passed : List String) (hs : s.Within levels) (htrail : Trail env.schemas passed s)
    (henough : env.workload levels s sc t passed ≤ fuel) :
    (check env fuel s sc t).log.finished = true := by
  induction fuel generalizing s sc t passed with
  | zero =>
    have := s.one_le_weight
    unfold Environment.workload at henough
    omega
  | succ fuel ih =>
    rw [check_succ]
    refine (Log.joint_finished.append_iff _ _).mpr ⟨rfl, ?_⟩
    refine Check.step_finished (Check.check_keeps env fuel) s (fun c hc sc' u hreach => ?_)
      fun p hp sc' u hreach => ?_
    · obtain ⟨hwithin, passed', htrail', hless⟩ :=
        workload_hands hguard hregistry hlevels hs htrail hc hreach
      exact ih c sc' u passed' hwithin htrail' (by omega)
    · -- the trail starts afresh below an object or an array
      have hheight := hs.height_le p hp
      have hless : env.workload levels p sc' u [] < env.workload levels s sc t passed :=
        workload_lower hreach hheight
      exact ih p sc' u [] (Schema.within_of_height_le hheight) (Trail.nil p) (by omega)

theorem le_foldr_max (n : Nat) (ns : List Nat) : n ≤ ns.foldr max n := by
  induction ns with
  | nil => exact Nat.le_refl n
  | cons m ns ih => exact Nat.le_trans ih (Nat.le_max_right m _)

omit [CustomCheck ε] [Picking ε] in
/-- The budget covers all that a check has to do at the start. -/
theorem workload_le_budget (s : Schema ε) (sc : Scope) (t : Node) :
    env.workload ((env.schemas.entries.map (·.2.height)).foldr max s.height) s sc t [] ≤
      env.budget s sc t := by
  let levels := (env.schemas.entries.map (·.2.height)).foldr max s.height
  have hweight : s.weight ≤ levels + 1 :=
    Nat.le_trans s.weight_le (Nat.succ_le_succ (le_foldr_max s.height _))
  calc env.workload levels s sc t []
      ≤ env.reach sc t * ((env.schemas.size + 1) * (levels + 1))
          + env.schemas.size * (levels + 1) + (levels + 1) := Nat.add_le_add_left hweight _
    _ = (env.reach sc t + 1) * ((env.schemas.size + 1) * (levels + 1)) := by ring
    _ ≤ (env.reach sc t + 1) * ((2 * env.schemas.size + 2) * (2 * levels + 2)) :=
      Nat.mul_le_mul_left _ (Nat.mul_le_mul (by omega) (by omega))
    _ = env.budget s sc t := (Nat.mul_assoc _ _ _).symm

/-- **Every check comes to its end**: where the registry is guarded, the budget is fuel enough, and
so is any greater one. -/
theorem finished_check (hguard : Guarded env.schemas) (s : Schema ε) (sc : Scope) (t : Node)
    (fuel : Nat) (hfuel : env.budget s sc t ≤ fuel) :
    (check env fuel s sc t).log.finished = true := by
  let levels := (env.schemas.entries.map (·.2.height)).foldr max s.height
  have hself : s.height ≤ levels := le_foldr_max s.height _
  have hregistry : ∀ name s, env.schemas.get? name = some s → s.height ≤ levels :=
    fun _ _ hget => height_le_of_get? hget s.height
  exact finished_of_enough hguard hregistry (Nat.le_trans s.one_le_height hself) fuel s sc t []
    (Schema.within_of_height_le hself) (Trail.nil s)
    (Nat.le_trans (workload_le_budget s sc t) hfuel)

/-- Where the registry is guarded, more fuel than the budget comes to the same. -/
theorem check_eq_of_budget_le (hguard : Guarded env.schemas) (s : Schema ε) (sc : Scope) (t : Node)
    {fuel : Nat} (hfuel : env.budget s sc t ≤ fuel) :
    check env fuel s sc t = check env (env.budget s sc t) s sc t := by
  have hfinished := finished_check hguard s sc t _ (Nat.le_refl _)
  apply Check.check_extends env hfuel
  exact hfinished

omit [Picking ε] in
/-- Guards are needed: a name that is registered as itself has no end, whatever the fuel. -/
theorem unfinished_of_loop {name : String} (hget : env.schemas.get? name = some (.named name))
    (fuel : Nat) (sc : Scope) (t : Node) :
    (check env fuel (.named name) sc t).log.finished = false := by
  induction fuel with
  | zero => rfl
  | succ fuel ih =>
    have hstep : Check.step env (check env fuel) (.named name) sc t =
        check env fuel (.named name) sc t := by
      rw [Check.step, Check.checkNamed, hget]
    rw [check_succ, hstep, Outcome.log_after, Log.finished_append, ih]
    rfl

end Check

/-! ### Setups -/

/-- **Checking and describing terminate**, in every scope, on every node and with custom checks that
pick by anything, where each circle of names passes through an object or an array: both come to their
end within the budget, and no fuel beyond the budget makes a difference. -/
theorem check_describe_terminate (u : Setup Picker) (hguard : Guarded u.schemas)
    (s : Schema Picker) (sc : Scope) (t : Node) :
    (u.check s sc t).log.finished = true ∧ (u.describe s sc).log.finished = true ∧
    (∀ fuel, u.budget s sc t ≤ fuel → check u.toEnvironment fuel s sc t = u.check s sc t) ∧
    (∀ fuel, u.budget s sc.aside Check.nowhere ≤ fuel →
      Check.describe (check u.toEnvironment fuel) s sc = u.describe s sc) := by
  have hcheck : (u.check s sc t).log.finished = true :=
    finished_check hguard s sc t _ (Nat.le_refl _)
  have haside : (u.check s sc.aside Check.nowhere).log.finished = true :=
    finished_check hguard s sc.aside Check.nowhere _ (Nat.le_refl _)
  refine ⟨hcheck, ?_, ?_, ?_⟩
  · -- a description is as finished as the check it is made of
    exact haside
  · intro fuel hfuel
    exact check_eq_of_budget_le hguard s sc t hfuel
  · intro fuel hfuel
    have hrun : check u.toEnvironment fuel s sc.aside Check.nowhere =
        u.check s sc.aside Check.nowhere :=
      check_eq_of_budget_le hguard s sc.aside Check.nowhere hfuel
    simp only [Setup.describe, Check.describe, hrun]

/-- A tree of arrays, of which only as many levels are described as parts are: the custom check picks
by the depth of the scope, and goes round through an array. -/
def nestedArrays : Setup Picker where
  schemas := .ofList [("tree", .custom ⟨fun settings sc _ => if sc.Describes settings then 0 else 1⟩
    [.array (.named "tree"), .anything])]
  settings := { expectationDepth := 3 }

theorem guarded_nestedArrays : Guarded nestedArrays.schemas := by
  apply guarded_of_sealed
  -- neither part of the custom check exposes a name
  refine List.forall_mem_singleton.mpr (.of_openParts nofun (List.forall_mem_cons.mpr ⟨?_, ?_⟩))
  · exact Schema.sealed_array _
  · exact List.forall_mem_singleton.mpr (.of_openParts nofun nofun)

/-- An array in an array is checked to its end, and so is the description of its schema. -/
theorem terminate_nestedArrays :
    let s : Schema Picker := .named "tree"
    let t : Node := ⟨⟨0, 4⟩, none, .array [⟨⟨1, 3⟩, none, .array []⟩]⟩
    Guarded nestedArrays.schemas ∧
      (nestedArrays.check s {} t).log.finished = true ∧
      (nestedArrays.describe s {}).log.finished = true ∧
      (∀ fuel, nestedArrays.budget s {} t ≤ fuel →
        check nestedArrays.toEnvironment fuel s {} t = nestedArrays.check s {} t) ∧
      ∀ fuel, nestedArrays.budget s (Scope.aside {}) Check.nowhere ≤ fuel →
        Check.describe (check nestedArrays.toEnvironment fuel) s {} = nestedArrays.describe s {} := by
  intro s t
  have hguard := guarded_nestedArrays
  exact ⟨hguard, check_describe_terminate nestedArrays hguard s {} t⟩

end DocShape
