import DocShape.Proofs.DepthGuard
import DocShape.Proofs.Labels
import DocShape.Proofs.Shares

/-!
# Alternatives that were not tried

What a union expects has a part for each alternative. One that was tried adds what it leaves alone; one
that was not tried adds what it says of itself, which is what it leaves on a null node one scope aside.
The two need not be the same, because less is described one scope further aside. For alternatives that
are `Plain` this is all: what an alternative adds untried is what it leaves alone, with some fields, keys
and items left out, and it is the same where nothing is described in the first place
(`parts_of_union`).

Two runs are compared, one further aside than the other, and they keep in step as runs under different
expectation depths do (`Check.inStep_furtherAside`). Only nested alternatives need care: they may be
tried on one node and not on the other. Then the null node is the one on which more is tried, because
what finds no error on a null node finds none on any (`Schema.Plain.errors_eq_zero`).
-/

namespace DocShape

variable {ε : Type}

/-- A schema that expects the same of every node. -/
def Schema.Uniform : Schema ε → Prop
  | .anything | .scalar _ | .oneOf _ | .matching _ | .object _ | .array _ => True
  | .union _ | .named _ | .documented _ _ | .switch _ _ | .select _ | .custom _ _ => False

/-- A schema that is uniform, or comes to uniform ones by alternatives, registered names and other
documentation. What stands inside of an object or an array may be anything. -/
inductive Schema.Plain (schemas : Table (Schema ε)) : Schema ε → Prop
  | uniform {s : Schema ε} (h : s.Uniform) : Plain schemas s
  | union {alternatives : List (Schema ε)} (h : ∀ s ∈ alternatives, Plain schemas s) :
    Plain schemas (.union alternatives)
  | named {name : String} {s : Schema ε} (hget : schemas.get? name = some s) (h : Plain schemas s) :
    Plain schemas (.named name)
  | documented {path : String} {s : Schema ε} (h : Plain schemas s) :
    Plain schemas (.documented path s)

/-- The scopes on one path, the first one at least as far aside. -/
structure Scope.FurtherAside (sc sc' : Scope) : Prop where
  path_eq : sc.path = sc'.path
  depth_le : sc'.depth ≤ sc.depth

/-- What an alternative adds to a union of plain ones, by its index. -/
structure Environment.Adds [CustomCheck ε] (env : Environment ε) (alternatives : List (Schema ε))
    (sc : Scope) (t : Node) (j : Nat) (s : Schema ε) (part : List Expectation) : Prop where
  /-- An alternative that is tried adds what it leaves alone on the node with its slots emptied. -/
  tried (h : env.Tries alternatives sc t j) :
    ∃ alone, env.Ends s sc t.clear alone ∧ part = alone.node.expected
  /-- Any other alternative adds what it says of itself. -/
  untried (h : ¬ env.Tries alternatives sc t j) :
    ∃ described, env.Ends s sc.aside Check.nowhere described ∧ part = described.node.expected

/-! ### Which alternatives are tried -/

section Trials

variable [CustomCheck ε] {env : Environment ε} {alternatives : List (Schema ε)} {s : Schema ε}
  {sc : Scope} {t : Node} {o o' : Outcome} {j index : Nat}

/-- An alternative without errors is the best one if it is tried. -/
theorem Environment.Tries.best (h : env.Tries alternatives sc t j)
    (hs : alternatives[j]? = some s) (ho : env.Ends s sc t o) (hzero : o.log.errors = 0) :
    env.Best alternatives sc t j o where
  ends := ⟨s, hs, ho⟩
  lt i hi := by
    obtain ⟨s', o', hs', ho', herrors⟩ := h.2 i hi
    refine ⟨s', o', hs', ho', ?_⟩
    rw [hzero]
    exact Nat.pos_of_ne_zero herrors
  le _ _ := by
    rw [hzero]
    exact Nat.zero_le _

variable [Picking ε]

/-- What is tried and is not the best finds errors. -/
theorem Environment.Tries.errors_ne_zero (h : env.Tries alternatives sc t j)
    (hbest : env.Best alternatives sc t index o') (hne : j ≠ index)
    (hs : alternatives[j]? = some s) (ho : env.Ends s sc t o) : o.log.errors ≠ 0 := by
  intro hzero
  exact hne ((h.best hs ho hzero).unique hbest).1

variable [Steady ε]

/-- A union that comes to its end has come to the end of everything that is tried. -/
theorem Environment.Ends.of_tried (h : env.Ends (.union alternatives) sc t o)
    (hj : env.Tries alternatives sc t j) (hs : alternatives[j]? = some s) :
    ∃ alone, env.Ends s sc t alone := by
  have hne := List.ne_nil_of_mem (List.mem_of_getElem? hs)
  obtain ⟨fuel, index, best, -, -, htried, -⟩ := h.of_union hne
  exact ⟨_, Check.ends_of_tried htried ((Check.tries_iff htried j).mp hj) hs⟩

/-- An alternative is left out only after one that finds no error. -/
theorem Environment.Ends.exists_errors_eq_zero (h : env.Ends (.union alternatives) sc t o)
    (hlt : j < alternatives.length) (hj : ¬ env.Tries alternatives sc t j) :
    ∃ i < j, ∃ s alone, alternatives[i]? = some s ∧ env.Ends s sc t alone ∧
      alone.log.errors = 0 := by
  by_contra hnone
  refine hj ⟨hlt, fun i hi => ?_⟩
  induction i using Nat.strong_induction_on with
  | _ i ih =>
    have hget := List.getElem?_eq_getElem (Nat.lt_trans hi hlt)
    have htries : env.Tries alternatives sc t i :=
      ⟨Nat.lt_trans hi hlt, fun k hk => ih k hk (Nat.lt_trans hk hi)⟩
    obtain ⟨alone, halone⟩ := h.of_tried htries hget
    exact ⟨_, alone, hget, halone, fun hzero => hnone ⟨i, hi, _, alone, hget, halone, hzero⟩⟩

/-- A union finds no error if one of its alternatives finds none wherever it comes to its end. -/
theorem Environment.Ends.errors_eq_zero_of_alternative
    (h : env.Ends (.union alternatives) sc t o) (hs : alternatives[j]? = some s)
    (hzero : ∀ alone, env.Ends s sc t alone → alone.log.errors = 0) : o.log.errors = 0 := by
  have hmem := List.mem_of_getElem? hs
  obtain ⟨index, best, hbest, hfindings⟩ := h.best_of_union (List.ne_nil_of_mem hmem)
  rw [Log.errors, hfindings]
  -- if the alternative was not tried, there is one before it to take its place
  by_cases htries : env.Tries alternatives sc t j
  · obtain ⟨alone, halone⟩ := h.of_tried htries hs
    exact Nat.le_zero.mp (hzero alone halone ▸ hbest.le hmem halone)
  · have hlt := (List.getElem?_eq_some_iff.mp hs).1
    obtain ⟨i, -, s', alone, hs', halone, hnone⟩ := h.exists_errors_eq_zero hlt htries
    exact Nat.le_zero.mp (hnone ▸ hbest.le (List.mem_of_getElem? hs') halone)

end Trials

/-! ### Errors of plain schemas -/

section Errors

variable [CustomCheck ε] [Picking ε] {env : Environment ε} {s : Schema ε} {sc sc' : Scope}
  {t : Node} {o o' : Outcome}

omit [Picking ε] in
/-- A union of nothing leaves its node as it is, and finds nothing. -/
theorem Environment.Ends.of_union_nil (h : env.Ends (.union []) sc t o) :
    o.node = t ∧ o.log.findings = [] := by
  obtain ⟨_ | fuel, rfl, hfinished⟩ := h
  · cases hfinished
  · exact ⟨rfl, rfl⟩

omit [Picking ε] in
/-- A uniform schema finds an error on a null node unless it takes everything. -/
theorem Schema.Uniform.eq_anything (hs : s.Uniform) (h : env.Ends s sc Check.nowhere o)
    (hzero : o.log.errors = 0) : s = .anything := by
  obtain ⟨_ | fuel, rfl, hfinished⟩ := h
  · cases hfinished
  cases s with
  | anything => rfl
  | scalar kind => cases kind <;> cases hzero
  | oneOf pool | matching pattern => cases hzero
  | object shape =>
    change (Check.checkObject env (check env fuel) shape sc Check.nowhere).log.errors = 0 at hzero
    rw [Check.checkObject_of_none rfl, Log.errors_append] at hzero
    cases (Nat.add_eq_zero_iff.mp hzero).2
  | array item =>
    change (Check.checkArray env (check env fuel) item sc Check.nowhere).log.errors = 0 at hzero
    rw [Check.checkArray_of_none rfl, Log.errors_append] at hzero
    cases (Nat.add_eq_zero_iff.mp hzero).2
  | union _ | named _ | documented _ _ | switch _ _ | select _ | custom _ _ => exact hs.elim

/-- **What finds no error on a null node** finds none on any node. -/
theorem Schema.Plain.errors_eq_zero [Steady ε] (hs : s.Plain env.schemas)
    (h : env.Ends s sc Check.nowhere o) (hzero : o.log.errors = 0) (h' : env.Ends s sc' t o') :
    o'.log.errors = 0 := by
  induction hs generalizing sc sc' o o' with
  | uniform hs =>
    obtain rfl := hs.eq_anything h hzero
    obtain ⟨_ | fuel, rfl, hfinished⟩ := h'
    · cases hfinished
    · rfl
  | named hget _ ih =>
    obtain ⟨o₁, h₁, -, hfindings⟩ := h.of_named hget
    obtain ⟨o₂, h₂, -, hfindings'⟩ := h'.of_named hget
    rw [Log.errors, hfindings] at hzero
    rw [Log.errors, hfindings']
    exact ih h₁ hzero h₂
  | documented _ ih =>
    obtain ⟨o₁, h₁, -, hfindings⟩ := h.of_documented
    obtain ⟨o₂, h₂, -, hfindings'⟩ := h'.of_documented
    rw [Log.errors, hfindings] at hzero
    rw [Log.errors, hfindings']
    exact ih h₁ hzero h₂
  | @union alternatives _ ih =>
    by_cases hne : alternatives = []
    · subst hne
      rw [Log.errors, h'.of_union_nil.2]
      rfl
    obtain ⟨index, best, hbest, hfindings⟩ := h.best_of_union hne
    obtain ⟨s, hs, hends⟩ := hbest.ends
    rw [Log.errors, hfindings] at hzero
    exact h'.errors_eq_zero_of_alternative hs fun alone halone =>
      ih s (List.mem_of_getElem? hs) hends hzero halone

end Errors

/-! ### What is passed on -/

section PassesOn

variable {env : Environment Chooser} {s : Schema Chooser} {sc : Scope} {t v : Node} {o : Outcome}

/-- A uniform schema overwrites what is in the slot. -/
theorem Schema.Uniform.not_passesOn (hs : s.Uniform) : ¬ env.PassesOn s sc t := by
  intro hpasses
  cases s with
  | union _ | named _ | documented _ _ | switch _ _ | select _ | custom _ _ => exact hs.elim
  | anything | scalar _ | oneOf _ | matching _ | object _ | array _ =>
    cases hpasses with
    | handed hnext _ => cases hnext

/-- **A plain schema that passes on** what is in the slot finds no error. -/
theorem Schema.Plain.errors_eq_zero_of_passesOn (hs : s.Plain env.schemas)
    (hpasses : env.PassesOn s sc t) (h : env.Ends s sc t o) : o.log.errors = 0 := by
  induction hs generalizing sc o with
  | uniform hs => exact absurd hpasses hs.not_passesOn
  | @named name s hget _ ih =>
    have hnext : Check.handsTo? env.schemas sc t (.named name) = some (s, sc) := by
      rw [Check.handsTo?, hget]
      rfl
    obtain ⟨alone, halone, -, hfindings⟩ := h.of_named hget
    rw [Log.errors, hfindings]
    exact ih ((Check.passesOn_of_handsTo hnext).mp hpasses) halone
  | @documented path s _ ih =>
    obtain ⟨alone, halone, -, hfindings⟩ := h.of_documented
    rw [Log.errors, hfindings]
    exact ih ((Check.passesOn_of_handsTo rfl).mp hpasses) halone
  | @union alternatives _ ih =>
    cases hpasses with
    | handed hnext _ => cases hnext
    | nothing =>
      rw [Log.errors, h.of_union_nil.2]
      rfl
    | @loser _ _ _ i index best hi hbest hne hall =>
      have hs := List.getElem?_eq_getElem hi.1
      obtain ⟨alone, halone⟩ := h.of_tried hi hs
      have hzero := ih _ (List.mem_of_getElem? hs) (hall i (Nat.le_refl i) _ hs) halone
      exact absurd hzero (hi.errors_ne_zero hbest hne hs halone)

/-- Nodes of the same content are left with the same expectations, if there is nothing in the slot or
it is not passed on. -/
theorem Check.SlotLawAt.expected_eq {run : Run Chooser} {passes : Prop}
    (h : SlotLawAt run passes s sc t) (hv : v.clear = t.clear)
    (hslot : v.expected = [] ∨ ¬ passes) :
    (run s sc v).node.expected = (run s sc t.clear).node.expected := by
  have hclear : t.clear.clear = t.clear := Node.clear_clear t
  have hempty : t.clear.expected = [] := expected_of_clear hclear
  rcases h with ⟨huntouched, hpasses⟩ | ⟨w, hdrafted, hopen⟩
  · rw [huntouched v hv, huntouched _ hclear, hempty]
    exact hslot.resolve_right (not_not.mpr hpasses)
  · rw [Node.expected, Node.expected, hdrafted v hv, hdrafted _ hclear, hempty]
    rcases hslot with hv' | hpasses
    · rw [hv']
    · exact Draft.fill_eq_of_closed (fun hmem => hpasses (hopen.mpr hmem)) _ _

/-- A check comes to its end on the same node with its slots emptied, and leaves the same expectations
if there was nothing in the slot or it is not passed on. -/
theorem Environment.Ends.expected_clear (hv : v.clear = t.clear)
    (hslot : v.expected = [] ∨ ¬ env.PassesOn s sc t) (h : env.Ends s sc v o) :
    ∃ alone, env.Ends s sc t.clear alone ∧ o.node.expected = alone.node.expected := by
  obtain ⟨fuel, rfl, hfinished⟩ := h
  have hblind := Check.blind_check env fuel
  have hlog : ∀ u : Node, u.clear = t.clear → (check env fuel s sc u).log.finished = true := by
    intro u hu
    rwa [hblind.log_congr s sc (hu.trans hv.symm)]
  refine ⟨_, ⟨fuel, rfl, hlog _ (Node.clear_clear t)⟩, ?_⟩
  refine (Check.check_slotLaw env fuel s sc t).expected_eq hv ?_
  rwa [Check.passesOn_iff env fuel s sc t (hlog t rfl)]

end PassesOn

/-! ### The parts of a union -/

section Parts

variable {env : Environment Chooser} {alternatives : List (Schema Chooser)} {s : Schema Chooser}
  {sc : Scope} {t : Node} {o : Outcome}

namespace Check

/-- What the alternatives of a union add with some fuel: what each leaves alone, as far as they are
tried, and then what the others say of themselves. -/
def parts (env : Environment Chooser) (fuel : Nat) (alternatives : List (Schema Chooser))
    (sc : Scope) (t : Node) : List (List Expectation) :=
  let tried := (trials (check env fuel) sc alternatives t).length
  ((alternatives.take tried).map fun s => (check env fuel s sc t.clear).node.expected) ++
    (alternatives.drop tried).map fun s => (check env fuel s sc.aside nowhere).node.expected

variable {fuel : Nat}

section Loser

variable {index : Nat} {best : Schema Chooser} (hplain : ∀ s ∈ alternatives, s.Plain env.schemas)
  (htried : ∀ o ∈ trials (check env fuel) sc alternatives t, o.log.finished = true)
  (hbest : alternatives[index]? = some best)
  (hindex : fewest? (trials (check env fuel) sc alternatives t) = some index)

include hplain htried hbest hindex

/-- A trial of a plain alternative that loses leaves what the alternative leaves alone. -/
theorem expected_loser {j : Nat} (hj : j < (trials (check env fuel) sc alternatives t).length)
    (hne : j ≠ index) (hs : alternatives[j]? = some s) :
    (check env fuel s sc (triedOn t (trials (check env fuel) sc alternatives t) j)).node.expected =
      (check env fuel s sc t.clear).node.expected := by
  have hblind := blind_check env fuel
  have halone := ends_of_tried htried hj hs
  have herrors := ((tries_iff htried j).mpr hj).errors_ne_zero
    (best_of_fewest? htried hbest hindex) hne hs halone
  -- if it passed on what it found, it would find no error, and win
  have hkept : ¬ env.PassesOn s sc t := fun hpasses =>
    herrors ((hplain s (List.mem_of_getElem? hs)).errors_eq_zero_of_passesOn hpasses halone)
  refine (check_slotLaw env fuel s sc t).expected_eq (clear_triedOn hblind.keeps sc alternatives t j)
    (Or.inr ?_)
  rwa [passesOn_iff env fuel s sc t (finished_of_tried hblind htried hj hs)]

/-- The last runs of plain alternatives that are tried leave what each leaves alone. -/
theorem expected_trials :
    ((trials (check env fuel) sc alternatives t).map (·.node.expected)).set index
        (check env fuel best sc t.clear).node.expected =
      (alternatives.take (trials (check env fuel) sc alternatives t).length).map
        fun s => (check env fuel s sc t.clear).node.expected := by
  apply List.ext_getElem?
  intro j
  have hle : (trials (check env fuel) sc alternatives t).length ≤ alternatives.length :=
    length_trials_le sc alternatives t
  by_cases hj : j < (trials (check env fuel) sc alternatives t).length
  · have hs := List.getElem?_eq_getElem (Nat.lt_of_lt_of_le hj hle)
    rw [List.getElem?_map, List.getElem?_take_of_lt hj, hs, Option.map_some]
    by_cases hwins : j = index
    · subst hwins
      cases hbest.symm.trans hs
      rw [List.getElem?_set_self (by rwa [List.length_map])]
    · rw [List.getElem?_set_ne (Ne.symm hwins), List.getElem?_map, getElem?_trials hj hs,
        Option.map_some, expected_loser hplain htried hbest hindex hj hwins hs]
  · have hbehind := Nat.le_of_not_lt hj
    rw [List.getElem?_eq_none (by rwa [List.length_set, List.length_map]),
      List.getElem?_eq_none (by rwa [List.length_map, List.length_take_of_le hle])]

/-- **A union of plain alternatives** expects its parts in a row. -/
theorem expectation_checkUnion :
    (checkUnion (check env fuel) alternatives sc t).node.expectation =
      some (parts env fuel alternatives sc t).flatten := by
  rw [node_chosen (check_keeps env fuel) hbest hindex, parts, List.flatten_append,
    ← expected_trials hplain htried hbest hindex, ← List.flatMap_def]
  refine congrArg some ((unionOf_eq _ _ _ _).trans (congrArg _ ?_))
  exact List.flatMap_map _ _ _

end Loser

/-- There is one part for each alternative. -/
theorem length_parts : (parts env fuel alternatives sc t).length = alternatives.length := by
  rw [parts, List.length_append, List.length_map, List.length_map, ← List.length_append,
    List.take_append_drop]

/-- The part of an alternative that is tried. -/
theorem getElem?_parts_of_lt {j : Nat} (hs : alternatives[j]? = some s)
    (hj : j < (trials (check env fuel) sc alternatives t).length) :
    (parts env fuel alternatives sc t)[j]? = some (check env fuel s sc t.clear).node.expected := by
  have hle : (trials (check env fuel) sc alternatives t).length ≤ alternatives.length :=
    length_trials_le sc alternatives t
  rw [parts, List.getElem?_append_left, List.getElem?_map, List.getElem?_take_of_lt hj, hs,
    Option.map_some]
  rwa [List.length_map, List.length_take_of_le hle]

/-- The part of an alternative that is not tried. -/
theorem getElem?_parts_of_le {j : Nat} (hs : alternatives[j]? = some s)
    (hj : (trials (check env fuel) sc alternatives t).length ≤ j) :
    (parts env fuel alternatives sc t)[j]? =
      some (check env fuel s sc.aside nowhere).node.expected := by
  have hle : (trials (check env fuel) sc alternatives t).length ≤ alternatives.length :=
    length_trials_le sc alternatives t
  rw [parts, List.getElem?_append_right, List.length_map, List.length_take_of_le hle,
    List.getElem?_map, List.getElem?_drop, Nat.add_sub_cancel' hj, hs, Option.map_some]
  rwa [List.length_map, List.length_take_of_le hle]

/-- Each part is what the alternative adds, if everything that is tried or described comes to its
end. -/
theorem adds_parts (htried : ∀ o ∈ trials (check env fuel) sc alternatives t, o.log.finished = true)
    (huntried : ∀ s ∈ alternatives.drop (trials (check env fuel) sc alternatives t).length,
      (describe (check env fuel) s sc).log.finished = true)
    {j : Nat} (hs : alternatives[j]? = some s) :
    ∃ part, (parts env fuel alternatives sc t)[j]? = some part ∧
      env.Adds alternatives sc t j s part := by
  have hblind := blind_check env fuel
  by_cases hj : j < (trials (check env fuel) sc alternatives t).length
  · have hfinished := finished_of_tried hblind htried hj hs
    rw [← hblind.log_clear] at hfinished
    exact ⟨_, getElem?_parts_of_lt hs hj, fun _ => ⟨_, ⟨fuel, rfl, hfinished⟩, rfl⟩,
      fun hnot => absurd ((tries_iff htried j).mpr hj) hnot⟩
  · have hle := Nat.le_of_not_lt hj
    have hdrop : (alternatives.drop (trials (check env fuel) sc alternatives t).length)[j -
        (trials (check env fuel) sc alternatives t).length]? = some s := by
      rwa [List.getElem?_drop, Nat.add_sub_cancel' hle]
    exact ⟨_, getElem?_parts_of_le hs hle, fun htries => absurd ((tries_iff htried j).mp htries) hj,
      fun _ => ⟨_, ⟨fuel, rfl, huntried s (List.mem_of_getElem? hdrop)⟩, rfl⟩⟩

end Check

/-- A union of plain alternatives that comes to its end expects one part for each alternative, in
order. -/
theorem Environment.Ends.exists_parts (hne : alternatives ≠ [])
    (hplain : ∀ s ∈ alternatives, s.Plain env.schemas)
    (h : env.Ends (.union alternatives) sc t o) :
    ∃ parts : List (List Expectation), parts.length = alternatives.length ∧
      o.node.expectation = some parts.flatten ∧
      ∀ j s, alternatives[j]? = some s → ∃ part, parts[j]? = some part ∧
        env.Adds alternatives sc t j s part := by
  obtain ⟨fuel, index, best, hbest, hindex, htried, -, huntried, hnode, -⟩ := h.of_union hne
  have hslot := Check.expectation_checkUnion hplain htried hbest hindex
  rw [← hnode] at hslot
  exact ⟨Check.parts env fuel alternatives sc t, Check.length_parts, hslot,
    fun j s hs => Check.adds_parts htried huntried hs⟩

end Parts

/-! ### One scope further aside -/

namespace Scope.FurtherAside

variable {sc sc' : Scope}

theorem aside (h : sc.FurtherAside sc') : sc.aside.FurtherAside sc'.aside :=
  ⟨h.path_eq, Nat.succ_le_succ h.depth_le⟩

theorem withPath (h : sc.FurtherAside sc') (path : String) :
    (sc.withPath path).FurtherAside (sc'.withPath path) :=
  ⟨rfl, h.depth_le⟩

/-- Two scopes on one path are the same if they are as far aside. -/
theorem eq_of_depth_le (h : sc.FurtherAside sc') (hdepth : sc.depth ≤ sc'.depth) : sc = sc' := by
  obtain ⟨path, depth⟩ := sc
  obtain ⟨path', depth'⟩ := sc'
  obtain ⟨rfl, hle⟩ := h
  obtain rfl := Nat.le_antisymm hdepth hle
  rfl

end Scope.FurtherAside

section Aside

variable {env : Environment Chooser} {s : Schema Chooser} {sc sc' : Scope} {w w' : Node}
  {o o' : Outcome}

/-- Of two runs with the same settings, the one that is further aside describes less. -/
theorem Check.inStep_furtherAside (env : Environment Chooser) :
    Check.InStep env env.settings.expectationDepth env.settings.expectationDepth Scope.FurtherAside where
  path_eq h := h.path_eq
  describes h hdescribes := Int.le_trans (Int.ofNat_le.mpr h.depth_le) hdescribes
  aside h := h.aside
  withPath h path := h.withPath path
  index_eq _ _ _ ht chooser := congrArg chooser.index ht

/-- What a uniform schema expects is trimmed further aside, on whichever nodes. -/
theorem Schema.Uniform.trims (hs : s.Uniform) (haside : sc.FurtherAside sc')
    (h : env.Ends s sc w o) (h' : env.Ends s sc' w' o') :
    SlotTrims o.node.expectation o'.node.expectation := by
  obtain ⟨_ | fuel, rfl, hfinished⟩ := h
  · cases hfinished
  obtain ⟨_ | fuel', rfl, hfinished'⟩ := h'
  · cases hfinished'
  have hR := Check.inStep_furtherAside env
  have hrun := Check.check_inStep hR fuel fuel'
  have hstep := Log.finished_right hfinished
  have hstep' := Log.finished_right hfinished'
  rw [check_succ, check_succ, Outcome.node_after, Outcome.node_after]
  cases s with
  | anything | scalar _ | oneOf _ | matching _ => exact .refl _
  | object shape =>
    have hshape := Check.trims_describeShape hR hrun haside (Check.finished_describeShape hstep)
      (Check.finished_describeShape hstep')
    rw [Check.step, Check.step, Check.expectation_checkObject, Check.expectation_checkObject]
    exact .some (.cons hshape .nil)
  | array item =>
    have hpart := Check.kept_describePart hR hrun haside (Check.finished_describeItem hstep)
      (Check.finished_describeItem hstep')
    rw [Check.step, Check.step, Check.expectation_checkArray, Check.expectation_checkArray]
    exact .some (.cons (.parts _ _ _ (.leftOut _) (.leftOut _) hpart) .nil)
  | union _ | named _ | documented _ _ | switch _ _ | select _ | custom _ _ => exact hs.elim

/-- A plain alternative that is tried on any node is tried on a null node. -/
theorem Environment.Ends.tries_of_nowhere {alternatives : List (Schema Chooser)} {j : Nat}
    (hplain : ∀ s ∈ alternatives, s.Plain env.schemas)
    (h : env.Ends (.union alternatives) sc Check.nowhere o) (hj : env.Tries alternatives sc' w j) :
    env.Tries alternatives sc Check.nowhere j := by
  by_contra hnot
  obtain ⟨i, hi, s, alone, hs, halone, hzero⟩ := h.exists_errors_eq_zero hj.1 hnot
  obtain ⟨s', alone', hs', halone', herrors⟩ := hj.2 i hi
  cases hs.symm.trans hs'
  exact herrors ((hplain s (List.mem_of_getElem? hs)).errors_eq_zero halone hzero halone')

/-- A schema that expects of a null node what it expects of any other one, trimmed, if the null node is
checked further aside. If it is checked no further aside, the other one has to be a null node, too. -/
def Schema.TrimsAside (env : Environment Chooser) (s : Schema Chooser) : Prop :=
  ∀ sc sc' w o o', w.clear = w → sc.FurtherAside sc' →
    sc'.depth < sc.depth ∨ w = Check.nowhere → env.Ends s sc Check.nowhere o →
    env.Ends s sc' w o' → SlotTrims o.node.expectation o'.node.expectation

/-- What an alternative adds on a null node is what it adds on any other one, trimmed. It may be tried
on the null node only. -/
theorem Environment.Adds.trims_of_nowhere {alternatives : List (Schema Chooser)} {j : Nat}
    {part part' : List Expectation} (hs : s.TrimsAside env) (hblank : w.clear = w)
    (haside : sc.FurtherAside sc') (hlt : sc'.depth < sc.depth)
    (htries : env.Tries alternatives sc' w j → env.Tries alternatives sc Check.nowhere j)
    (hadds : env.Adds alternatives sc Check.nowhere j s part)
    (hadds' : env.Adds alternatives sc' w j s part') :
    List.Forall₂ Expectation.Trims part part' := by
  have haside' : sc.FurtherAside sc'.aside := ⟨haside.path_eq, hlt⟩
  have hlt' : sc'.aside.depth < sc.aside.depth := Nat.succ_lt_succ hlt
  by_cases hw : env.Tries alternatives sc' w j
  · obtain ⟨alone, halone, rfl⟩ := hadds.tried (htries hw)
    obtain ⟨alone', halone', rfl⟩ := hadds'.tried hw
    rw [hblank] at halone'
    exact (hs _ _ w _ _ hblank haside (Or.inl hlt) halone halone').getD
  -- what was not tried has described itself on a null node, too, one scope further aside
  obtain ⟨described', hdescribed', rfl⟩ := hadds'.untried hw
  by_cases hnowhere : env.Tries alternatives sc Check.nowhere j
  · obtain ⟨alone, halone, rfl⟩ := hadds.tried hnowhere
    exact (hs _ _ _ _ _ rfl haside' (Or.inr rfl) halone hdescribed').getD
  · obtain ⟨described, hdescribed, rfl⟩ := hadds.untried hnowhere
    exact (hs _ _ _ _ _ rfl haside.aside (Or.inl hlt') hdescribed hdescribed').getD

/-- **What a plain schema expects of a null node** is what it expects of any other one, trimmed. -/
theorem Schema.Plain.trimsAside (hs : s.Plain env.schemas) : s.TrimsAside env := by
  induction hs with
  | uniform hs => exact fun _ _ _ _ _ _ haside _ h h' => hs.trims haside h h'
  | named hget _ ih =>
    intro sc sc' w o o' hblank haside hnode h h'
    obtain ⟨o₁, h₁, hsame, -⟩ := h.of_named hget
    obtain ⟨o₂, h₂, hsame', -⟩ := h'.of_named hget
    rw [hsame, hsame']
    exact ih _ _ w _ _ hblank haside hnode h₁ h₂
  | @documented path _ _ ih =>
    intro sc sc' w o o' hblank haside hnode h h'
    obtain ⟨o₁, h₁, hsame, -⟩ := h.of_documented
    obtain ⟨o₂, h₂, hsame', -⟩ := h'.of_documented
    rw [hsame, hsame']
    exact ih _ _ w _ _ hblank (haside.withPath path) hnode h₁ h₂
  | @union alternatives hplain ih =>
    intro sc sc' w o o' hblank haside hnode h h'
    -- in one scope both nodes are null, and otherwise the alternatives have room to step aside
    by_cases hdepth : sc.depth ≤ sc'.depth
    · obtain rfl := haside.eq_of_depth_le hdepth
      obtain rfl := hnode.resolve_left (Nat.lt_irrefl _)
      rw [h.unique h']
      exact .refl _
    by_cases hne : alternatives = []
    · subst hne
      rw [h.of_union_nil.1, h'.of_union_nil.1, ← hblank, Node.expectation_clear]
      exact .none
    obtain ⟨parts, hlength, hslot, hparts⟩ := h.exists_parts hne hplain
    obtain ⟨parts', hlength', hslot', hparts'⟩ := h'.exists_parts hne hplain
    rw [hslot, hslot']
    refine .some (List.rel_flatten (List.forall₂_iff_get.mpr ⟨hlength.trans hlength'.symm, ?_⟩))
    intro j hj hj'
    have hs := List.getElem?_eq_getElem (hlength ▸ hj)
    obtain ⟨part, hpart, hadds⟩ := hparts j _ hs
    obtain ⟨part', hpart', hadds'⟩ := hparts' j _ hs
    obtain ⟨_, rfl⟩ := List.getElem?_eq_some_iff.mp hpart
    obtain ⟨_, rfl⟩ := List.getElem?_eq_some_iff.mp hpart'
    exact hadds.trims_of_nowhere (ih _ (List.mem_of_getElem? hs)) hblank haside
      (Nat.lt_of_not_le hdepth) (h.tries_of_nowhere hplain) hadds'

/-! ### Where nothing is described -/

/-- Nothing is left out of what nests nothing. -/
theorem Expectation.Trims.eq_of_nestsWithin_zero {e e' : Expectation} (h : e.Trims e')
    (hbare : e'.NestsWithin 0) : e = e' := by
  obtain ⟨hfields, hkeys, hitems⟩ := hbare
  cases h with
  | refl => rfl
  | parts kind label pool hfields' hkeys' hitems' =>
    dsimp only at hfields hkeys hitems
    subst hfields hkeys hitems
    cases hfields'
    cases hkeys'
    cases hitems'
    rfl

/-- Where no parts are described, a check on empty slots expects nothing that nests. -/
theorem Environment.Ends.nestsWithin_zero (hnot : ¬ sc.Describes env.settings)
    (hblank : w.clear = w) (h : env.Ends s sc w o) :
    ∀ e ∈ o.node.expected, e.NestsWithin 0 := by
  obtain ⟨fuel, rfl, -⟩ := h
  have hlevels : Check.levels env sc ≤ 0 := by
    unfold Check.levels
    unfold Scope.Describes at hnot
    omega
  exact (Check.check_bounded env fuel s sc w 0 hlevels (hblank ▸ Node.allSlots_clear w)).slot.getD

/-- **What a plain alternative adds** is what it leaves alone, trimmed. Nothing is left out of what is
tried, nor where no parts are described, nor where there are none. -/
theorem Environment.Adds.trims {alternatives : List (Schema Chooser)} {t v : Node} {j : Nat}
    {part : List Expectation} {alone : Outcome} (hs : s.Plain env.schemas)
    (hadds : env.Adds alternatives sc t j s part) (hv : v.clear = t.clear)
    (hslot : v.expected = [] ∨ ¬ env.PassesOn s sc t) (halone : env.Ends s sc v alone) :
    List.Forall₂ Expectation.Trims part alone.node.expected ∧
      (env.Tries alternatives sc t j ∨ ¬ sc.Describes env.settings ∨
        (∀ e ∈ alone.node.expected, e.NestsWithin 0) → part = alone.node.expected) := by
  obtain ⟨cleared, hcleared, hsame⟩ := halone.expected_clear hv hslot
  rw [hsame]
  by_cases htries : env.Tries alternatives sc t j
  · obtain ⟨tried, htried, rfl⟩ := hadds.tried htries
    rw [htried.unique hcleared]
    exact ⟨forall₂_trims_refl _, fun _ => rfl⟩
  · obtain ⟨described, hdescribed, rfl⟩ := hadds.untried htries
    have hblank : t.clear.clear = t.clear := Node.clear_clear t
    have haside : sc.aside.FurtherAside sc := ⟨rfl, Nat.le_succ _⟩
    have htrims := (hs.trimsAside _ _ _ _ _ hblank haside (Or.inl (Nat.lt_succ_self _)) hdescribed
      hcleared).getD
    refine ⟨htrims, fun hexact => ?_⟩
    have hbare := (hexact.resolve_left htries).elim (hcleared.nestsWithin_zero · hblank) id
    have hsame := (forall₂_mem htrims).imp fun _ _ h => h.2.2.eq_of_nestsWithin_zero (hbare _ h.2.1)
    rwa [List.forall₂_eq_eq_eq] at hsame

end Aside

/-- **Untried alternatives** of a union of plain ones. The list that a union leaves on a node has one
part for each alternative, in order, whichever alternative wins. The part of an alternative that is
tried is what it leaves alone on the node with its slots emptied, and the part of any other one is what
it says of itself. Either way it is what the alternative leaves alone on any node of the same content
that has nothing in its slot, or something that is not passed on, with some fields, keys and items left
out. Nothing is left out if the alternative is tried, if no parts are described in the scope, or if the
alternative describes none. Where no name leads back to itself on one node, the union and its
alternatives come to their end. -/
theorem parts_of_union (u : Setup Chooser) {alternatives : List (Schema Chooser)}
    (hne : alternatives ≠ []) (hplain : ∀ s ∈ alternatives, s.Plain u.schemas) (sc : Scope)
    (t : Node) :
    (∀ o, u.Ends (.union alternatives) sc t o → ∃ parts : List (List Expectation),
      parts.length = alternatives.length ∧ o.node.expectation = some parts.flatten ∧
      ∀ j s, alternatives[j]? = some s → ∃ part, parts[j]? = some part ∧
        u.Adds alternatives sc t j s part ∧
        ∀ v alone, v.clear = t.clear → v.expected = [] ∨ ¬ u.PassesOn s sc t →
          u.Ends s sc v alone →
          List.Forall₂ Expectation.Trims part alone.node.expected ∧
          (u.Tries alternatives sc t j ∨ ¬ sc.Describes u.settings ∨
            (∀ e ∈ alone.node.expected, e.NestsWithin 0) → part = alone.node.expected)) ∧
    (Guarded u.schemas →
      u.Ends (.union alternatives) sc t (u.check (.union alternatives) sc t) ∧
      ∀ s ∈ alternatives, ∀ v, u.Ends s sc v (u.check s sc v)) := by
  have hends : Guarded u.schemas → ∀ s v, u.Ends s sc v (u.check s sc v) := fun hguard s v =>
    ⟨_, rfl, finished_check hguard s sc v _ (Nat.le_refl _)⟩
  refine ⟨fun o h => ?_, fun hguard => ⟨hends hguard _ t, fun s _ => hends hguard s⟩⟩
  obtain ⟨parts, hlength, hslot, hparts⟩ := h.exists_parts hne hplain
  refine ⟨parts, hlength, hslot, fun j s hs => ?_⟩
  obtain ⟨part, hpart, hadds⟩ := hparts j s hs
  exact ⟨part, hpart, hadds, fun v alone => hadds.trims (hplain s (List.mem_of_getElem? hs))⟩

/-- Boxes with a lid that has a text, described two levels deep. -/
def boxes : Setup Chooser where
  schemas := ⟨[("box", .record (.ofList
    [("lid", ⟨.record (.ofList [("text", ⟨.scalar .string, none⟩)]), none⟩)]))]⟩
  settings := { expectationDepth := 1 }

/-- A number, a truth value or a box. -/
def numberTruthOrBox : List (Schema Chooser) :=
  [.scalar .number, .scalar .boolean, .named "box"]

/-- A boolean with something left in its slot. -/
def staleBoolean : Node := ⟨⟨0, 4⟩, some [.null], .boolean true⟩

/-- What is expected of a box, by what is expected of its lid. -/
def expectedBox (lid : Expectation) : Expectation :=
  { Expectation.object with fields := some [⟨"lid", some [lid], false, false⟩] }

theorem guarded_boxes : Guarded boxes.schemas :=
  guarded_of_sealed (List.forall_mem_singleton.mpr (Schema.sealed_object _))

theorem plain_numberTruthOrBox : ∀ s ∈ numberTruthOrBox, s.Plain boxes.schemas := by
  have hbox : (Schema.named "box").Plain boxes.schemas := .named rfl (.uniform trivial)
  exact List.forall_mem_cons.mpr ⟨.uniform trivial, List.forall_mem_cons.mpr
    ⟨.uniform trivial, List.forall_mem_singleton.mpr hbox⟩⟩

/-- The truth value wins, and the box is not tried. It is described with its lid, but without the text
of the lid. -/
theorem parts_staleBoolean :
    numberTruthOrBox ≠ [] ∧ (∀ s ∈ numberTruthOrBox, s.Plain boxes.schemas) ∧
    Guarded boxes.schemas ∧ ¬ boxes.PassesOn (.named "box") {} staleBoolean ∧
    ∃ o parts part alone, boxes.Ends (.union numberTruthOrBox) {} staleBoolean o ∧
      o.node.expectation = some (List.flatten parts) ∧ parts[2]? = some part ∧
      boxes.Ends (.named "box") {} staleBoolean alone ∧
      List.Forall₂ Expectation.Trims part alone.node.expected ∧
      part = [expectedBox .object] ∧ alone.node.expected = [expectedBox
        { Expectation.object with fields := some [⟨"text", some [.string], false, false⟩] }] := by
  have hne : numberTruthOrBox ≠ [] := List.cons_ne_nil _ _
  have hkept : ¬ boxes.PassesOn (.named "box") {} staleBoolean := by
    intro hpasses
    rw [Check.passesOn_of_handsTo rfl] at hpasses
    refine Schema.Uniform.not_passesOn ?_ hpasses
    trivial
  obtain ⟨hparts, hends⟩ := parts_of_union boxes hne plain_numberTruthOrBox {} staleBoolean
  have hunion := (hends guarded_boxes).1
  obtain ⟨parts, -, hslot, hall⟩ := hparts _ hunion
  obtain ⟨part, hpart, hadds, htrims⟩ := hall 2 _ rfl
  obtain ⟨alone, halone, hlist⟩ : ∃ alone, boxes.Ends (.named "box") {} staleBoolean alone ∧
      alone.node.expected = [expectedBox
        { Expectation.object with fields := some [⟨"text", some [.string], false, false⟩] }] :=
    ⟨_, ⟨4, rfl, rfl⟩, rfl⟩
  have huntried : ¬ boxes.Tries numberTruthOrBox {} staleBoolean 2 := by
    rintro ⟨-, hbefore⟩
    obtain ⟨s, truth, hs, htruth, herrors⟩ := hbefore 1 (Nat.lt_succ_self 1)
    cases hs
    rw [htruth.unique ⟨1, rfl, rfl⟩] at herrors
    exact herrors rfl
  obtain ⟨described, hdescribed, hsame⟩ := hadds.untried huntried
  rw [hdescribed.unique ⟨4, rfl, rfl⟩] at hsame
  exact ⟨hne, plain_numberTruthOrBox, guarded_boxes, hkept, _, parts, part, alone, hunion, hslot,
    hpart, halone, (htrims staleBoolean alone rfl (Or.inr hkept) halone).1, hsame, hlist⟩

/-- A record that is not tried is described without its fields. It has them alone, and in a union where
it stands before the alternative that wins. -/
theorem union_untriedRecord :
    let truth : Schema Chooser := .scalar .boolean
    let record : Schema Chooser := .record (.ofList [("a", ⟨.scalar .string, none⟩)])
    ∃ o o' o₁ o₂, noSchemas.Ends truth {} blankBoolean o₁ ∧ noSchemas.Ends record {} blankBoolean o₂ ∧
      noSchemas.Ends (.union [truth, record]) {} blankBoolean o ∧
      noSchemas.Ends (.union [record, truth]) {} blankBoolean o' ∧
      o.node.expectation = some [.boolean, .object] ∧
      o.node.expectation ≠ some (o₁.node.expected ++ o₂.node.expected) ∧
      o'.node.expectation = some (o₂.node.expected ++ o₁.node.expected) :=
  ⟨_, _, _, _, ⟨1, rfl, rfl⟩, ⟨2, rfl, rfl⟩, ⟨3, rfl, rfl⟩, ⟨3, rfl, rfl⟩, rfl, nofun, rfl⟩

end DocShape
