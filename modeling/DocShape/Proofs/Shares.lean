import DocShape.Proofs.BestAlternative
import DocShape.Proofs.Slot

/-!
# What each alternative adds to a union

What a union expects is put together from shares, one for each alternative in order. The trials all
run on one node, and nothing empties its slot in between. So the share of an alternative that was
tried is what it leaves alone on a node with empty slots, unless it loses and passes on what an
alternative before it has left: that is then taken for its own (`shares_of_union`).

Which checks pass on what they find is said without fuel by `Environment.PassesOn`, and it is the
same as with any fuel that is enough (`Check.passesOn_iff`). What is in the slot before a trial comes
from an alternative that leaves something alone, if all in between pass it on
(`Environment.Carries`).
-/

namespace DocShape

/-- Whether an alternative is tried: all before it find errors alone. -/
def Environment.Tries {ε : Type} [CustomCheck ε] (env : Environment ε)
    (alternatives : List (Schema ε)) (sc : Scope) (t : Node) (i : Nat) : Prop :=
  i < alternatives.length ∧
    ∀ j < i, ∃ s o, alternatives[j]? = some s ∧ env.Ends s sc t o ∧ o.log.errors ≠ 0

/-- Whether a check passes on what it finds in the slot of its node. -/
inductive Environment.PassesOn (env : Environment Chooser) : Schema Chooser → Scope → Node → Prop
  /-- A name that nobody has registered does nothing. -/
  | unregistered {name : String} (h : env.schemas.get? name = none) (sc : Scope) (t : Node) :
    PassesOn env (.named name) sc t
  /-- A union of nothing does nothing. -/
  | nothing (sc : Scope) (t : Node) : PassesOn env (.union []) sc t
  /-- A schema that leaves its node to another one does what that one does. -/
  | handed {s c : Schema Chooser} {sc sc' : Scope} {t : Node}
    (h : Check.handsTo? env.schemas sc t s = some (c, sc')) (hc : PassesOn env c sc' t) :
    PassesOn env s sc t
  /-- A union takes up what a losing trial has left, and that is what was there before if it and all
  trials before it pass on. -/
  | loser {alternatives : List (Schema Chooser)} {sc : Scope} {t : Node} {i index : Nat}
    {best : Outcome} (hi : env.Tries alternatives sc t i)
    (hbest : env.Best alternatives sc t index best) (hne : i ≠ index)
    (h : ∀ j ≤ i, ∀ s, alternatives[j]? = some s → PassesOn env s sc t) :
    PassesOn env (.union alternatives) sc t

/-- Whether there is something in the slot when an alternative is tried: one before it leaves
something alone, and all in between pass it on. -/
def Environment.Carries (env : Environment Chooser) (alternatives : List (Schema Chooser))
    (sc : Scope) (t : Node) (j : Nat) : Prop :=
  ∃ i < j, (∃ s o, alternatives[i]? = some s ∧ env.Ends s sc t o ∧ o.node.expected ≠ []) ∧
    ∀ k, i < k → k < j → ∀ s, alternatives[k]? = some s → env.PassesOn s sc t

/-- The share that an alternative has in a union, by its index. -/
structure Environment.Contributes (env : Environment Chooser)
    (alternatives : List (Schema Chooser)) (sc : Scope) (t : Node) (j : Nat) (s : Schema Chooser)
    (share : List Expectation) : Prop where
  /-- An alternative that is tried adds all that it leaves alone, and nothing else unless it loses
  and passes on what is carried to it. -/
  tried (h : env.Tries alternatives sc t j) : ∃ alone, env.Ends s sc t alone ∧
    alone.node.expected.Sublist share ∧
    (share = alone.node.expected ↔ (∃ best, env.Best alternatives sc t j best) ∨
      ¬ env.PassesOn s sc t ∨ ¬ env.Carries alternatives sc t j)
  /-- Any other alternative adds what it says of itself. -/
  untried (h : ¬ env.Tries alternatives sc t j) : ∃ described,
    env.Ends s sc.aside Check.nowhere described ∧ share = described.node.expected

namespace Draft

/-- A list put into open places shows, unless it is empty. -/
theorem fill_eq_fill_nil_iff (w : Draft) (x : List Expectation) :
    fill w x = fill w [] ↔ none ∉ w ∨ x = [] := by
  constructor
  · intro h
    by_cases hopen : none ∈ w
    · right
      have hlength := length_eq_of_fill hopen (congrArg List.length h)
      exact List.eq_nil_of_length_eq_zero hlength
    · exact Or.inl hopen
  · rintro (h | rfl)
    · exact fill_eq_of_closed h _ _
    · rfl

/-- A draft is filled with something if it holds something itself, or it is put into open places. -/
theorem fill_ne_nil_iff (w : Draft) (x : List Expectation) :
    fill w x ≠ [] ↔ fill w [] ≠ [] ∨ none ∈ w ∧ x ≠ [] := by
  by_cases h : none ∈ w ∧ x ≠ []
  · refine iff_of_true ?_ (Or.inr h)
    have hcount : 0 < w.countP (·.isNone) := List.countP_pos_iff.mpr ⟨none, h.1, rfl⟩
    have hpos := Nat.mul_pos hcount (List.length_pos_iff.mpr h.2)
    rw [← List.length_pos_iff, length_fill]
    omega
  · rw [(fill_eq_fill_nil_iff w x).mpr (by tauto), or_iff_left h]

/-- What a draft holds itself stays when something is put into open places. -/
theorem fill_nil_sublist (w : Draft) (x : List Expectation) :
    List.Sublist (fill w []) (fill w x) := by
  induction w with
  | nil => exact List.Sublist.slnil
  | cons e w ih =>
    cases e with
    | none => exact ih.trans (List.sublist_append_right x _)
    | some e => exact ih.cons_cons e

end Draft

namespace Check

/-! ### Which alternatives are tried -/

/-- With fuel enough for all trials, an alternative has been tried if all before it find errors. -/
theorem tries_iff {ε : Type} [CustomCheck ε] [Picking ε] [Steady ε] {env : Environment ε}
    {fuel : Nat} {alternatives : List (Schema ε)} {sc : Scope} {t : Node}
    (htried : ∀ o ∈ trials (check env fuel) sc alternatives t, o.log.finished = true) (i : Nat) :
    env.Tries alternatives sc t i ↔ i < (trials (check env fuel) sc alternatives t).length := by
  have hblind := blind_check env fuel
  constructor
  · rintro ⟨hlt, hbefore⟩
    by_contra hge
    refine Nat.lt_irrefl (trials (check env fuel) sc alternatives t).length ?_
    rw [lt_length_trials_iff hblind]
    refine ⟨by omega, fun j hj s hs => ?_⟩
    obtain ⟨s', o, hs', hends', herrors⟩ := hbefore j (by omega)
    cases hs.symm.trans hs'
    rwa [(ends_of_tried htried hj hs).unique hends']
  · intro hlt
    obtain ⟨hlt', hbefore⟩ := (lt_length_trials_iff hblind sc alternatives t i).mp hlt
    refine ⟨hlt', fun j hj => ?_⟩
    have hget := List.getElem?_eq_getElem (Nat.lt_trans hj hlt')
    exact ⟨_, _, hget, ends_of_tried htried (Nat.lt_trans hj hlt) hget, hbefore j hj _ hget⟩

/-! ### What is passed on -/

section PassesOn

variable {env : Environment Chooser} {s c : Schema Chooser} {sc sc' : Scope} {t : Node}

/-- A node is left to another schema exactly where it is handed on. -/
theorem handsTo?_eq (env : Environment Chooser) (s : Schema Chooser) (sc : Scope) (t : Node) :
    handsTo? env.schemas sc t s = (relay? env sc t s).map fun r => (r.schema, r.scope) := by
  cases s with
  | named name | switch key selector | custom chooser parts =>
    rw [handsTo?, relay?, Option.map_map]
    rfl
  | anything | scalar _ | oneOf _ | matching _ | object _ | array _ | union _ | documented _ _
  | select _ => rfl

/-- A check that leaves its node to another schema comes to its end only if that one does. -/
theorem finished_of_handsTo {fuel : Nat} (h : handsTo? env.schemas sc t s = some (c, sc'))
    (hfinished : (check env (fuel + 1) s sc t).log.finished = true) :
    (check env fuel c sc' t).log.finished = true := by
  rw [handsTo?_eq] at h
  obtain ⟨r, hrelay, hr⟩ := Option.map_eq_some_iff.mp h
  cases hr
  have hstep := Log.finished_right hfinished
  rw [step_of_relay hrelay] at hstep
  exact Log.finished_right hstep

/-- A schema that leaves its node to another one passes on what that one does. -/
theorem passesOn_of_handsTo (h : handsTo? env.schemas sc t s = some (c, sc')) :
    env.PassesOn s sc t ↔ env.PassesOn c sc' t := by
  constructor
  · intro hs
    cases hs with
    | unregistered hget =>
      rw [handsTo?, hget] at h
      cases h
    | nothing | loser _ _ _ _ => cases h
    | handed h' hc =>
      cases h.symm.trans h'
      exact hc
  · exact .handed h

/-- A union passes on as its trials do. -/
theorem passesOn_union {fuel : Nat} {alternatives : List (Schema Chooser)}
    (ih : ∀ s sc t, (check env fuel s sc t).log.finished = true →
      (PassesOn env fuel s sc t ↔ env.PassesOn s sc t))
    (hfinished : (checkUnion (check env fuel) alternatives sc t).log.finished = true) :
    StepPassesOn env (check env fuel) (PassesOn env fuel) (.union alternatives) sc t ↔
      env.PassesOn (.union alternatives) sc t := by
  have hblind := blind_check env fuel
  rcases checkUnion_cases hblind.keeps alternatives sc t with
    ⟨rfl, _⟩ | ⟨index, best, hbest, hindex, _⟩
  · exact iff_of_true (Or.inl rfl) (.nothing sc t)
  obtain ⟨htried, -⟩ := finished_winner hblind hbest hindex hfinished
  have hwinner := best_of_fewest? htried hbest hindex
  have hpasses : ∀ {i}, i < (trials (check env fuel) sc alternatives t).length →
      ((∀ j ≤ i, ∀ s, alternatives[j]? = some s → PassesOn env fuel s sc t) ↔
        ∀ j ≤ i, ∀ s, alternatives[j]? = some s → env.PassesOn s sc t) := by
    intro i hi
    refine forall₂_congr fun j hj => forall₂_congr fun s hs => ih s sc t ?_
    exact finished_of_tried hblind htried (Nat.lt_of_le_of_lt hj hi) hs
  constructor
  · rintro (rfl | ⟨i, hi, hne, h⟩)
    · cases hbest
    · refine .loser ((tries_iff htried i).mpr hi) hwinner ?_ ((hpasses hi).mp h)
      rintro rfl
      exact hne hindex
  · intro h
    cases h with
    | nothing => exact Or.inl rfl
    | handed h _ => cases h
    | @loser _ _ _ i index' _ hi hbest' hne h =>
      have hlt := (tries_iff htried i).mp hi
      obtain ⟨rfl, -⟩ := hbest'.unique hwinner
      refine Or.inr ⟨i, hlt, fun hi' => hne ?_, (hpasses hlt).mpr h⟩
      exact Option.some.inj (hi'.symm.trans hindex)

/-- **With fuel enough** for the check, whether it passes on is the same as without fuel. -/
theorem passesOn_iff (env : Environment Chooser) (fuel : Nat) (s : Schema Chooser) (sc : Scope)
    (t : Node) (hfinished : (check env fuel s sc t).log.finished = true) :
    PassesOn env fuel s sc t ↔ env.PassesOn s sc t := by
  induction fuel generalizing s sc t with
  | zero => cases hfinished
  | succ fuel ih =>
    rw [PassesOn]
    cases hnext : handsTo? env.schemas sc t s with
    | some next =>
      obtain ⟨c, sc'⟩ := next
      rw [passesOn_of_handsTo hnext, ← ih c sc' t (finished_of_handsTo hnext hfinished)]
      unfold StepPassesOn
      rw [hnext]
    | none =>
      cases s with
      | documented _ _ | select _ => cases hnext
      | union alternatives => exact passesOn_union ih (Log.finished_right hfinished)
      | named name =>
        have hget : env.schemas.get? name = none := Option.map_eq_none_iff.mp hnext
        refine iff_of_true ?_ (.unregistered hget sc t)
        unfold StepPassesOn
        rw [hnext]
        trivial
      | anything | scalar _ | oneOf _ | matching _ | object _ | array _ | switch _ _
      | custom _ _ =>
        refine iff_of_false ?_ fun h => ?_
        · unfold StepPassesOn
          rw [hnext]
          exact id
        · cases h with
          | handed h _ => cases hnext.symm.trans h

end PassesOn

/-! ### What is in the slot -/

section Slot

variable {run : Run Chooser} {passes : Prop} {s : Schema Chooser} {sc : Scope} {t v : Node}

/-- There is nothing in an empty slot. -/
theorem expected_of_clear (hblank : t.clear = t) : t.expected = [] := by
  rw [← hblank, Node.expected, Node.expectation_clear]
  rfl

/-- What a run leaves is what it leaves on empty slots, unless it passes on what is there. -/
theorem SlotLawAt.expected_eq_iff (h : SlotLawAt run passes s sc t) (hblank : t.clear = t)
    (hv : v.clear = t.clear) :
    (run s sc v).node.expected = (run s sc t).node.expected ↔ ¬ passes ∨ v.expected = [] := by
  rcases h with ⟨huntouched, hpasses⟩ | ⟨w, hdrafted, hopen⟩
  · rw [huntouched v hv, huntouched t rfl, expected_of_clear hblank,
      or_iff_right (not_not.mpr hpasses)]
  · rw [Node.expected, Node.expected, hdrafted v hv, hdrafted t rfl, expected_of_clear hblank, hopen]
    exact w.fill_eq_fill_nil_iff v.expected

/-- A run leaves something if it does so on empty slots, or it passes on what is there. -/
theorem SlotLawAt.expected_ne_nil_iff (h : SlotLawAt run passes s sc t) (hblank : t.clear = t)
    (hv : v.clear = t.clear) :
    (run s sc v).node.expected ≠ [] ↔
      (run s sc t).node.expected ≠ [] ∨ passes ∧ v.expected ≠ [] := by
  rcases h with ⟨huntouched, hpasses⟩ | ⟨w, hdrafted, hopen⟩
  · rw [huntouched v hv, huntouched t rfl, expected_of_clear hblank, and_iff_right hpasses,
      or_iff_right (not_not.mpr rfl)]
  · rw [Node.expected, Node.expected, hdrafted v hv, hdrafted t rfl, expected_of_clear hblank, hopen]
    exact w.fill_ne_nil_iff v.expected

/-- A run leaves all that it leaves on empty slots. -/
theorem SlotLawAt.sublist (h : SlotLawAt run passes s sc t) (hblank : t.clear = t)
    (hv : v.clear = t.clear) :
    List.Sublist (run s sc t).node.expected (run s sc v).node.expected := by
  rcases h with ⟨huntouched, -⟩ | ⟨w, hdrafted, -⟩
  · rw [huntouched t rfl, expected_of_clear hblank]
    exact List.nil_sublist _
  · rw [Node.expected, Node.expected, hdrafted v hv, hdrafted t rfl, expected_of_clear hblank]
    exact w.fill_nil_sublist v.expected

end Slot

/-- The node that an alternative is tried on: what the trial before it has left. -/
def triedOn (t : Node) (tried : List Outcome) : Nat → Node
  | 0 => t
  | j + 1 => (tried[j]?.map (·.node)).getD t

/-- A trial is a run on what the trial before it has left. -/
theorem getElem?_trials {ε : Type} {run : Run ε} {sc : Scope} {alternatives : List (Schema ε)}
    {t : Node} {j : Nat} {s : Schema ε} (hj : j < (trials run sc alternatives t).length)
    (hs : alternatives[j]? = some s) :
    (trials run sc alternatives t)[j]? =
      some (run s sc (triedOn t (trials run sc alternatives t) j)) := by
  induction alternatives generalizing t j with
  | nil => cases hs
  | cons s' rest ih =>
    rw [trials] at hj ⊢
    by_cases hs' : (run s' sc t).log.errors = 0
    · rw [if_pos hs'] at hj ⊢
      cases Nat.lt_one_iff.mp hj
      cases hs
      rfl
    · rw [if_neg hs'] at hj ⊢
      cases j with
      | zero =>
        cases hs
        rfl
      | succ j =>
        rw [List.getElem?_cons_succ, ih (Nat.lt_of_succ_lt_succ hj) hs]
        cases j with
        | zero => rfl
        | succ j =>
          have hbefore : j < (trials run sc rest (run s' sc t).node).length :=
            Nat.lt_of_succ_lt (Nat.lt_of_succ_lt_succ hj)
          simp only [triedOn, List.getElem?_cons_succ, List.getElem?_eq_getElem hbefore,
            Option.map_some, Option.getD_some]

/-- All trials are run on nodes of the same content. -/
theorem clear_triedOn {ε : Type} {run : Run ε} (hrun : Keeps run) (sc : Scope)
    (alternatives : List (Schema ε)) (t : Node) (j : Nat) :
    (triedOn t (trials run sc alternatives t) j).clear = t.clear := by
  cases j with
  | zero => rfl
  | succ j =>
    rw [triedOn]
    cases h : (trials run sc alternatives t)[j]? with
    | none => rfl
    | some o =>
      obtain ⟨s, -, v, hv, rfl⟩ := mem_trials hrun (List.mem_of_getElem? h)
      exact (hrun s sc v).trans hv

/-- What comes from something before the end of a row comes from the last place, or is passed on
there. -/
theorem exists_lt_succ_iff {P Q : Nat → Prop} {j : Nat} :
    (∃ i < j + 1, P i ∧ ∀ k, i < k → k < j + 1 → Q k) ↔
      P j ∨ Q j ∧ ∃ i < j, P i ∧ ∀ k, i < k → k < j → Q k := by
  constructor
  · rintro ⟨i, hi, hP, hQ⟩
    by_cases hij : i = j
    · exact Or.inl (hij ▸ hP)
    · have hlt : i < j := by omega
      exact Or.inr ⟨hQ j hlt (Nat.lt_succ_self j), i, hlt, hP, fun k hik hkj => hQ k hik (by omega)⟩
  · rintro (hP | ⟨hQj, i, hi, hP, hQ⟩)
    · exact ⟨j, Nat.lt_succ_self j, hP, fun k hjk hkj => by omega⟩
    · refine ⟨i, by omega, hP, fun k hik hkj => ?_⟩
      by_cases hkj' : k = j
      · exact hkj' ▸ hQj
      · exact hQ k hik (by omega)

/-- **What is in the slot before a trial** is not empty if and only if something is carried there. -/
theorem expected_triedOn_ne_nil_iff {env : Environment Chooser} {fuel : Nat}
    {alternatives : List (Schema Chooser)} {sc : Scope} {t : Node} (hblank : t.clear = t)
    (htried : ∀ o ∈ trials (check env fuel) sc alternatives t, o.log.finished = true) {j : Nat}
    (hj : j ≤ (trials (check env fuel) sc alternatives t).length) :
    (triedOn t (trials (check env fuel) sc alternatives t) j).expected ≠ [] ↔
      env.Carries alternatives sc t j := by
  have hblind := blind_check env fuel
  unfold Environment.Carries
  induction j with
  | zero => exact iff_of_false (not_not.mpr (expected_of_clear hblank)) fun ⟨i, hi, _⟩ => by omega
  | succ j ih =>
    have hlt : j < alternatives.length :=
      Nat.lt_of_lt_of_le hj (length_trials_le sc alternatives t)
    have hget := List.getElem?_eq_getElem hlt
    have hfinished := finished_of_tried hblind htried hj hget
    have hbefore := ih (Nat.le_of_succ_le hj)
    rw [exists_lt_succ_iff, triedOn, getElem?_trials hj hget]
    have hlaw := (check_slotLaw env fuel alternatives[j] sc t).expected_ne_nil_iff hblank
      (clear_triedOn hblind.keeps sc alternatives t j)
    rw [passesOn_iff env fuel _ sc t hfinished] at hlaw
    refine hlaw.trans (or_congr ?_ (and_congr ?_ hbefore))
    · constructor
      · intro h
        exact ⟨_, _, hget, ⟨fuel, rfl, hfinished⟩, h⟩
      · rintro ⟨s, o, hs, hends, h⟩
        cases hget.symm.trans hs
        rwa [hends.unique ⟨fuel, rfl, hfinished⟩] at h
    · constructor
      · intro h s hs
        cases hget.symm.trans hs
        exact h
      · intro h
        exact h _ hget

/-! ### The shares -/

section Shares

variable {env : Environment Chooser} {fuel : Nat} {alternatives : List (Schema Chooser)}
  {sc : Scope} {t : Node} {j : Nat} {s : Schema Chooser}

/-- The shares of alternatives in a union, with some fuel: what the trials leave, with what the
winner leaves in place of its trial, and the descriptions of what was not tried. -/
def shares (env : Environment Chooser) (fuel : Nat) (alternatives : List (Schema Chooser))
    (sc : Scope) (t : Node) (index : Nat) (chosen : Outcome) : List (List Expectation) :=
  let tried := trials (check env fuel) sc alternatives t
  (tried.map (·.node.expected)).set index chosen.node.expected ++
    (alternatives.drop tried.length).map fun s =>
      (describe (check env fuel) s sc).expected.getD []

/-- There is one share for each alternative. -/
theorem length_shares (index : Nat) (chosen : Outcome) :
    (shares env fuel alternatives sc t index chosen).length = alternatives.length := by
  have hle : (trials (check env fuel) sc alternatives t).length ≤ alternatives.length :=
    length_trials_le sc alternatives t
  rw [shares, List.length_append, List.length_set, List.length_map, List.length_map,
    List.length_drop]
  omega

variable (htried : ∀ o ∈ trials (check env fuel) sc alternatives t, o.log.finished = true)
  (hs : alternatives[j]? = some s) {index : Nat} {chosen : Outcome}

include htried hs

/-- The winner adds what it leaves alone. -/
theorem contributes_of_winner
    (hindex : fewest? (trials (check env fuel) sc alternatives t) = some j) :
    (shares env fuel alternatives sc t j (check env fuel s sc t))[j]? =
        some (check env fuel s sc t).node.expected ∧
      env.Contributes alternatives sc t j s (check env fuel s sc t).node.expected := by
  have hwinner := best_of_fewest? htried hs hindex
  have hj := lt_length_of_fewest? hindex
  have hends := ends_of_tried htried hj hs
  refine ⟨?_, fun _ => ⟨_, hends, List.Sublist.refl _, iff_of_true rfl (Or.inl ⟨_, hwinner⟩)⟩,
    fun hnot => absurd ((tries_iff htried j).mpr hj) hnot⟩
  have hj' : j < ((trials (check env fuel) sc alternatives t).map (·.node.expected)).length := by
    rwa [List.length_map]
  rw [shares, List.getElem?_append_left (by rwa [List.length_set]), List.getElem?_set_self hj']

/-- A loser adds what its trial leaves: all that it leaves alone, and nothing else unless it passes
on what is carried to it. -/
theorem contributes_of_loser (hblank : t.clear = t)
    (hj : j < (trials (check env fuel) sc alternatives t).length) (hne : j ≠ index)
    {best : Outcome} (hwinner : env.Best alternatives sc t index best) :
    ∃ share, (shares env fuel alternatives sc t index chosen)[j]? = some share ∧
      env.Contributes alternatives sc t j s share := by
  have hblind := blind_check env fuel
  have hfinished := finished_of_tried hblind htried hj hs
  have hclear := clear_triedOn hblind.keeps sc alternatives t j
  have hlaw := check_slotLaw env fuel s sc t
  have hloses : ¬ ∃ best, env.Best alternatives sc t j best := by
    rintro ⟨best', hbest'⟩
    exact hne (hbest'.unique hwinner).1
  refine ⟨_, ?_, fun _ => ⟨_, ⟨fuel, rfl, hfinished⟩, hlaw.sublist hblank hclear, ?_⟩,
    fun hnot => absurd ((tries_iff htried j).mpr hj) hnot⟩
  · rw [shares, List.getElem?_append_left (by rwa [List.length_set, List.length_map]),
      List.getElem?_set_ne hne.symm, List.getElem?_map, getElem?_trials hj hs, Option.map_some]
  · rw [hlaw.expected_eq_iff hblank hclear, passesOn_iff env fuel s sc t hfinished,
      or_iff_right hloses, ← expected_triedOn_ne_nil_iff hblank htried (Nat.le_of_lt hj), not_not]

/-- An alternative that was not tried adds what it says of itself. -/
theorem contributes_of_untried
    (hj : ¬ j < (trials (check env fuel) sc alternatives t).length)
    (hfinished : (describe (check env fuel) s sc).log.finished = true) :
    ∃ share, (shares env fuel alternatives sc t index chosen)[j]? = some share ∧
      env.Contributes alternatives sc t j s share := by
  refine ⟨(describe (check env fuel) s sc).expected.getD [], ?_,
    fun htries => absurd ((tries_iff htried j).mp htries) hj,
    fun _ => ⟨check env fuel s sc.aside nowhere, ⟨fuel, rfl, hfinished⟩, rfl⟩⟩
  have hlength : ((trials (check env fuel) sc alternatives t).map (·.node.expected)).length ≤ j := by
    rw [List.length_map]
    exact Nat.le_of_not_lt hj
  rw [shares, List.getElem?_append_right (by rwa [List.length_set]), List.length_set,
    List.getElem?_map, List.getElem?_drop, List.length_map,
    Nat.add_sub_cancel' (Nat.le_of_not_lt hj), hs, Option.map_some]

end Shares

end Check

/-- **What each alternative adds** to a union on a node with empty slots: the list that is left there
is put together from shares in order. Where no name leads back to itself on one node, the union comes
to its end. -/
theorem shares_of_union (u : Setup Chooser) (alternatives : List (Schema Chooser)) (sc : Scope)
    {t : Node} (hblank : t.clear = t) :
    (∀ o, u.Ends (.union alternatives) sc t o →
      ∃ shares : List (List Expectation), shares.length = alternatives.length ∧
        o.node.expected = shares.flatten ∧
        ∀ j s, alternatives[j]? = some s → ∃ share, shares[j]? = some share ∧
          u.Contributes alternatives sc t j s share) ∧
    (Guarded u.schemas →
      u.Ends (.union alternatives) sc t (u.check (.union alternatives) sc t)) := by
  refine ⟨?_, fun hguard => ⟨_, rfl, finished_check hguard _ sc t _ (Nat.le_refl _)⟩⟩
  intro o h
  obtain ⟨_ | fuel, rfl, hfinished⟩ := h
  · cases hfinished
  have hunion : (Check.checkUnion (check u.toEnvironment fuel) alternatives sc t).log.finished :=
    Log.finished_right hfinished
  have hnode : (check u.toEnvironment (fuel + 1) (.union alternatives) sc t).node =
      (Check.checkUnion (check u.toEnvironment fuel) alternatives sc t).node := rfl
  have hkeeps := Check.check_keeps u.toEnvironment fuel
  rcases Check.checkUnion_cases hkeeps alternatives sc t with
    ⟨rfl, heq⟩ | ⟨index, best, hbest, hindex, heq⟩
  · refine ⟨[], rfl, ?_, fun j s hs => by cases hs⟩
    rw [hnode, heq, Check.expected_of_clear hblank]
    rfl
  obtain ⟨htried, -, huntried⟩ := (Check.finished_chosen_iff hkeeps hbest hindex).mp hunion
  rw [hblank] at heq
  refine ⟨Check.shares u.toEnvironment fuel alternatives sc t index
    (check u.toEnvironment fuel best sc t), Check.length_shares _ _, ?_, fun j s hs => ?_⟩
  · rw [hnode, heq, Check.shares, List.flatten_append, ← List.flatMap_def]
    refine (Check.unionOf_eq _ _ _ _).trans (congrArg _ ?_)
    exact List.flatMap_map _ _ _
  · by_cases hj : j < (Check.trials (check u.toEnvironment fuel) sc alternatives t).length
    · by_cases hne : j = index
      · subst hne
        cases hs.symm.trans hbest
        exact ⟨_, Check.contributes_of_winner htried hs hindex⟩
      · exact Check.contributes_of_loser htried hs hblank hj hne
          (Check.best_of_fewest? htried hbest hindex)
    · refine Check.contributes_of_untried htried hs hj (huntried s ?_)
      refine List.mem_of_getElem? (i := j - (Check.trials (check u.toEnvironment fuel) sc
        alternatives t).length) ?_
      rwa [List.getElem?_drop, Nat.add_sub_cancel' (Nat.le_of_not_lt hj)]

/-- A registry without schemas. -/
def noSchemas : Setup Chooser := {}

/-- A text, a name that nobody has registered, and a number. -/
def textNameOrNumber : List (Schema Chooser) :=
  [.scalar .string, .named "nowhere", .scalar .number]

/-- A boolean with an empty slot. -/
def blankBoolean : Node := ⟨⟨0, 4⟩, none, .boolean true⟩

/-- The text is left in the slot when the name is tried, which passes it on. -/
theorem shares_blankBoolean :
    let o := noSchemas.check (.union textNameOrNumber) {} blankBoolean
    blankBoolean.clear = blankBoolean ∧ Guarded noSchemas.schemas ∧
      noSchemas.Ends (.union textNameOrNumber) {} blankBoolean o ∧
      ∃ shares : List (List Expectation),
        o.node.expected = [.string, .string, .number] ∧ o.node.expected = shares.flatten ∧
        noSchemas.PassesOn (.named "nowhere") {} blankBoolean ∧
        noSchemas.Carries textNameOrNumber {} blankBoolean 1 ∧
        ∃ share, shares[1]? = some share ∧
          noSchemas.Contributes textNameOrNumber {} blankBoolean 1 (.named "nowhere") share := by
  intro o
  have hblank : blankBoolean.clear = blankBoolean := rfl
  have hguard : Guarded noSchemas.schemas := guarded_nil
  obtain ⟨hunion, hends⟩ := shares_of_union noSchemas textNameOrNumber {} hblank
  have ho : noSchemas.Ends (.union textNameOrNumber) {} blankBoolean o := hends hguard
  obtain ⟨shares, -, hflatten, hshares⟩ := hunion o ho
  have hpasses : noSchemas.PassesOn (.named "nowhere") {} blankBoolean := .unregistered rfl _ _
  have hcarries : noSchemas.Carries textNameOrNumber {} blankBoolean 1 :=
    ⟨0, Nat.one_pos, ⟨_, _, rfl, ⟨1, rfl, rfl⟩, List.cons_ne_nil _ _⟩, fun k _ _ => by omega⟩
  exact ⟨hblank, hguard, ho, shares, rfl, hflatten, hpasses, hcarries, hshares 1 _ rfl⟩

/-- Alone the name leaves nothing, but in the union there is a second text. -/
theorem union_unregistered :
    blankBoolean.clear = blankBoolean ∧
      textNameOrNumber.map (fun s => (noSchemas.check s {} blankBoolean).log.errors) = [1, 1, 1] ∧
      textNameOrNumber.map (fun s => (noSchemas.check s {} blankBoolean).node.expectation) =
        [some [.string], none, some [.number]] ∧
      (noSchemas.check (.union textNameOrNumber) {} blankBoolean).node.expectation =
        some [.string, .string, .number] :=
  ⟨rfl, rfl, rfl, rfl⟩

end DocShape
