import Mathlib.Data.List.Forall2
import DocShape.Proofs.Content
import DocShape.Proofs.Relay
import DocShape.Proofs.Winner

/-!
# Checks keep content

Whatever a check does, it changes slots only: kinds, values, spans, keys, members and items stay as
they are (`check_keeps`). The check of one schema inherits this from the checks further inside
(`step_keeps`), so the proof is an induction on the fuel. Custom checks may pick by anything, even by
what is in the slots.

Because trials keep content, the best alternative of a union runs on the node as it was found, with its
slots emptied: what the union finds is what this run finds (`findings_chosen`).
-/

namespace DocShape.Check

variable {ε : Type}

/-- A run that changes slots only. -/
def Keeps (run : Run ε) : Prop :=
  ∀ (s : Schema ε) (sc : Scope) (t : Node), (run s sc t).node.clear = t.clear

/-- One element of a list may be replaced by another one that is related to the same. -/
theorem forall₂_set {α β : Type} {R : α → β → Prop} {as : List α} {bs : List β}
    (h : List.Forall₂ R as bs) {i : Nat} {b : β} (hb : ∀ a, as[i]? = some a → R a b) :
    List.Forall₂ R as (bs.set i b) := by
  induction h generalizing i with
  | nil => exact .nil
  | cons hab hrest ih =>
    cases i with
    | zero => exact .cons (hb _ rfl) hrest
    | succ i => exact .cons hab (ih hb)

/-- Two related lists stay related when two related elements are put in at the same place. -/
theorem forall₂_set_set {α β : Type} {R : α → β → Prop} {as : List α} {bs : List β}
    (h : List.Forall₂ R as bs) (i : Nat) {a : α} {b : β} (hab : R a b) :
    List.Forall₂ R (as.set i a) (bs.set i b) := by
  induction h generalizing i with
  | nil => exact .nil
  | cons hhead hrest ih =>
    cases i with
    | zero => exact .cons hab hrest
    | succ i => exact .cons hhead (ih i)

section Step

variable {run : Run ε} (hrun : Keeps run)

include hrun

/-! ### Objects and arrays -/

/-- Checking a declared member changes slots only. -/
theorem clearMember_checkDeclared (env : Environment ε) (keys : List String)
    (fields : Fields (Schema ε)) (sc : Scope) (m : Member Node) :
    Node.clearMember (checkDeclared env run keys fields sc m).1 = Node.clearMember m := by
  obtain ⟨_ | key, value⟩ := m
  · rfl
  · by_cases h : key.text ∈ keys
    · rw [checkDeclared_of_mem h]
      cases value with
      | none => rfl
      | some u =>
        have hu := hrun (fields.property key.text).schema
          (propertyScope (fields.property key.text) key.text sc) u
        simp only [checkProperty, Node.clearMember, Option.map_some, valueOrNull, Option.getD_some,
          hu]
        rfl
    · rw [checkDeclared_of_not_mem h]

/-- Checking a member whose key has a schema changes slots only. -/
theorem clearMember_checkKeyed (keys : Schema ε) (fields : Fields (Schema ε)) (sc : Scope)
    (m : Member Node) :
    Node.clearMember (checkKeyed run keys fields sc m).1 = Node.clearMember m := by
  obtain ⟨_ | key, _ | u⟩ := m
  · rfl
  · rfl
  · rfl
  · have hu := hrun (fields.property key.text).schema sc u
    simp only [checkKeyed, Node.clearMember, Option.map_some, hu]

/-- Checking the members of an object changes slots only. -/
theorem clearMember_checkMembers (env : Environment ε) (sc : Scope) (span : Span)
    (members : List (Member Node)) (shape : Shape (Schema ε)) :
    (checkMembers env run sc span members shape).1.map Node.clearMember =
      members.map Node.clearMember := by
  cases shape with
  | free => rfl
  | fixed keys fields =>
    simp only [checkMembers, List.map_map]
    exact List.map_congr_left fun m _ => clearMember_checkDeclared hrun env keys fields sc m
  | keyed keys fields =>
    simp only [checkMembers, List.map_map]
    exact List.map_congr_left fun m _ => clearMember_checkKeyed hrun keys fields sc m

theorem clear_checkObject (env : Environment ε) (shape : Shape (Schema ε)) (sc : Scope) (t : Node) :
    (checkObject env run shape sc t).node.clear = t.clear := by
  obtain ⟨span, expectation, body⟩ := t
  cases body with
  | object members =>
    rw [Node.clear_eq, Node.clear_eq]
    exact congrArg (fun ms => Node.mk span none (.object ms))
      (clearMember_checkMembers hrun env sc span members shape)
  | array _ | string _ | number _ | boolean _ | null => exact Node.clear_expecting _ _

theorem clear_checkArray (env : Environment ε) (item : Schema ε) (sc : Scope) (t : Node) :
    (checkArray env run item sc t).node.clear = t.clear := by
  obtain ⟨span, expectation, body⟩ := t
  cases body with
  | array items =>
    rw [Node.clear_eq, Node.clear_eq]
    refine congrArg (fun ts => Node.mk span none (.array ts)) ?_
    rw [List.map_map, List.map_map]
    exact List.map_congr_left fun u _ => hrun item sc u
  | object _ | string _ | number _ | boolean _ | null => exact Node.clear_expecting _ _

/-! ### Alternatives -/

/-- Every trial is a run of one of the alternatives on a node of the same content. -/
theorem mem_trials {sc : Scope} {alternatives : List (Schema ε)} {t : Node} {o : Outcome}
    (h : o ∈ trials run sc alternatives t) :
    ∃ s ∈ alternatives, ∃ v, v.clear = t.clear ∧ o = run s sc v := by
  induction alternatives generalizing t with
  | nil => cases h
  | cons s rest ih =>
    have hhead : ∃ s' ∈ s :: rest, ∃ v, v.clear = t.clear ∧ run s sc t = run s' sc v :=
      ⟨s, List.mem_cons_self, t, rfl, rfl⟩
    rw [trials] at h
    by_cases hs : (run s sc t).log.errors = 0
    · rw [if_pos hs, List.mem_singleton] at h
      rw [h]
      exact hhead
    · rw [if_neg hs, List.mem_cons] at h
      rcases h with rfl | h
      · exact hhead
      · obtain ⟨s', hs', v, hv, ho⟩ := ih h
        exact ⟨s', List.mem_cons_of_mem _ hs', v, hv.trans (hrun s sc t), ho⟩

omit hrun in
/-- What holds of every run that comes to its end holds of trials that do, one for each alternative in
order, as far as they go. -/
theorem forall₂_trials {P : Schema ε → Outcome → Prop} {sc : Scope}
    (hP : ∀ s v, (run s sc v).log.finished = true → P s (run s sc v))
    {alternatives : List (Schema ε)} {t : Node}
    (hfinished : ∀ o ∈ trials run sc alternatives t, o.log.finished = true) :
    List.Forall₂ P (alternatives.take (trials run sc alternatives t).length)
      (trials run sc alternatives t) := by
  induction alternatives generalizing t with
  | nil => exact .nil
  | cons s rest ih =>
    rw [trials] at hfinished ⊢
    by_cases hs : (run s sc t).log.errors = 0
    · rw [if_pos hs] at hfinished ⊢
      exact .cons (hP s t (hfinished _ List.mem_cons_self)) .nil
    · rw [if_neg hs] at hfinished ⊢
      exact .cons (hP s t (hfinished _ List.mem_cons_self))
        (ih fun o ho => hfinished o (List.mem_cons_of_mem _ ho))

/-- All trials leave the content as it is. -/
theorem clear_lastNode (sc : Scope) (alternatives : List (Schema ε)) (t : Node) :
    (lastNode t (trials run sc alternatives t)).clear = t.clear := by
  unfold lastNode
  cases h : (trials run sc alternatives t).getLast? with
  | none => rfl
  | some o =>
    obtain ⟨s, -, v, hv, rfl⟩ := mem_trials hrun (List.mem_of_getLast? h)
    exact (hrun s sc v).trans hv

omit hrun in
/-- No more is tried than there is. -/
theorem length_trials_le (sc : Scope) (alternatives : List (Schema ε)) (t : Node) :
    (trials run sc alternatives t).length ≤ alternatives.length := by
  induction alternatives generalizing t with
  | nil => exact Nat.le_refl 0
  | cons s rest ih =>
    rw [trials]
    by_cases hs : (run s sc t).log.errors = 0
    · rw [if_pos hs]
      exact Nat.succ_le_succ (Nat.zero_le _)
    · rw [if_neg hs]
      exact Nat.succ_le_succ (ih _)

omit hrun in
/-- The union of what is expected hangs on what is expected of each node. -/
theorem unionOf_congr {tried tried' : List Outcome} {chosen chosen' : Outcome}
    (htried : tried.map (·.node.expectation) = tried'.map (·.node.expectation))
    (hchosen : chosen.node.expectation = chosen'.node.expectation) (index : Nat)
    (untried : List Description) :
    unionOf tried index chosen untried = unionOf tried' index chosen' untried := by
  unfold unionOf
  rw [List.map_set, List.map_set, htried, hchosen]

omit hrun in
/-- The first alternative is always tried. -/
theorem head_mem_trials (sc : Scope) (s : Schema ε) (rest : List (Schema ε)) (t : Node) :
    run s sc t ∈ trials run sc (s :: rest) t := by
  rw [trials]
  split <;> exact List.mem_cons_self

/-- **What a union comes to**: nothing without alternatives. Otherwise the best of the alternatives
that were tried runs once more, on the node with its slots emptied, and the slot is then filled with
the union of what is expected. -/
theorem checkUnion_cases (alternatives : List (Schema ε)) (sc : Scope) (t : Node) :
    (alternatives = [] ∧ checkUnion run alternatives sc t = ⟨t, {}⟩) ∨
    ∃ index best, alternatives[index]? = some best ∧
      fewest? (trials run sc alternatives t) = some index ∧
      checkUnion run alternatives sc t =
        let tried := trials run sc alternatives t
        let chosen := run best sc t.clear
        let untried := (alternatives.drop tried.length).map (describe run · sc)
        ⟨chosen.node.expecting (unionOf tried index chosen untried),
          (Log.join (tried.map (·.log))).silenced ++ chosen.log ++
            .join (untried.map (·.log))⟩ := by
  cases alternatives with
  | nil => exact Or.inl ⟨rfl, rfl⟩
  | cons s rest =>
    right
    cases hfewest : fewest? (trials run sc (s :: rest) t) with
    | none =>
      -- some alternative is always tried
      rw [fewest?_eq_none_iff, trials] at hfewest
      split at hfewest <;> cases hfewest
    | some index =>
      have hindex := lt_length_of_fewest? hfewest
      have hlt : index < (s :: rest).length :=
        Nat.lt_of_lt_of_le hindex (length_trials_le sc (s :: rest) t)
      have hget := List.getElem?_eq_getElem hlt
      refine ⟨index, _, hget, rfl, ?_⟩
      simp only [checkUnion, hfewest, hget, clear_lastNode hrun]

section Chosen

variable {alternatives : List (Schema ε)} {sc : Scope} {t : Node} {index : Nat} {best : Schema ε}
  (hbest : alternatives[index]? = some best)
  (hindex : fewest? (trials run sc alternatives t) = some index)

include hbest hindex

/-- A union finds what the best alternative finds on the node with its slots emptied. -/
theorem findings_chosen :
    (checkUnion run alternatives sc t).log.findings = (run best sc t.clear).log.findings := by
  have hdescribed : ∀ ss : List (Schema ε),
      (Log.join ((ss.map (describe run · sc)).map (·.log))).findings = [] := by
    intro ss
    apply Log.findings_join_eq_nil
    simp only [List.map_map, List.forall_mem_map]
    intro s _
    rfl
  simp only [checkUnion, hindex, hbest, clear_lastNode hrun, Log.findings_append,
    Log.findings_silenced, hdescribed, List.nil_append, List.append_nil]

/-- It leaves what the best alternative leaves there, and fills the slot of the node anew. -/
theorem node_chosen :
    (checkUnion run alternatives sc t).node =
      (run best sc t.clear).node.expecting
        (unionOf (trials run sc alternatives t) index (run best sc t.clear)
          ((alternatives.drop (trials run sc alternatives t).length).map (describe run · sc))) := by
  simp only [checkUnion, hindex, hbest, clear_lastNode hrun]

/-- It takes the course of all that is tried, of the best alternative, and of all that is described. -/
theorem course_chosen_iff {Q : Log → Prop} (hQ : Log.Course Q) :
    Q (checkUnion run alternatives sc t).log ↔
      (∀ o ∈ trials run sc alternatives t, Q o.log) ∧ Q (run best sc t.clear).log ∧
      ∀ s ∈ alternatives.drop (trials run sc alternatives t).length, Q (describe run s sc).log := by
  simp only [checkUnion, hindex, hbest, clear_lastNode hrun, hQ.append_iff, hQ.silenced_iff,
    hQ.join_iff, List.forall_mem_map, and_assoc]

/-- It comes to its end if all that is tried does, the best alternative, and all that is described. -/
theorem finished_chosen_iff :
    (checkUnion run alternatives sc t).log.finished = true ↔
      (∀ o ∈ trials run sc alternatives t, o.log.finished = true) ∧
      (run best sc t.clear).log.finished = true ∧
      ∀ s ∈ alternatives.drop (trials run sc alternatives t).length,
        (describe run s sc).log.finished = true :=
  course_chosen_iff hrun hbest hindex Log.course_finished

/-- What a union expects is put together from slots, one for each alternative in order. What holds of
the slots that runs leave when they come to their end holds of these. -/
theorem exists_slots_chosen {S : Schema ε → Option (List Expectation) → Prop}
    (hS : ∀ s sc v, (run s sc v).log.finished = true → S s (run s sc v).node.expectation)
    (hfinished : (checkUnion run alternatives sc t).log.finished = true) :
    ∃ slots, List.Forall₂ S alternatives slots ∧
      (checkUnion run alternatives sc t).node.expectation = some (slots.flatMap (·.getD [])) := by
  obtain ⟨htried, hchosen, huntried⟩ := (finished_chosen_iff hrun hbest hindex).mp hfinished
  have hlast : List.Forall₂ (fun s (o : Outcome) => S s o.node.expectation)
      (alternatives.take (trials run sc alternatives t).length)
      ((trials run sc alternatives t).set index (run best sc t.clear)) := by
    refine forall₂_set (forall₂_trials (fun s v => hS s sc v) htried) fun s hs => ?_
    rw [List.getElem?_take] at hs
    split at hs
    · cases hbest.symm.trans hs
      exact hS best sc _ hchosen
    · cases hs
  have hdescribed : List.Forall₂ (fun s (d : Description) => S s d.expected)
      (alternatives.drop (trials run sc alternatives t).length)
      ((alternatives.drop (trials run sc alternatives t).length).map (describe run · sc)) := by
    rw [List.forall₂_map_right_iff, List.forall₂_same]
    exact fun s hs => hS s sc.aside nowhere (huntried s hs)
  have hslots := List.rel_append (List.forall₂_map_right_iff.mpr hlast)
    (List.forall₂_map_right_iff.mpr hdescribed)
  beta_reduce at hslots
  rw [List.take_append_drop] at hslots
  exact ⟨_, hslots, congrArg Node.expectation (node_chosen hrun hbest hindex)⟩

end Chosen

theorem clear_checkUnion (alternatives : List (Schema ε)) (sc : Scope) (t : Node) :
    (checkUnion run alternatives sc t).node.clear = t.clear := by
  rcases checkUnion_cases hrun alternatives sc t with ⟨_, heq⟩ | ⟨index, best, _, _, heq⟩
  · rw [heq]
  · rw [heq]
    dsimp only
    rw [Node.clear_expecting, hrun, Node.clear_clear]

end Step

/-! ### Every schema -/

theorem clear_alone (t : Node) (s : Schema ε) : (alone t s).node.clear = t.clear := by
  cases s with
  | named name => rfl
  | _ => exact Node.clear_expecting t _

variable [CustomCheck ε] [Picking ε]

/-- One schema keeps content if everything further inside does. -/
theorem step_keeps (env : Environment ε) {run : Run ε} (hrun : Keeps run) :
    Keeps (Check.step env run) := by
  intro s sc t
  cases way env sc t s with
  | relay hrelay =>
    rw [step_of_relay hrelay]
    exact hrun _ _ t
  | alone hs hrelay =>
    rw [step_of_alone hs hrelay]
    exact clear_alone t s
  | object shape => exact clear_checkObject hrun env shape sc t
  | array item => exact clear_checkArray hrun env item sc t
  | union alternatives => exact clear_checkUnion hrun alternatives sc t

/-- **Checks keep content**, with any fuel. -/
theorem check_keeps (env : Environment ε) (fuel : Nat) : Keeps (check env fuel) := by
  induction fuel with
  | zero => exact fun _ _ _ => rfl
  | succ fuel ih => exact fun s sc t => step_keeps env ih s sc t

end DocShape.Check
