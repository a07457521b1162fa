import DocShape.Proofs.Alike
import DocShape.Proofs.Keeps
import DocShape.Proofs.Winner

/-!
# Checks read content and write slots

Slots are written by one check and may be found by the next. `blind_check` says that this makes no
difference to what is found: with any fuel a check changes slots only, and its log hangs on the
content of the node alone. The check of one schema inherits both from the checks further inside
(`blind_step`), so the proof is an induction on the fuel.

The trials of alternatives run one after the other on the same node, each on what the one before has
left. Blind trials do not notice (`errorCounts_trials`), so that the winner among the trials is the
first alternative with the fewest errors of all, each taken by itself, and what it leaves is what it
leaves on a node with empty slots (`checkUnion_eq`).
-/

namespace DocShape.Check

variable {ε : Type}

/-- A run that reads the content of its node only, and writes slots only. -/
structure Blind (run : Run ε) : Prop where
  /-- The content stays. -/
  clear_node (s : Schema ε) (sc : Scope) (t : Node) : (run s sc t).node.clear = t.clear
  /-- Slots make no difference to the log. -/
  log_clear (s : Schema ε) (sc : Scope) (t : Node) : (run s sc t.clear).log = (run s sc t).log

theorem Blind.keeps {run : Run ε} (hrun : Blind run) : Keeps run := hrun.clear_node

/-- Nodes of the same content have the same log. -/
theorem Blind.log_congr {run : Run ε} (hrun : Blind run) (s : Schema ε) (sc : Scope) {t u : Node}
    (h : t.clear = u.clear) : (run s sc t).log = (run s sc u).log := by
  rw [← hrun.log_clear s sc t, h, hrun.log_clear]

/-! ### Objects and arrays -/

theorem valueOrNull_clear (key : Key) (m : Member Node) :
    valueOrNull key.clear (Node.clearMember m) = (valueOrNull key m).clear := by
  obtain ⟨_, value⟩ := m
  cases value <;> rfl

section Container

variable {run : Run ε} (hrun : Blind run)

include hrun

/-- The log of a declared member hangs on its content. -/
theorem checkDeclared_clearMember (env : Environment ε) (keys : List String)
    (fields : Fields (Schema ε)) (sc : Scope) (m : Member Node) :
    (checkDeclared env run keys fields sc (Node.clearMember m)).2 =
      (checkDeclared env run keys fields sc m).2 := by
  obtain ⟨_ | key, value⟩ := m
  · rfl
  · by_cases h : key.text ∈ keys
    · have h' : key.clear.text ∈ keys := h
      have hvalue : (valueOrNull key.clear (Node.clearMember ⟨some key, value⟩)).clear =
          (valueOrNull key ⟨some key, value⟩).clear := by
        rw [valueOrNull_clear, Node.clear_clear]
      rw [checkDeclared_of_mem h, Node.clearMember, Option.map_some, checkDeclared_of_mem h']
      exact congrArg (fun log => _ ++ log) (hrun.log_congr _ _ hvalue)
    · have h' : key.clear.text ∉ keys := h
      rw [checkDeclared_of_not_mem h, Node.clearMember, Option.map_some,
        checkDeclared_of_not_mem h']
      rfl

/-- The log of a member whose key has a schema hangs on its content. -/
theorem checkKeyed_clearMember (keys : Schema ε) (fields : Fields (Schema ε)) (sc : Scope)
    (m : Member Node) :
    (checkKeyed run keys fields sc (Node.clearMember m)).2 =
      (checkKeyed run keys fields sc m).2 := by
  obtain ⟨key, value⟩ := m
  cases key with
  | none => rfl
  | some key =>
    cases value with
    | none => rfl
    | some u =>
      simp only [checkKeyed, Node.clearMember, Option.map_some, Key.toNode_clear, Key.text_clear,
        hrun.log_clear]

/-- The log of the members of an object hangs on their content. -/
theorem checkMembers_clearMember (env : Environment ε) (sc : Scope) (span : Span)
    (members : List (Member Node)) (shape : Shape (Schema ε)) :
    (checkMembers env run sc span (members.map Node.clearMember) shape).2 =
      (checkMembers env run sc span members shape).2 := by
  cases shape with
  | free => rfl
  | fixed keys fields =>
    simp only [checkMembers, List.map_map, missingLog, Node.keys_clearMember]
    exact congrArg (fun logs => _ ++ Log.join logs) (List.map_congr_left fun m _ =>
      checkDeclared_clearMember hrun env keys fields sc m)
  | keyed keys fields =>
    simp only [checkMembers, List.map_map]
    exact congrArg Log.join (List.map_congr_left fun m _ =>
      checkKeyed_clearMember hrun keys fields sc m)

theorem checkObject_clear (env : Environment ε) (shape : Shape (Schema ε)) (sc : Scope) (t : Node) :
    (checkObject env run shape sc t.clear).log = (checkObject env run shape sc t).log := by
  obtain ⟨span, expectation, body⟩ := t
  rw [Node.clear_eq]
  cases body with
  | object members =>
    exact congrArg (fun log => _ ++ log) (checkMembers_clearMember hrun env sc span members shape)
  | array _ | string _ | number _ | boolean _ | null => rfl

theorem checkArray_clear (env : Environment ε) (item : Schema ε) (sc : Scope) (t : Node) :
    (checkArray env run item sc t.clear).log = (checkArray env run item sc t).log := by
  obtain ⟨span, expectation, body⟩ := t
  rw [Node.clear_eq]
  cases body with
  | array items =>
    simp only [checkArray, Body.clear, List.map_map]
    exact congrArg (fun logs => _ ++ Log.join logs) (List.map_congr_left fun u _ =>
      hrun.log_clear item sc u)
  | object _ | string _ | number _ | boolean _ | null => rfl

end Container

/-! ### Alternatives -/

section Union

variable {run : Run ε} (hrun : Blind run)

include hrun

/-- The logs of trials hang on the content. -/
theorem map_log_trials (sc : Scope) (alternatives : List (Schema ε)) {t u : Node}
    (h : t.clear = u.clear) :
    (trials run sc alternatives t).map (·.log) = (trials run sc alternatives u).map (·.log) := by
  induction alternatives generalizing t u with
  | nil => rfl
  | cons s rest ih =>
    have hlog := hrun.log_congr s sc h
    have hnode : (run s sc t).node.clear = (run s sc u).node.clear := by
      rw [hrun.clear_node, hrun.clear_node, h]
    rw [trials, trials, hlog]
    by_cases hs : (run s sc u).log.errors = 0
    · rw [if_pos hs, if_pos hs, List.map_singleton, List.map_singleton, hlog]
    · rw [if_neg hs, if_neg hs, List.map_cons, List.map_cons, hlog, ih hnode]

/-- Trials of nodes of the same content end with the same alternative. -/
theorem length_trials_congr (sc : Scope) (alternatives : List (Schema ε)) {t u : Node}
    (h : t.clear = u.clear) :
    (trials run sc alternatives t).length = (trials run sc alternatives u).length := by
  simpa using congrArg List.length (map_log_trials hrun sc alternatives h)

/-- Trials of nodes of the same content have the same winner. -/
theorem fewest?_trials_congr (sc : Scope) (alternatives : List (Schema ε)) {t u : Node}
    (h : t.clear = u.clear) :
    fewest? (trials run sc alternatives t) = fewest? (trials run sc alternatives u) := by
  have hlogs := congrArg (List.map Log.errors) (map_log_trials hrun sc alternatives h)
  rw [List.map_map, List.map_map] at hlogs
  exact fewest?_congr hlogs

/-- Trials find what each alternative finds by itself, as far as they go. -/
theorem log_trials_eq (sc : Scope) (alternatives : List (Schema ε)) (t : Node) :
    (trials run sc alternatives t).map (·.log) =
      (alternatives.take (trials run sc alternatives t).length).map fun s => (run s sc t).log := by
  induction alternatives generalizing t with
  | nil => rfl
  | cons s rest ih =>
    rw [trials]
    by_cases hs : (run s sc t).log.errors = 0
    · rw [if_pos hs]
      rfl
    · rw [if_neg hs, List.map_cons, ih, List.length_cons, List.take_succ_cons, List.map_cons]
      refine congrArg _ (List.map_congr_left fun s' _ => ?_)
      exact hrun.log_congr s' sc (hrun.clear_node s sc t)

/-- Where all trials come to their end, so does a check against each tried alternative alone. -/
theorem finished_of_tried {sc : Scope} {alternatives : List (Schema ε)} {t : Node}
    (htried : ∀ o ∈ trials run sc alternatives t, o.log.finished = true) {i : Nat} {s : Schema ε}
    (hi : i < (trials run sc alternatives t).length) (hs : alternatives[i]? = some s) :
    (run s sc t).log.finished = true := by
  have hmem : (run s sc t).log ∈ (trials run sc alternatives t).map (·.log) := by
    rw [log_trials_eq hrun]
    refine List.mem_map_of_mem (f := fun s => (run s sc t).log) ?_
    exact List.mem_of_getElem? ((List.getElem?_take_of_lt hi).trans hs)
  obtain ⟨o, ho, hlog⟩ := List.mem_map.mp hmem
  exact hlog ▸ htried o ho

/-- An alternative is tried if every one before it has errors alone. -/
theorem lt_length_trials_iff (sc : Scope) (alternatives : List (Schema ε)) (t : Node) (i : Nat) :
    i < (trials run sc alternatives t).length ↔ i < alternatives.length ∧
      ∀ j < i, ∀ s, alternatives[j]? = some s → (run s sc t).log.errors ≠ 0 := by
  induction alternatives generalizing t i with
  | nil => exact iff_of_false (Nat.not_lt_zero i) fun h => Nat.not_lt_zero i h.1
  | cons s rest ih =>
    have hlog : ∀ s', (run s' sc (run s sc t).node).log = (run s' sc t).log :=
      fun s' => hrun.log_congr s' sc (hrun.clear_node s sc t)
    rw [trials]
    cases i with
    | zero =>
      refine iff_of_true ?_ ⟨Nat.succ_pos _, fun j hj => absurd hj (Nat.not_lt_zero j)⟩
      split <;> exact Nat.succ_pos _
    | succ i =>
      by_cases hs : (run s sc t).log.errors = 0
      · rw [if_pos hs]
        refine iff_of_false (by simp) fun h => h.2 0 (Nat.succ_pos i) s rfl hs
      · rw [if_neg hs, List.length_cons, List.length_cons, Nat.succ_lt_succ_iff,
          Nat.succ_lt_succ_iff, ih]
        refine and_congr_right fun _ => ⟨fun h j hj => ?_, fun h j hj s' hs' => ?_⟩
        · cases j with
          | zero =>
            intro s' hs'
            cases hs'
            exact hs
          | succ j =>
            intro s' hs'
            rw [← hlog]
            exact h j (Nat.lt_of_succ_lt_succ hj) s' hs'
        · rw [hlog]
          exact h (j + 1) (Nat.succ_lt_succ hj) s' hs'

omit hrun in
/-- Trials go on to the last alternative, or else one finds no error. -/
theorem length_trials_or (sc : Scope) (alternatives : List (Schema ε)) (t : Node) :
    (trials run sc alternatives t).length = alternatives.length ∨
      0 ∈ errorCounts (trials run sc alternatives t) := by
  induction alternatives generalizing t with
  | nil => exact Or.inl rfl
  | cons s rest ih =>
    rw [trials]
    by_cases hs : (run s sc t).log.errors = 0
    · rw [if_pos hs]
      exact Or.inr (by simp [errorCounts, hs])
    · rw [if_neg hs]
      rcases ih (run s sc t).node with h | h
      · exact Or.inl (by rw [List.length_cons, List.length_cons, h])
      · exact Or.inr (List.mem_cons_of_mem _ h)

/-- Trials count the errors of each alternative taken by itself, as far as they go. -/
theorem errorCounts_trials (sc : Scope) (alternatives : List (Schema ε)) (t : Node) :
    alternatives.map (fun s => (run s sc t).log.errors) =
      errorCounts (trials run sc alternatives t) ++
        (alternatives.drop (trials run sc alternatives t).length).map
          fun s => (run s sc t).log.errors := by
  have hcounts := congrArg (List.map Log.errors) (log_trials_eq hrun sc alternatives t)
  rw [List.map_map, List.map_map] at hcounts
  unfold errorCounts
  refine Eq.trans ?_ (congrArg (· ++ _) hcounts.symm)
  exact (congrArg (List.map _) (List.take_append_drop _ alternatives).symm).trans List.map_append

/-- Every alternative has been tried, unless there is one that finds no error. -/
theorem log_mem_trials_or {sc : Scope} {alternatives : List (Schema ε)} {s : Schema ε}
    (hs : s ∈ alternatives) (t : Node) :
    (run s sc t).log ∈ (trials run sc alternatives t).map (·.log) ∨
      0 ∈ alternatives.map fun s => (run s sc t).log.errors := by
  rcases length_trials_or sc alternatives t with hall | hzero
  · left
    rw [log_trials_eq hrun, hall, List.take_length]
    exact List.mem_map_of_mem hs
  · right
    rw [errorCounts_trials hrun]
    exact List.mem_append_left _ hzero

/-- The winner among the trials is the first alternative with the fewest errors of all, each taken by
itself. -/
theorem firstFewest_trials {alternatives : List (Schema ε)} {sc : Scope} {t : Node} {index : Nat}
    (h : fewest? (trials run sc alternatives t) = some index) :
    FirstFewest (alternatives.map fun s => (run s sc t).log.errors) index := by
  rw [errorCounts_trials hrun sc alternatives t]
  refine (firstFewest_of_fewest? h).append ?_
  refine (length_trials_or sc alternatives t).imp (fun hall => ?_) id
  rw [hall, List.drop_length, List.map_nil]

/-- What a union comes to under a blind run: its winner is the first alternative with the fewest
errors, each taken by itself. -/
theorem checkUnion_eq (alternatives : List (Schema ε)) (sc : Scope) (t : Node) :
    (alternatives = [] ∧ checkUnion run alternatives sc t = ⟨t, {}⟩) ∨
    ∃ index best, alternatives[index]? = some best ∧
      FirstFewest (alternatives.map fun s => (run s sc t).log.errors) index ∧
      fewest? (trials run sc alternatives t) = some index ∧
      checkUnion run alternatives sc t =
        let tried := trials run sc alternatives t
        let chosen := run best sc t.clear
        let untried := (alternatives.drop tried.length).map (describe run · sc)
        ⟨chosen.node.expecting (unionOf tried index chosen untried),
          (Log.join (tried.map (·.log))).silenced ++ chosen.log ++
            .join (untried.map (·.log))⟩ := by
  refine (checkUnion_cases hrun.keeps alternatives sc t).imp id ?_
  rintro ⟨index, best, hbest, hindex, heq⟩
  exact ⟨index, best, hbest, firstFewest_trials hrun hindex, hindex, heq⟩

section Winner

variable {alternatives : List (Schema ε)} {sc : Scope} {t : Node} {index : Nat} {best : Schema ε}
  (hbest : alternatives[index]? = some best)
  (hindex : fewest? (trials run sc alternatives t) = some index)

include hbest hindex

/-- A union finds what its winner finds. -/
theorem findings_winner :
    (checkUnion run alternatives sc t).log.findings = (run best sc t).log.findings := by
  rw [findings_chosen hrun.keeps hbest hindex, hrun.log_clear]

/-- A union leaves what its winner leaves on empty slots, with the slot of the node filled anew. -/
theorem node_winner : ∃ expected, (checkUnion run alternatives sc t).node =
    (run best sc t.clear).node.expecting expected :=
  ⟨_, node_chosen hrun.keeps hbest hindex⟩

/-- A union that comes to its end has come to the end of every trial and of its winner. -/
theorem finished_winner (h : (checkUnion run alternatives sc t).log.finished = true) :
    (∀ o ∈ trials run sc alternatives t, o.log.finished = true) ∧
      (run best sc t).log.finished = true := by
  obtain ⟨htried, hchosen, -⟩ := (finished_chosen_iff hrun.keeps hbest hindex).mp h
  rw [hrun.log_clear] at hchosen
  exact ⟨htried, hchosen⟩

end Winner

theorem checkUnion_clear (alternatives : List (Schema ε)) (sc : Scope) (t : Node) :
    (checkUnion run alternatives sc t.clear).log = (checkUnion run alternatives sc t).log := by
  have hclear : t.clear.clear = t.clear := Node.clear_clear t
  have hlogs := map_log_trials hrun sc alternatives hclear
  have hlength := length_trials_congr hrun sc alternatives hclear
  have hfewest := fewest?_trials_congr hrun sc alternatives hclear
  rcases checkUnion_eq hrun alternatives sc t with ⟨rfl, _⟩ | ⟨i, best, hbest, _, hi, heq⟩
  · rfl
  rcases checkUnion_eq hrun alternatives sc t.clear with ⟨rfl, _⟩ | ⟨j, best', hbest', _, hj, heq'⟩
  · rfl
  -- the winner is the same, and so is the number of those that were tried
  have hij : i = j := by
    rw [hfewest, hi] at hj
    exact Option.some.inj hj
  subst hij
  have hsame : best' = best := Option.some.inj (hbest'.symm.trans hbest)
  rw [heq, heq', hsame]
  dsimp only
  rw [hlogs, hlength, hclear]

end Union

/-! ### Every schema -/

section Steady

variable [CustomCheck ε] [Picking ε] [Steady ε]

/-- One schema is checked blindly if everything further inside is and custom checks are steady. -/
theorem blind_step (env : Environment ε) {run : Run ε} (hrun : Blind run) :
    Blind (Check.step env run) where
  clear_node := step_keeps env hrun.keeps
  log_clear s sc t := by
    have hclear : t.clear.clear = t.clear := Node.clear_clear t
    cases way env sc t s with
    | relay hrelay =>
      have hrelay' := (relay?_eq_of_clear rfl hclear sc s).trans hrelay
      rw [step_of_relay hrelay, step_of_relay hrelay']
      exact congrArg (fun log => _ ++ log) (hrun.log_clear _ _ t)
    | alone hs hrelay =>
      have hrelay' := (relay?_eq_of_clear rfl hclear sc s).trans hrelay
      rw [step_of_alone hs hrelay, step_of_alone hs hrelay']
      exact log_alone_alike (Node.alike_of_clear hclear) s
    | object shape => exact checkObject_clear hrun env shape sc t
    | array item => exact checkArray_clear hrun env item sc t
    | union alternatives => exact checkUnion_clear hrun alternatives sc t

/-- **Checks are blind** where custom checks are steady: with any fuel, a check leaves the content of
its node as it is, and finds what it finds whatever the slots hold. -/
theorem blind_check (env : Environment ε) (fuel : Nat) : Blind (check env fuel) := by
  induction fuel with
  | zero => exact ⟨fun _ _ _ => rfl, fun _ _ _ => rfl⟩
  | succ fuel ih =>
    have hstep := blind_step env ih
    refine ⟨fun s sc t => hstep.clear_node s sc t, fun s sc t => ?_⟩
    rw [check_succ, check_succ]
    exact congrArg (fun log => _ ++ log) (hstep.log_clear s sc t)

end Steady

section Choosing

variable [CustomCheck ε] [Choosing ε]

/-- One schema is checked blindly if everything further inside is and custom checks only choose. -/
theorem step_blind (env : Environment ε) {run : Run ε} (hrun : Blind run) :
    Blind (Check.step env run) :=
  letI := Choosing.picking (ε := ε)
  haveI := Choosing.steady (ε := ε)
  blind_step env hrun

/-- Checks are blind where custom checks only choose. -/
theorem check_blind (env : Environment ε) (fuel : Nat) : Blind (check env fuel) :=
  letI := Choosing.picking (ε := ε)
  haveI := Choosing.steady (ε := ε)
  blind_check env fuel

end Choosing

end DocShape.Check
