import Mathlib.Logic.Relation
import DocShape.Proofs.Termination
import DocShape.Proofs.Visit

/-!
# Everything that a check enters

`Visit.Leads` says where the findings of a check come from. A check enters more than that: it has parts
describe themselves, it tries alternatives, and it has alternatives describe themselves that it does not
try. `Visit.Enters` is one step to any of these.

How far a check that has come to its end went aside, and that it has come to its end, is a matter of all
that it has entered, and of nothing else: one step takes the course of what it enters
(`Check.course_step_iff`), and so the deepest scope that a check has recorded is the deepest one that is
entered from its first visit on (`deepest_le_iff`).
-/

namespace DocShape

variable {ε : Type}

section Visits

variable [CustomCheck ε]

/-- Trying alternatives on a node comes to the ones that are left, on the node as the last trial has left
it, all those before having found errors. -/
inductive Environment.ComesTo (env : Environment ε) (sc : Scope) :
    List (Schema ε) → Node → List (Schema ε) → Node → Prop
  | here (alternatives : List (Schema ε)) (t : Node) : ComesTo env sc alternatives t alternatives t
  | next {s : Schema ε} {rest left : List (Schema ε)} {t u : Node} {o : Outcome}
    (hends : env.Ends s sc t o) (herrors : o.log.errors ≠ 0) (h : ComesTo env sc rest o.node left u) :
    ComesTo env sc (s :: rest) t left u

variable [Picking ε]

/-- The visits that a check enters from one visit. -/
inductive Visit.Enters (env : Environment ε) : Visit ε → Visit ε → Prop
  /-- Those that it leads to. -/
  | leads {v w : Visit ε} (h : v.Leads env w) : Enters env v w
  /-- The parts that an object describes. -/
  | part {shape : Shape (Schema ε)} {sc : Scope} {t : Node} {p : Schema ε}
    (hdescribes : sc.Describes env.settings) (hp : p ∈ shape.described) :
    Enters env ⟨.object shape, sc, t⟩ ⟨p, sc.aside, Check.nowhere⟩
  /-- The items that an array describes. -/
  | item {item : Schema ε} {sc : Scope} {t : Node} (hdescribes : sc.Describes env.settings) :
    Enters env ⟨.array item, sc, t⟩ ⟨item, sc.aside, Check.nowhere⟩
  /-- An alternative that is tried, on what the trials before have left. -/
  | trial {alternatives : List (Schema ε)} {sc : Scope} {t : Node} {s : Schema ε}
    {rest : List (Schema ε)} {u : Node} (h : env.ComesTo sc alternatives t (s :: rest) u) :
    Enters env ⟨.union alternatives, sc, t⟩ ⟨s, sc, u⟩
  /-- An alternative that describes itself, because one before it has found no error. -/
  | untried {alternatives : List (Schema ε)} {sc : Scope} {t : Node} {s p : Schema ε}
    {rest : List (Schema ε)} {u : Node} {o : Outcome}
    (h : env.ComesTo sc alternatives t (s :: rest) u) (hends : env.Ends s sc u o)
    (hzero : o.log.errors = 0) (hp : p ∈ rest) :
    Enters env ⟨.union alternatives, sc, t⟩ ⟨p, sc.aside, Check.nowhere⟩

end Visits

namespace Check

/-! ### Alternatives that are tried, and those that are not -/

section Trials

variable [CustomCheck ε] {env : Environment ε} {sc : Scope} {fuel : Nat}

/-- What is left after some trials is some of the alternatives. -/
theorem subset_of_comesTo {alternatives left : List (Schema ε)} {t u : Node}
    (h : env.ComesTo sc alternatives t left u) : left ⊆ alternatives := by
  induction h with
  | here alternatives t => exact List.Subset.refl _
  | next _ _ _ ih => exact List.subset_cons_of_subset _ ih

variable [Picking ε]

/-- Trials leave the content of the node as it is. -/
theorem clear_of_comesTo {alternatives left : List (Schema ε)} {t u : Node}
    (h : env.ComesTo sc alternatives t left u) : u.clear = t.clear := by
  induction h with
  | here alternatives t => rfl
  | next hends _ _ ih =>
    obtain ⟨fuel, rfl, -⟩ := hends
    exact ih.trans (check_keeps env fuel _ sc _)

/-- Behind an alternative that has come to its end with errors, alternatives come to the same. -/
theorem comesTo_cons_iff {s : Schema ε} {rest left : List (Schema ε)} {t u : Node}
    (hfinished : (check env fuel s sc t).log.finished = true)
    (herrors : (check env fuel s sc t).log.errors ≠ 0) :
    env.ComesTo sc (s :: rest) t left u ↔
      (left = s :: rest ∧ u = t) ∨ env.ComesTo sc rest (check env fuel s sc t).node left u := by
  constructor
  · intro h
    cases h with
    | here _ _ => exact Or.inl ⟨rfl, rfl⟩
    | next hends _ h =>
      obtain rfl := hends.unique ⟨fuel, rfl, hfinished⟩
      exact Or.inr h
  · rintro (⟨rfl, rfl⟩ | h)
    · exact .here _ _
    · exact .next ⟨fuel, rfl, hfinished⟩ herrors h

/-- Alternatives behind one that has found no error are not come to. -/
theorem comesTo_cons_of_errors_eq_zero {s : Schema ε} {rest left : List (Schema ε)} {t u : Node}
    (hfinished : (check env fuel s sc t).log.finished = true)
    (hzero : (check env fuel s sc t).log.errors = 0) :
    env.ComesTo sc (s :: rest) t left u ↔ left = s :: rest ∧ u = t := by
  constructor
  · intro h
    cases h with
    | here _ _ => exact ⟨rfl, rfl⟩
    | next hends herrors _ =>
      obtain rfl := hends.unique ⟨fuel, rfl, hfinished⟩
      exact absurd hzero herrors
  · rintro ⟨rfl, rfl⟩
    exact .here _ _

/-- The trials are the runs of the alternatives that are come to, and the alternatives that are not tried
stand behind one that has found no error. -/
theorem forall_mem_trials_iff {alternatives : List (Schema ε)} {t : Node} {Q : Outcome → Prop}
    {P : Schema ε → Prop}
    (hfinished : ∀ o ∈ trials (check env fuel) sc alternatives t, o.log.finished = true) :
    (∀ o ∈ trials (check env fuel) sc alternatives t, Q o) ∧
        (∀ p ∈ alternatives.drop (trials (check env fuel) sc alternatives t).length, P p) ↔
      ∀ s rest u, env.ComesTo sc alternatives t (s :: rest) u →
        Q (check env fuel s sc u) ∧
          ∀ o, env.Ends s sc u o → o.log.errors = 0 → ∀ p ∈ rest, P p := by
  induction alternatives generalizing t with
  | nil =>
    refine iff_of_true ⟨nofun, by simp⟩ fun s rest u h => ?_
    cases subset_of_comesTo h List.mem_cons_self
  | cons s rest ih =>
    rw [trials] at hfinished ⊢
    by_cases hzero : (check env fuel s sc t).log.errors = 0
    · -- nothing behind this alternative is tried
      rw [if_pos hzero] at hfinished ⊢
      have hhead := hfinished _ List.mem_cons_self
      rw [List.forall_mem_singleton, List.length_singleton, List.drop_one, List.tail_cons]
      constructor
      · rintro ⟨hQ, hP⟩ s' rest' u h
        obtain ⟨heq, rfl⟩ := (comesTo_cons_of_errors_eq_zero hhead hzero).mp h
        cases heq
        exact ⟨hQ, fun _ _ _ => hP⟩
      · intro h
        obtain ⟨hQ, hP⟩ := h s rest t (.here _ _)
        exact ⟨hQ, hP _ ⟨fuel, rfl, hhead⟩ hzero⟩
    · rw [if_neg hzero] at hfinished ⊢
      obtain ⟨hhead, hrest⟩ := List.forall_mem_cons.mp hfinished
      rw [List.forall_mem_cons, List.length_cons, List.drop_succ_cons, and_assoc, ih hrest]
      constructor
      · rintro ⟨hQ, hbehind⟩ s' rest' u h
        rcases (comesTo_cons_iff hhead hzero).mp h with ⟨heq, rfl⟩ | h
        · cases heq
          refine ⟨hQ, fun o hends hzero' => ?_⟩
          obtain rfl := hends.unique ⟨fuel, rfl, hhead⟩
          exact absurd hzero' hzero
        · exact hbehind s' rest' u h
      · intro h
        refine ⟨(h s rest t (.here _ _)).1, fun s' rest' u hcomes => ?_⟩
        exact h s' rest' u ((comesTo_cons_iff hhead hzero).mpr (Or.inr hcomes))

end Trials

/-! ### One step -/

section Step

variable [CustomCheck ε] [Picking ε] {Q : Log → Prop} (hQ : Log.Course Q) {env : Environment ε}
  {sc : Scope} {t : Node}

include hQ

omit [CustomCheck ε] [Picking ε] in
/-- What is described of an object takes the course of the parts that are entered. -/
theorem course_describeShape_iff (run : Run ε) (shape : Shape (Schema ε)) :
    Q (describeShape run env.settings sc shape).2 ↔
      ∀ p ∈ shape.described, sc.Describes env.settings → Q (run p sc.aside nowhere).log := by
  rw [joint_describeShape hQ.toJoint]
  constructor
  · intro h p hp hdescribes
    exact (hQ.silenced_iff _).mp (h hdescribes p hp)
  · intro h hdescribes p hp
    exact (hQ.silenced_iff _).mpr (h p hp hdescribes)

/-- Going through the members of an object takes the course of the visits that this leads to. -/
theorem course_checkMembers_iff (run : Run ε) (shape : Shape (Schema ε))
    {members : List (Member Node)} (hmembers : t.members? = some members) :
    Q (checkMembers env run sc t.span members shape).2 ↔
      ∀ w, Visit.Leads env ⟨.object shape, sc, t⟩ w → Q (w.outcome run).log := by
  cases shape with
  | free =>
    refine iff_of_true hQ.empty fun w hleads => ?_
    cases hleads with
    | relay h => cases h
  | fixed keys fields =>
    rw [joint_checkMembers_fixed hQ.toJoint]
    constructor
    · rintro ⟨-, h⟩ w hleads
      cases hleads with
      | relay h' => cases h'
      | property hmembers' hm hkey hmem =>
        cases hmembers.symm.trans hmembers'
        exact h _ hm _ hkey hmem
    · intro h
      refine ⟨hQ.of_idle rfl rfl, fun m hm key hkey hmem => ?_⟩
      exact h _ (.property hmembers hm hkey hmem)
  | keyed keys fields =>
    rw [joint_checkMembers_keyed hQ.toJoint]
    constructor
    · intro h w hleads
      cases hleads with
      | relay h' => cases h'
      | key hmembers' hm hkey =>
        cases hmembers.symm.trans hmembers'
        exact (h _ hm _ hkey).1
      | value hmembers' hm hkey hu =>
        cases hmembers.symm.trans hmembers'
        exact (h _ hm _ hkey).2 _ hu
    · intro h m hm key hkey
      refine ⟨h _ (.key hmembers hm hkey), fun u hu => ?_⟩
      exact h _ (.value hmembers hm hkey hu)

/-- Checking an object takes the course of what it enters. -/
theorem course_checkObject_iff (run : Run ε) (shape : Shape (Schema ε)) :
    Q (checkObject env run shape sc t).log ↔
      ∀ w, Visit.Enters env ⟨.object shape, sc, t⟩ w → Q (w.outcome run).log := by
  have hlog : Q (checkObject env run shape sc t).log ↔
      Q (describeShape run env.settings sc shape).2 ∧
        ∀ w, Visit.Leads env ⟨.object shape, sc, t⟩ w → Q (w.outcome run).log := by
    cases hmembers : t.members? with
    | none =>
      rw [checkObject_of_none hmembers, hQ.append_iff]
      refine and_congr_right' (iff_of_true (hQ.of_idle rfl rfl) fun w hleads => ?_)
      cases hleads with
      | relay h => cases h
      | property h _ _ _ | key h _ _ | value h _ _ _ =>
        rw [hmembers] at h
        cases h
    | some members =>
      rw [checkObject_of_members hmembers, hQ.append_iff, course_checkMembers_iff hQ run shape hmembers]
  rw [hlog, course_describeShape_iff hQ]
  constructor
  · rintro ⟨hdescribed, hled⟩ w henters
    cases henters with
    | leads hleads => exact hled w hleads
    | part hdescribes hp => exact hdescribed _ hp hdescribes
  · intro h
    exact ⟨fun p hp hdescribes => h _ (.part hdescribes hp), fun w hleads => h w (.leads hleads)⟩

/-- Checking an array takes the course of what it enters. -/
theorem course_checkArray_iff (run : Run ε) (item : Schema ε) :
    Q (checkArray env run item sc t).log ↔
      ∀ w, Visit.Enters env ⟨.array item, sc, t⟩ w → Q (w.outcome run).log := by
  have hlog : Q (checkArray env run item sc t).log ↔
      Q (describePart run env.settings item sc).log ∧
        ∀ w, Visit.Leads env ⟨.array item, sc, t⟩ w → Q (w.outcome run).log := by
    cases hitems : t.items? with
    | none =>
      rw [checkArray_of_none hitems, hQ.append_iff]
      refine and_congr_right' (iff_of_true (hQ.of_idle rfl rfl) fun w hleads => ?_)
      cases hleads with
      | relay h => cases h
      | item h _ =>
        rw [hitems] at h
        cases h
    | some items =>
      rw [checkArray_of_items hitems, hQ.append_iff, hQ.join_iff, List.map_map, List.forall_mem_map]
      refine and_congr_right' ⟨fun h w hleads => ?_, fun h u hu => h _ (.item hitems hu)⟩
      cases hleads with
      | relay h' => cases h'
      | item hitems' hu =>
        cases hitems.symm.trans hitems'
        exact h _ hu
  rw [hlog, joint_describePart hQ.toJoint]
  constructor
  · rintro ⟨hdescribed, hled⟩ w henters
    cases henters with
    | leads hleads => exact hled w hleads
    | item hdescribes => exact (hQ.silenced_iff _).mp (hdescribed hdescribes)
  · intro h
    refine ⟨fun hdescribes => ?_, fun w hleads => h w (.leads hleads)⟩
    exact (hQ.silenced_iff _).mpr (h _ (.item hdescribes))

/-- Checking alternatives takes the course of what is entered, if it comes to its end. -/
theorem course_checkUnion_iff {fuel : Nat} {alternatives : List (Schema ε)}
    (hfinished : (checkUnion (check env fuel) alternatives sc t).log.finished = true) :
    Q (checkUnion (check env fuel) alternatives sc t).log ↔
      ∀ w, Visit.Enters env ⟨.union alternatives, sc, t⟩ w →
        Q (w.outcome (check env fuel)).log := by
  have hkeeps := check_keeps env fuel
  rcases checkUnion_cases hkeeps alternatives sc t with
    ⟨rfl, heq⟩ | ⟨index, best, hbest, hindex, -⟩
  · rw [heq]
    refine iff_of_true hQ.empty fun w henters => ?_
    cases henters with
    | leads hleads =>
      cases hleads with
      | relay h => cases h
      | winner hbest _ => cases hbest
    | trial h | untried h _ _ _ => cases subset_of_comesTo h List.mem_cons_self
  · obtain ⟨htried, -⟩ := (finished_chosen_iff hkeeps hbest hindex).mp hfinished
    rw [course_chosen_iff hkeeps hbest hindex hQ, and_left_comm, forall_mem_trials_iff htried]
    constructor
    · rintro ⟨hchosen, hcome⟩ w henters
      cases henters with
      | leads hleads =>
        cases hleads with
        | relay h => cases h
        | winner hbest' hwins =>
          cases hindex.symm.trans ((wins_iff htried).mp hwins)
          cases hbest.symm.trans hbest'
          exact hchosen
      | trial h => exact (hcome _ _ _ h).1
      | untried h hends hzero hp =>
        exact (hQ.silenced_iff _).mp ((hcome _ _ _ h).2 _ hends hzero _ hp)
    · intro h
      refine ⟨h _ (.leads (.winner hbest ((wins_iff htried).mpr hindex))), ?_⟩
      intro s rest u hcomes
      refine ⟨h _ (.trial hcomes), fun o hends hzero p hp => ?_⟩
      exact (hQ.silenced_iff _).mpr (h _ (.untried hcomes hends hzero hp))

/-- **One step** that has come to its end takes the course of what it enters. -/
theorem course_step_iff {fuel : Nat} {s : Schema ε}
    (hfinished : (Check.step env (check env fuel) s sc t).log.finished = true) :
    Q (Check.step env (check env fuel) s sc t).log ↔
      ∀ w, Visit.Enters env ⟨s, sc, t⟩ w → Q (w.outcome (check env fuel)).log := by
  cases way env sc t s with
  | relay hrelay =>
    rw [step_of_relay hrelay, Outcome.log_after, hQ.append_iff]
    constructor
    · rintro ⟨-, h⟩ w henters
      cases henters with
      | leads hleads =>
        cases hleads with
        | relay h' =>
          cases hrelay.symm.trans h'
          exact h
        | property _ _ _ _ | key _ _ _ | value _ _ _ _ | item _ _ | winner _ _ => cases hrelay
      | part _ _ | item _ | trial _ | untried _ _ _ _ => cases hrelay
    · intro h
      exact ⟨course_of_relay hQ hrelay, h _ (.leads (.relay hrelay))⟩
  | alone hs hrelay =>
    rw [step_of_alone hs hrelay]
    refine iff_of_true (course_alone hQ t s) fun w henters => ?_
    cases henters with
    | leads hleads => exact absurd hleads (not_leads_of_alone hs hrelay w)
    | part _ _ | item _ | trial _ | untried _ _ _ _ => exact absurd trivial hs
  | object shape => exact course_checkObject_iff hQ _ shape
  | array item => exact course_checkArray_iff hQ _ item
  | union alternatives => exact course_checkUnion_iff hQ hfinished

end Step

end Check

/-- **How far aside a check goes**: the deepest scope that a check has recorded that has come to its end
is the deepest one that is entered from its first visit on. -/
theorem deepest_le_iff [CustomCheck ε] [Picking ε] (env : Environment ε) (fuel : Nat) (v : Visit ε)
    (hfinished : (v.outcome (check env fuel)).log.finished = true) (depth : Nat) :
    (v.outcome (check env fuel)).log.deepest ≤ depth ↔
      ∀ w, Relation.ReflTransGen (Visit.Enters env) v w → w.scope.depth ≤ depth := by
  induction fuel generalizing v with
  | zero => cases hfinished
  | succ fuel ih =>
    have hstep := Log.finished_right hfinished
    have hentered := (Check.course_step_iff Log.course_finished hstep).mp hstep
    have hdeepest : (v.outcome (check env (fuel + 1))).log.deepest ≤ depth ↔
        v.scope.depth ≤ depth ∧
          ∀ w, v.Enters env w → (w.outcome (check env fuel)).log.deepest ≤ depth :=
      ((Log.course_deepest depth).append_iff _ _).trans
        (and_congr_right' (Check.course_step_iff (Log.course_deepest depth) hstep))
    rw [hdeepest]
    constructor
    · rintro ⟨hself, hrest⟩ w hpath
      rcases hpath.cases_head with rfl | ⟨x, henters, hpath⟩
      · exact hself
      · exact (ih x (hentered x henters)).mp (hrest x henters) w hpath
    · intro h
      refine ⟨h v .refl, fun w henters => (ih w (hentered w henters)).mpr fun x hpath => ?_⟩
      exact h x (.head henters hpath)

end DocShape
