import Mathlib.Tactic.Ring
import DocShape.Proofs.Blind

/-!
# What becomes of the slot of a node

Most checks overwrite the slot of the node that they are run on, but not all: a name that nobody has
registered leaves it as it is, and so does a union of nothing. A union then takes what it finds in
the slot after such a trial for what the alternative expects, which is what was there before. So a
check may put the old list into the new one, perhaps more than once.

A `Draft` is a list with open places for the old one. The drafts of a check hang on the content of
the node alone (`check_slotLaw`), and there are open places exactly where the check is said to pass
something on (`PassesOn`). Filling a draft with its own result comes to the same again if and only
if there is no open place, or nothing was added in the first place (`Draft.fill_fill_iff`).
-/

namespace DocShape

/-- A list of expectations with open places for another list. -/
abbrev Draft := List (Option Expectation)

namespace Draft

/-- The list with something put into every open place. -/
def fill (w : Draft) (x : List Expectation) : List Expectation :=
  w.flatMap (·.elim x ([·]))

/-- The draft with another one put into every open place. -/
def subst (w p : Draft) : Draft := w.flatMap (·.elim p fun e => [some e])

/-- A list without open places. -/
def closed (x : List Expectation) : Draft := x.map some

@[simp] theorem fill_nil (x : List Expectation) : fill [] x = [] := rfl

@[simp] theorem fill_cons_none (w : Draft) (x : List Expectation) :
    fill (none :: w) x = x ++ fill w x := rfl

@[simp] theorem fill_cons_some (e : Expectation) (w : Draft) (x : List Expectation) :
    fill (some e :: w) x = e :: fill w x := rfl

theorem fill_append (w p : Draft) (x : List Expectation) :
    fill (w ++ p) x = fill w x ++ fill p x := List.flatMap_append

theorem fill_closed (y x : List Expectation) : fill (closed y) x = y := by
  induction y with
  | nil => rfl
  | cons e y ih =>
    rw [closed, List.map_cons, fill_cons_some]
    exact congrArg _ ih

/-- The open place itself is filled with the list. -/
theorem fill_open (x : List Expectation) : fill [none] x = x := List.append_nil x

/-- Drafts in a row are filled one by one. -/
theorem fill_flatten (ws : List Draft) (x : List Expectation) :
    fill ws.flatten x = (ws.map (·.fill x)).flatten := by
  induction ws with
  | nil => rfl
  | cons w ws ih => rw [List.flatten_cons, fill_append, ih, List.map_cons, List.flatten_cons]

/-- Filling twice is filling with a filled draft. -/
theorem fill_subst (w p : Draft) (x : List Expectation) :
    fill (subst w p) x = fill w (fill p x) := by
  induction w with
  | nil => rfl
  | cons e w ih =>
    have hcons : fill (subst (e :: w) p) x =
        fill (e.elim p fun e => [some e]) x ++ fill (subst w p) x := fill_append _ _ _
    rw [hcons, ih]
    cases e <;> rfl

theorem none_mem_closed (y : List Expectation) : none ∉ closed y := by
  simp [closed]

/-- With one of some drafts put in place of a list, the open places are those of the others. -/
theorem none_mem_flatten_set (ps : List Draft) (i : Nat) (y : List Expectation) :
    none ∈ (ps.set i (closed y)).flatten ↔ ∃ j ≠ i, ∃ q, ps[j]? = some q ∧ none ∈ q := by
  rw [List.mem_flatten]
  constructor
  · rintro ⟨q, hq, hnone⟩
    obtain ⟨j, hj⟩ := List.mem_iff_getElem?.mp hq
    by_cases h : i = j
    · subst h
      have hlt : i < ps.length := by simpa using (List.getElem?_eq_some_iff.mp hj).1
      rw [List.getElem?_set_self hlt] at hj
      cases hj
      exact absurd hnone (none_mem_closed y)
    · rw [List.getElem?_set_ne h] at hj
      exact ⟨j, Ne.symm h, q, hj, hnone⟩
  · rintro ⟨j, hne, q, hj, hnone⟩
    refine ⟨q, List.mem_of_getElem? (i := j) ?_, hnone⟩
    rw [List.getElem?_set_ne hne.symm, hj]

/-- Open places come from open places. -/
theorem none_mem_subst (w p : Draft) : none ∈ subst w p ↔ none ∈ w ∧ none ∈ p := by
  induction w with
  | nil => simp [subst]
  | cons e w ih =>
    have hcons : none ∈ subst (e :: w) p ↔
        none ∈ e.elim p (fun e => [some e]) ∨ none ∈ subst w p := List.mem_append
    rw [hcons, ih]
    cases e <;> simp +contextual

/-- Without open places it makes no difference what is filled in. -/
theorem fill_eq_of_closed {w : Draft} (h : none ∉ w) (x y : List Expectation) :
    fill w x = fill w y := by
  induction w with
  | nil => rfl
  | cons e w ih =>
    rw [List.mem_cons, not_or] at h
    cases e with
    | none => exact absurd rfl h.1
    | some e => rw [fill_cons_some, fill_cons_some, ih h.2]

/-- The length of a filled draft: what stands in it, and the list once for each open place. -/
theorem length_fill (w : Draft) (x : List Expectation) :
    (fill w x).length = w.countP (·.isSome) + w.countP (·.isNone) * x.length := by
  induction w with
  | nil => simp
  | cons e w ih =>
    cases e with
    | none =>
      rw [fill_cons_none, List.length_append, ih, List.countP_cons_of_neg (by simp),
        List.countP_cons_of_pos (by simp)]
      ring
    | some e =>
      rw [fill_cons_some, List.length_cons, ih, List.countP_cons_of_pos (by simp),
        List.countP_cons_of_neg (by simp)]
      ring

/-- With an open place, lists that fill a draft to one length have one length themselves. -/
theorem length_eq_of_fill {w : Draft} (h : none ∈ w) {x y : List Expectation}
    (hfill : (fill w x).length = (fill w y).length) : x.length = y.length := by
  have hcount : 0 < w.countP (·.isNone) := List.countP_pos_iff.mpr ⟨none, h, rfl⟩
  rw [length_fill, length_fill] at hfill
  exact Nat.eq_of_mul_eq_mul_left hcount (Nat.add_left_cancel hfill)

/-- With an open place, lists of one length that are filled in can be told from the result. -/
theorem fill_injective {w : Draft} (h : none ∈ w) {x y : List Expectation}
    (hlength : x.length = y.length) (hfill : fill w x = fill w y) : x = y := by
  induction w with
  | nil => cases h
  | cons e w ih =>
    cases e with
    | none => exact (List.append_inj hfill hlength).1
    | some e =>
      rw [fill_cons_some, fill_cons_some, List.cons.injEq] at hfill
      exact ih (by simpa using h) hfill.2

/-- **Filling a draft with its own result** comes to the same again if and only if there is no open
place, or the result is what was filled in. -/
theorem fill_fill_iff (w : Draft) (x : List Expectation) :
    fill w (fill w x) = fill w x ↔ none ∉ w ∨ fill w x = x := by
  constructor
  · intro h
    by_cases hopen : none ∈ w
    · right
      have hlength : (fill w x).length = x.length :=
        length_eq_of_fill hopen (congrArg List.length h)
      exact fill_injective hopen hlength h
    · exact Or.inl hopen
  · rintro (h | h)
    · exact fill_eq_of_closed h _ _
    · rw [h, h]

end Draft

/-- The list in the slot of a node; an unfilled slot counts as one with nothing in it. -/
def Node.expected (t : Node) : List Expectation := t.expectation.getD []

namespace Check

/-! ### Passing on what is in the slot -/

/-- Where a schema leaves its node to one other schema: that schema, and the scope that it is
checked in. -/
def handsTo? (schemas : Table (Schema Chooser)) (sc : Scope) (t : Node) :
    Schema Chooser → Option (Schema Chooser × Scope)
  | .named name => (schemas.get? name).map (·, sc)
  | .documented path s => some (s, sc.withPath path)
  | .switch key selector =>
    t.members?.map fun _ => ((selector.choose Schema.record t (t.textUnder? key)).1, sc)
  | .select selector => some ((selector.choose Schema.record t none).1, sc)
  | .custom chooser parts => parts[chooser.index t.clear]?.map (·, sc)
  | .anything | .scalar _ | .oneOf _ | .matching _ | .object _ | .array _ | .union _ => none

/-- Whether one schema passes on what is in the slot of its node, given which schemas further inside
do. A name without a schema does, and so does a union of nothing. Any other union does if a trial
that loses, and every one before it, passes on. -/
def StepPassesOn (env : Environment Chooser) (run : Run Chooser)
    (passesOn : Schema Chooser → Scope → Node → Prop) (s : Schema Chooser) (sc : Scope)
    (t : Node) : Prop :=
  match handsTo? env.schemas sc t s, s with
  | some (c, sc'), _ => passesOn c sc' t
  | none, .named _ => True
  | none, .union alternatives =>
    let tried := trials run sc alternatives t
    alternatives = [] ∨ ∃ i < tried.length, fewest? tried ≠ some i ∧
      ∀ j ≤ i, ∀ s, alternatives[j]? = some s → passesOn s sc t
  | none, _ => False

/-- Whether a check with some fuel passes on what it finds in the slot of its node. -/
def PassesOn (env : Environment Chooser) : Nat → Schema Chooser → Scope → Node → Prop
  | 0 => fun _ _ _ => True
  | fuel + 1 => StepPassesOn env (check env fuel) (PassesOn env fuel)

/-- A run that leaves every node of some content as it is. -/
def Untouched (run : Run Chooser) (s : Schema Chooser) (sc : Scope) (t : Node) : Prop :=
  ∀ v, v.clear = t.clear → (run s sc v).node = v

/-- A run that fills a draft with what it finds in the slot, on every node of some content. -/
def Drafted (run : Run Chooser) (w : Draft) (s : Schema Chooser) (sc : Scope) (t : Node) : Prop :=
  ∀ v, v.clear = t.clear →
    (run s sc v).node.expectation = some (w.fill v.expected)

/-- What a run may do to slots: it leaves its node as it is and passes on, or it fills a draft that
has open places if it passes on. -/
def SlotLawAt (run : Run Chooser) (passes : Prop) (s : Schema Chooser) (sc : Scope) (t : Node) :
    Prop :=
  (Untouched run s sc t ∧ passes) ∨ ∃ w, Drafted run w s sc t ∧ (passes ↔ none ∈ w)

/-- A run that does one or the other on every node, where it is told which schemas pass on. -/
def SlotLaw (run : Run Chooser) (passesOn : Schema Chooser → Scope → Node → Prop) : Prop :=
  ∀ s sc t, SlotLawAt run (passesOn s sc t) s sc t

/-! ### Alternatives -/

section Union

variable {run : Run Chooser} {passesOn : Schema Chooser → Scope → Node → Prop}

/-- One more trial on a filled slot fills another draft. -/
theorem SlotLaw.subst (hlaw : SlotLaw run passesOn) (s : Schema Chooser) (sc : Scope) (t : Node)
    (p : Draft) : ∃ q : Draft,
      (∀ v x, v.clear = t.clear → v.expected = p.fill x →
        (run s sc v).node.expected = q.fill x) ∧
      (none ∈ q ↔ none ∈ p ∧ passesOn s sc t) := by
  rcases hlaw s sc t with ⟨huntouched, hpasses⟩ | ⟨w, hdrafted, hpasses⟩
  · refine ⟨p, fun v x hv hx => ?_, (and_iff_left hpasses).symm⟩
    rw [huntouched v hv, hx]
  · refine ⟨w.subst p, fun v x hv hx => ?_, ?_⟩
    · have hfilled := hdrafted v hv
      rw [Draft.fill_subst, ← hx, Node.expected, hfilled]
      rfl
    · rw [Draft.none_mem_subst, hpasses]
      exact And.comm

/-- What holds of the first elements of a list holds of its head, if only that is asked. -/
theorem forall_getElem?_cons_zero {α : Type} {P : α → Prop} (a : α) (as : List α) :
    (∀ j ≤ 0, ∀ b, (a :: as)[j]? = some b → P b) ↔ P a := by
  constructor
  · intro h
    exact h 0 (Nat.le_refl 0) a rfl
  · intro h j hj b hb
    rw [Nat.le_zero.mp hj] at hb
    cases hb
    exact h

/-- What holds of the first elements of a list holds of its head and of the first of the rest. -/
theorem forall_getElem?_cons_succ {α : Type} {P : α → Prop} (a : α) (as : List α) (i : Nat) :
    (∀ j ≤ i + 1, ∀ b, (a :: as)[j]? = some b → P b) ↔
      P a ∧ ∀ j ≤ i, ∀ b, as[j]? = some b → P b := by
  constructor
  · intro h
    exact ⟨h 0 (Nat.zero_le _) a rfl, fun j hj => h (j + 1) (Nat.succ_le_succ hj)⟩
  · rintro ⟨hhead, hrest⟩ j hj
    cases j with
    | zero =>
      intro b hb
      cases hb
      exact hhead
    | succ j => exact hrest j (Nat.le_of_succ_le_succ hj)

/-- **Trials fill drafts**, one for each: it has open places if that trial and all before it pass
on. -/
theorem drafts_trials (hrun : Blind run) (hlaw : SlotLaw run passesOn) (sc : Scope) (t : Node)
    (alternatives : List (Schema Chooser)) (p : Draft) : ∃ ps : List Draft,
      (∀ v x, v.clear = t.clear → v.expected = p.fill x →
        (trials run sc alternatives v).map (·.node.expected) = ps.map (·.fill x)) ∧
      ∀ (i : Nat) (q : Draft), ps[i]? = some q →
        (none ∈ q ↔ none ∈ p ∧ ∀ j ≤ i, ∀ s, alternatives[j]? = some s → passesOn s sc t) := by
  induction alternatives generalizing p with
  | nil => exact ⟨[], fun _ _ _ _ => rfl, fun i q h => (nomatch h)⟩
  | cons s rest ih =>
    obtain ⟨q, hfill, hopen⟩ := hlaw.subst s sc t p
    have herrors : ∀ v : Node, v.clear = t.clear →
        (run s sc v).log.errors = (run s sc t).log.errors :=
      fun v hv => congrArg Log.errors (hrun.log_congr s sc hv)
    by_cases hs : (run s sc t).log.errors = 0
    · refine ⟨[q], fun v x hv hx => ?_, fun i q' hq' => ?_⟩
      · rw [trials, herrors v hv, if_pos hs, List.map_singleton, List.map_singleton,
          hfill v x hv hx]
      · cases i with
        | zero =>
          cases hq'
          rw [hopen, forall_getElem?_cons_zero]
        | succ i => cases hq'
    · obtain ⟨ps, hrest, hopen'⟩ := ih q
      refine ⟨q :: ps, fun v x hv hx => ?_, fun i q' hq' => ?_⟩
      · have hnode : (run s sc v).node.clear = t.clear := (hrun.clear_node s sc v).trans hv
        have hslot := hfill v x hv hx
        rw [trials, herrors v hv, if_neg hs, List.map_cons, List.map_cons, hslot,
          hrest _ x hnode hslot]
      · cases i with
        | zero =>
          cases hq'
          rw [hopen, forall_getElem?_cons_zero]
        | succ i => rw [hopen' i q' hq', hopen, forall_getElem?_cons_succ, and_assoc]

/-- The union of what is expected, with every slot read as a list. -/
theorem unionOf_eq (tried : List Outcome) (index : Nat) (chosen : Outcome)
    (untried : List Description) : unionOf tried index chosen untried =
      ((tried.map (·.node.expected)).set index chosen.node.expected).flatten ++
        untried.flatMap (·.expected.getD []) := by
  unfold unionOf
  rw [List.flatMap_append, List.flatMap_map, List.flatMap_map, ← List.map_set, ← List.flatMap_def]
  rfl

/-- **A union fills a draft** that is put together from those of its trials, with what the winner
leaves on empty slots in place of its trial, and with the descriptions of the others at the end. -/
theorem drafted_checkUnion (hrun : Blind run) (env : Environment Chooser)
    {alternatives : List (Schema Chooser)} {sc : Scope} {t : Node} {index : Nat}
    {best : Schema Chooser} (hbest : alternatives[index]? = some best)
    (hindex : fewest? (trials run sc alternatives t) = some index) {ps : List Draft}
    (hfill : ∀ v x, v.clear = t.clear → v.expected = Draft.fill [none] x →
      (trials run sc alternatives v).map (·.node.expected) = ps.map (·.fill x)) :
    let untried := alternatives.drop (trials run sc alternatives t).length
    Drafted (Check.step env run)
      ((ps.set index (.closed (run best sc t.clear).node.expected)).flatten ++
        .closed ((untried.map (describe run · sc)).flatMap (·.expected.getD [])))
      (.union alternatives) sc t := by
  intro untried v hv
  have hindex' : fewest? (trials run sc alternatives v) = some index := by
    rw [fewest?_trials_congr hrun sc alternatives hv, hindex]
  have hslots := hfill v v.expected hv (Draft.fill_open _).symm
  simp only [Check.step, checkUnion, hindex', hbest, clear_lastNode hrun.keeps, hv,
    length_trials_congr hrun sc alternatives hv]
  refine congrArg some ?_
  rw [unionOf_eq, hslots, Draft.fill_append, Draft.fill_flatten, Draft.fill_closed,
    List.map_set, Draft.fill_closed]

/-- A union of some alternatives obeys the law: its draft has an open place for each alternative
that has lost a trial and passes on what all before it have passed on. -/
theorem union_slotLaw (hrun : Blind run) (hlaw : SlotLaw run passesOn) (env : Environment Chooser)
    (alternatives : List (Schema Chooser)) (sc : Scope) (t : Node) :
    SlotLawAt (Check.step env run) (StepPassesOn env run passesOn (.union alternatives) sc t)
      (.union alternatives) sc t := by
  rcases checkUnion_eq hrun alternatives sc t with ⟨rfl, _⟩ | ⟨index, best, hbest, _, hindex, _⟩
  · exact Or.inl ⟨fun _ _ => rfl, Or.inl rfl⟩
  · right
    obtain ⟨ps, hfill, hopen⟩ := drafts_trials hrun hlaw sc t alternatives [none]
    have hlength : ps.length = (trials run sc alternatives t).length := by
      have hslots := congrArg List.length (hfill t t.expected rfl (Draft.fill_open _).symm)
      simpa using hslots.symm
    refine ⟨_, drafted_checkUnion hrun env hbest hindex hfill, ?_⟩
    rw [List.mem_append, or_iff_left (Draft.none_mem_closed _), Draft.none_mem_flatten_set]
    constructor
    · rintro (rfl | ⟨i, hi, hne, hpasses⟩)
      · cases hbest
      · have hlt : i < ps.length := hlength ▸ hi
        have hget := List.getElem?_eq_getElem hlt
        refine ⟨i, ?_, ps[i], hget, (hopen i _ hget).mpr ⟨List.mem_singleton_self _, hpasses⟩⟩
        rintro rfl
        exact hne hindex
    · rintro ⟨i, hne, q, hget, hnone⟩
      have hi : i < ps.length := (List.getElem?_eq_some_iff.mp hget).1
      refine Or.inr ⟨i, hlength ▸ hi, ?_, ((hopen i q hget).mp hnone).2⟩
      rw [hindex]
      intro h
      exact hne (Option.some.inj h).symm

end Union

/-! ### Every schema -/

section Step

variable {run : Run Chooser} {passesOn : Schema Chooser → Scope → Node → Prop}

/-- A run that always expects the same passes nothing on. -/
theorem slotLawAt_of_const {s : Schema Chooser} {sc : Scope} {t : Node} {x : List Expectation}
    (h : ∀ v, v.clear = t.clear → (run s sc v).node.expectation = some x) :
    SlotLawAt run False s sc t := by
  refine Or.inr ⟨.closed x, fun v hv => ?_, (iff_false_intro (Draft.none_mem_closed x)).symm⟩
  rw [h v hv, Draft.fill_closed]

/-- What a run does to a slot is what another one does that leaves the same nodes. -/
theorem SlotLawAt.of_same {run' : Run Chooser} {s c : Schema Chooser} {sc sc' : Scope} {t : Node}
    {passes : Prop} (h : SlotLawAt run passes c sc' t)
    (hsame : ∀ v, v.clear = t.clear → (run' s sc v).node = (run c sc' v).node) :
    SlotLawAt run' passes s sc t := by
  rcases h with ⟨huntouched, hpasses⟩ | ⟨w, hdrafted, hopen⟩
  · refine Or.inl ⟨fun v hv => ?_, hpasses⟩
    rw [hsame v hv]
    exact huntouched v hv
  · refine Or.inr ⟨w, fun v hv => ?_, hopen⟩
    rw [hsame v hv]
    exact hdrafted v hv

/-- A step that hands its node on leaves what the other schema leaves. -/
theorem node_of_handsTo {env : Environment Chooser} {s c : Schema Chooser} {sc sc' : Scope}
    {t v : Node} (h : handsTo? env.schemas sc t s = some (c, sc')) (hv : v.clear = t.clear) :
    (Check.step env run s sc v).node = (run c sc' v).node := by
  cases s with
  | anything | scalar _ | oneOf _ | matching _ | object _ | array _ | union _ => cases h
  | named name =>
    obtain ⟨s, hget, hs⟩ := Option.map_eq_some_iff.mp h
    cases hs
    rw [Check.step, checkNamed, hget]
  | documented path s =>
    cases h
    rfl
  | switch key selector =>
    obtain ⟨members, hmembers, hs⟩ := Option.map_eq_some_iff.mp h
    cases hs
    have hobject : v.members? ≠ none := by
      rw [ne_eq, Node.members?_eq_none_congr hv, hmembers]
      exact Option.some_ne_none members
    obtain ⟨members', hmembers'⟩ := Option.ne_none_iff_exists'.mp hobject
    rw [Check.step, checkSwitch, hmembers']
    dsimp only
    rw [Node.textUnder?_congr hv, checkSelected, Selector.choose_congr hv]
    rfl
  | select selector =>
    cases h
    rw [Check.step, checkSelected, Selector.choose_congr hv]
    rfl
  | custom chooser parts =>
    obtain ⟨s, hpart, hs⟩ := Option.map_eq_some_iff.mp h
    cases hs
    simp only [Check.step, CustomCheck.run, Chooser.run, hv, List.getElem?_map, hpart,
      Option.map_some]

/-- A name without a schema leaves its node as it is. -/
theorem node_of_unregistered {env : Environment Chooser} {name : String} {sc : Scope} {t : Node}
    (h : handsTo? env.schemas sc t (.named name) = none) (sc' : Scope) (v : Node) :
    (Check.step env run (.named name) sc' v).node = v := by
  rw [Check.step, checkNamed, Option.map_eq_none_iff.mp h]

/-- A switch on anything but an object expects an object. -/
theorem node_of_no_object {env : Environment Chooser} {key : String}
    {selector : Selector (Schema Chooser)} {sc : Scope} {t v : Node}
    (h : handsTo? env.schemas sc t (.switch key selector) = none) (hv : v.clear = t.clear) :
    (Check.step env run (.switch key selector) sc v).node = v.expecting [.object] := by
  have hmembers : t.members? = none := Option.map_eq_none_iff.mp h
  rw [Check.step, checkSwitch, (Node.members?_eq_none_congr hv).mpr hmembers]

/-- A choice without a part expects anything. -/
theorem node_of_no_part {env : Environment Chooser} {chooser : Chooser}
    {parts : List (Schema Chooser)} {sc : Scope} {t v : Node}
    (h : handsTo? env.schemas sc t (.custom chooser parts) = none) (hv : v.clear = t.clear) :
    (Check.step env run (.custom chooser parts) sc v).node = v.expecting [.any] := by
  have hpart : parts[chooser.index t.clear]? = none := Option.map_eq_none_iff.mp h
  simp only [Check.step, CustomCheck.run, Chooser.run, hv, List.getElem?_map, hpart,
    Option.map_none]

/-- **One step** obeys the law of slots if everything further inside does. -/
theorem step_slotLaw (env : Environment Chooser) (hrun : Blind run)
    (hlaw : SlotLaw run passesOn) :
    SlotLaw (Check.step env run) (StepPassesOn env run passesOn) := by
  intro s sc t
  cases hnext : handsTo? env.schemas sc t s with
  | some next =>
    obtain ⟨c, sc'⟩ := next
    have hpasses : StepPassesOn env run passesOn s sc t = passesOn c sc' t := by
      unfold StepPassesOn
      rw [hnext]
    rw [hpasses]
    exact (hlaw c sc' t).of_same fun v hv => node_of_handsTo hnext hv
  | none =>
    cases s with
    | anything | scalar _ | oneOf _ | matching _ => exact slotLawAt_of_const fun _ _ => rfl
    | documented _ _ | select _ => cases hnext
    | object shape =>
      let expected := (describeShape run env.settings sc shape).1
      refine slotLawAt_of_const (x := [expected]) fun v _ => ?_
      obtain ⟨span, expectation, body⟩ := v
      cases body <;> rfl
    | array item =>
      let items := (describePart run env.settings item sc).expected
      refine slotLawAt_of_const (x := [{ Expectation.array with items := items }]) fun v _ => ?_
      obtain ⟨span, expectation, body⟩ := v
      cases body <;> rfl
    | union alternatives => exact union_slotLaw hrun hlaw env alternatives sc t
    | named name =>
      refine Or.inl ⟨fun v _ => node_of_unregistered hnext sc v, ?_⟩
      unfold StepPassesOn
      rw [hnext]
      trivial
    | switch key selector =>
      have hpasses : StepPassesOn env run passesOn (.switch key selector) sc t = False := by
        unfold StepPassesOn
        rw [hnext]
      rw [hpasses]
      refine slotLawAt_of_const (x := [.object]) fun v hv => ?_
      rw [node_of_no_object hnext hv]
      rfl
    | custom chooser parts =>
      have hpasses : StepPassesOn env run passesOn (.custom chooser parts) sc t = False := by
        unfold StepPassesOn
        rw [hnext]
      rw [hpasses]
      refine slotLawAt_of_const (x := [.any]) fun v hv => ?_
      rw [node_of_no_part hnext hv]
      rfl

end Step

/-- **The law of slots**: with any fuel, a check leaves its node as it is, or it fills a draft that
hangs on the content of the node alone and has open places exactly where something is passed on. -/
theorem check_slotLaw (env : Environment Chooser) (fuel : Nat) :
    SlotLaw (check env fuel) (PassesOn env fuel) := by
  induction fuel with
  | zero => exact fun s sc t => Or.inl ⟨fun _ _ => rfl, trivial⟩
  | succ fuel ih =>
    intro s sc t
    exact (step_slotLaw env (check_blind env fuel) ih s sc t).of_same fun _ _ => rfl

end Check

end DocShape
