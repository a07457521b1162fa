import DocShape.Proofs.Visit

/-!
# Where hovers come from

A hover is written in the middle of a check, when the value under the key has just been checked, and
unions wipe out and check again what is further inside. In the end no hover is out of date: every hover
in a validated tree was written by a visit that the whole run leads to, and none by the trial of an
alternative that lost (`hover_of_validates`). It shows the labels that the value under its key has in
the end, or, where there is no value yet, those of the null node that stands for it.

On a node with empty slots, one step leaves exactly the hovers that its own visit writes and those that
are left where this visit leads (`Check.shows_step`). Visits lead from nodes with empty slots to such
nodes (`Visit.Leads.blank`), so the rest is an induction on the fuel.
-/

namespace DocShape

/-! ### Hovers in a tree -/

/-- A member whose key has a hover. -/
def Member.Shown (m : Member Node) : Prop := ∃ key hover, m.key = some key ∧ key.hover = some hover

/-- A tree holds a member whose key has a hover. -/
def Node.Shows (t : Node) (m : Member Node) : Prop := t.HoldsMember m ∧ m.Shown

/-- A member is one whose key has a hover, or its value holds such a member. -/
def Member.Shows (n m : Member Node) : Prop :=
  (n = m ∧ m.Shown) ∨ ∃ u, n.value = some u ∧ u.Shows m

section Shows

variable {t : Node} {n m : Member Node}

/-- There is no hover where slots are empty. -/
theorem Member.not_shown_of_clear (h : Node.clearMember m = m) : ¬ m.Shown := by
  rintro ⟨key, hover, hkey, hhover⟩
  have hcleared := congrArg Member.key h
  rw [Node.key_clearMember, hkey, Option.map_some] at hcleared
  have hnone := congrArg Key.hover (Option.some.inj hcleared)
  rw [hhover] at hnone
  cases hnone

theorem Node.not_shows_of_clear (h : t.clear = t) : ¬ t.Shows m := by
  rintro ⟨hm, hshown⟩
  rw [← h, holdsMember_clear] at hm
  obtain ⟨m', -, rfl⟩ := hm
  exact Member.not_shown_of_clear (clearMember_clearMember m') hshown

theorem Member.not_shows_of_clear (h : Node.clearMember n = n) : ¬ n.Shows m := by
  rintro (⟨rfl, hshown⟩ | ⟨u, hu, hshows⟩)
  · exact not_shown_of_clear h hshown
  · have hcleared := congrArg Member.value h
    rw [Node.value_clearMember, hu] at hcleared
    exact Node.not_shows_of_clear (Option.some.inj hcleared) hshows

/-- What an object shows is what its members show. -/
theorem Node.shows_of_members {members : List (Member Node)} (h : t.members? = some members) :
    t.Shows m ↔ ∃ n ∈ members, n.Shows m := by
  unfold Shows
  rw [holdsMember_of_members h]
  constructor
  · rintro ⟨hm | ⟨n, hn, u, hu, hheld⟩, hshown⟩
    · exact ⟨m, hm, Or.inl ⟨rfl, hshown⟩⟩
    · exact ⟨n, hn, Or.inr ⟨u, hu, hheld, hshown⟩⟩
  · rintro ⟨n, hn, ⟨rfl, hshown⟩ | ⟨u, hu, hheld, hshown⟩⟩
    · exact ⟨Or.inl hn, hshown⟩
    · exact ⟨Or.inr ⟨n, hn, u, hu, hheld⟩, hshown⟩

/-- What an array shows is what its items show. -/
theorem Node.shows_of_items {items : List Node} (h : t.items? = some items) :
    t.Shows m ↔ ∃ u ∈ items, u.Shows m := by
  unfold Shows
  rw [holdsMember_of_items h]
  constructor
  · rintro ⟨⟨u, hu, hheld⟩, hshown⟩
    exact ⟨u, hu, hheld, hshown⟩
  · rintro ⟨u, hu, hheld, hshown⟩
    exact ⟨⟨u, hu, hheld⟩, hshown⟩

/-- The slot of a node makes no difference to what it shows. -/
theorem Node.shows_expecting {expected : List Expectation} :
    (t.expecting expected).Shows m ↔ t.Shows m :=
  and_congr_left' holdsMember_expecting

end Shows

variable {ε : Type} [CustomCheck ε]

/-! ### What visits write -/

/-- What a visit writes by itself: a member with a declared key comes to have the value that the check
of its value ends with, if it has one, and the key gets the hover with the labels that this check
leaves. -/
inductive Visit.Writes (env : Environment ε) : Visit ε → Member Node → Prop
  | property {keys : List String} {fields : Fields (Schema ε)} {sc : Scope} {t : Node}
    {members : List (Member Node)} {m : Member Node} {key : Key} {o : Outcome}
    (hmembers : t.members? = some members) (hm : m ∈ members) (hkey : m.key = some key)
    (hmem : key.text ∈ keys)
    (hends : env.Ends (fields.property key.text).schema
      (Check.propertyScope (fields.property key.text) key.text sc) (Check.valueOrNull key m) o) :
    Writes env ⟨.object (.fixed keys fields), sc, t⟩
      { key := some { key with hover := some (env.settings.hover
          (Check.propertyScope (fields.property key.text) key.text sc).path o.node.labels
          (env.documentation
            (Check.propertyScope (fields.property key.text) key.text sc).path)) },
        value := m.value.map fun _ => o.node }

/-- What is written has a hover. -/
theorem Visit.Writes.shown {env : Environment ε} {v : Visit ε} {m : Member Node}
    (h : v.Writes env m) : m.Shown := by
  cases h with
  | property _ _ _ _ _ => exact ⟨_, _, rfl, rfl⟩

variable [Picking ε]

/-- A visit to a node with empty slots leads to such nodes. -/
theorem Visit.Leads.blank {env : Environment ε} {v w : Visit ε} (h : v.Leads env w)
    (hblank : v.node.clear = v.node) : w.node.clear = w.node := by
  cases h with
  | relay _ => exact hblank
  | @property _ _ _ _ _ m key hmembers hm hkey _ =>
    have hmember := Node.clear_of_mem_members hblank hmembers hm
    obtain ⟨_, _ | u⟩ := m
    · rfl
    · exact Option.some.inj (congrArg Member.value hmember)
  | key _ _ _ => rfl
  | value hmembers hm _ hvalue =>
    have hmember := congrArg Member.value (Node.clear_of_mem_members hblank hmembers hm)
    rw [Node.value_clearMember, hvalue] at hmember
    exact Option.some.inj hmember
  | item hitems hu => exact Node.clear_of_mem_items hblank hitems hu
  | winner _ _ => exact Node.clear_clear _

namespace Check

/-! ### Objects and arrays -/

section Container

variable {env : Environment ε} {run : Run ε} (hrun : Keeps run) {sc : Scope} {t : Node}
  {n m : Member Node}

include hrun

omit [CustomCheck ε] [Picking ε] in
/-- What is neither an object nor an array shows nothing after a run, either. -/
theorem not_shows_of_leaf (hmembers : t.members? = none) (hitems : t.items? = none)
    (s : Schema ε) : ¬ (run s sc t).node.Shows m := by
  rintro ⟨hm, -⟩
  have hheld : t.clear.HoldsMember (Node.clearMember m) :=
    hrun s sc t ▸ Node.holdsMember_clear.mpr ⟨m, hm, rfl⟩
  obtain ⟨m', hm', -⟩ := Node.holdsMember_clear.mp hheld
  exact Node.not_holdsMember hmembers hitems m' hm'

omit [CustomCheck ε] [Picking ε] in
/-- A member of an object of declared keys shows itself and what its value shows, if its key is declared,
and nothing otherwise. -/
theorem shows_checkDeclared (hblank : Node.clearMember n = n) (keys : List String)
    (fields : Fields (Schema ε)) :
    (checkDeclared env run keys fields sc n).1.Shows m ↔
      ∃ key, n.key = some key ∧ key.text ∈ keys ∧
        ((checkProperty env run (fields.property key.text) sc key n).1 = m ∨
          (run (fields.property key.text).schema
            (propertyScope (fields.property key.text) key.text sc) (valueOrNull key n)).node.Shows m) := by
  obtain ⟨_ | key, value⟩ := n
  · refine iff_of_false (Member.not_shows_of_clear hblank) ?_
    rintro ⟨key, hkey, -⟩
    cases hkey
  · by_cases hmem : key.text ∈ keys
    · rw [checkDeclared_of_mem hmem]
      constructor
      · rintro (⟨heq, -⟩ | ⟨u, hu, hshows⟩)
        · exact ⟨key, rfl, hmem, Or.inl heq⟩
        · obtain ⟨_, -, rfl⟩ := Option.map_eq_some_iff.mp hu
          exact ⟨key, rfl, hmem, Or.inr hshows⟩
      · rintro ⟨_, hkey, -, heq | hshows⟩
        · cases hkey
          exact Or.inl ⟨heq, heq ▸ ⟨_, _, rfl, rfl⟩⟩
        · cases hkey
          cases value with
          | none => exact absurd hshows (not_shows_of_leaf hrun rfl rfl _)
          | some u => exact Or.inr ⟨_, rfl, hshows⟩
    · rw [checkDeclared_of_not_mem hmem]
      refine iff_of_false (Member.not_shows_of_clear hblank) ?_
      rintro ⟨_, hkey, hmem', -⟩
      cases hkey
      exact hmem hmem'

omit [CustomCheck ε] [Picking ε] hrun in
/-- A member of an object whose keys have a schema shows what its value shows, if it has a key. -/
theorem shows_checkKeyed (hblank : Node.clearMember n = n) (keys : Schema ε)
    (fields : Fields (Schema ε)) :
    (checkKeyed run keys fields sc n).1.Shows m ↔ ∃ key u, n.key = some key ∧ n.value = some u ∧
      (run (fields.property key.text).schema sc u).node.Shows m := by
  obtain ⟨_ | key, value⟩ := n
  · refine iff_of_false (Member.not_shows_of_clear hblank) ?_
    rintro ⟨key, u, hkey, -⟩
    cases hkey
  · cases value with
    | none =>
      refine iff_of_false (Member.not_shows_of_clear hblank) ?_
      rintro ⟨_, u, -, hu, -⟩
      cases hu
    | some u =>
      constructor
      · rintro (⟨rfl, key', hover, hkey, hhover⟩ | ⟨_, hu, hshows⟩)
        · -- the key is as empty as it was
          exact absurd ⟨key', hover, hkey, hhover⟩ (Member.not_shown_of_clear hblank)
        · cases hu
          exact ⟨key, u, rfl, rfl, hshows⟩
      · rintro ⟨_, _, hkey, hu, hshows⟩
        cases hkey
        cases hu
        exact Or.inr ⟨_, rfl, hshows⟩

end Container

section Step

variable {env : Environment ε} {fuel : Nat} {sc : Scope} {t : Node} {m : Member Node}

/-- A check of an object of declared keys shows what its visit writes, and what is shown where it
leads. -/
theorem shows_fixed (hblank : t.clear = t) {members : List (Member Node)}
    (hmembers : t.members? = some members) {keys : List String} {fields : Fields (Schema ε)}
    (hfinished :
      (Check.step env (check env fuel) (.object (.fixed keys fields)) sc t).log.finished = true) :
    (∃ n ∈ (checkMembers env (check env fuel) sc t.span members (.fixed keys fields)).1,
      n.Shows m) ↔
      Visit.Writes env ⟨.object (.fixed keys fields), sc, t⟩ m ∨
        ∃ v, Visit.Leads env ⟨.object (.fixed keys fields), sc, t⟩ v ∧
          (v.outcome (check env fuel)).node.Shows m := by
  have hkeeps := check_keeps env fuel
  simp only [checkMembers, List.map_map, List.mem_map, exists_exists_and_eq_and,
    Function.comp_apply]
  constructor
  · rintro ⟨n, hn, hshows⟩
    have hclear := Node.clear_of_mem_members hblank hmembers hn
    obtain ⟨key, hkey, hmem, heq | hshows⟩ :=
      (shows_checkDeclared hkeeps hclear keys fields).mp hshows
    · rw [← heq]
      exact Or.inl (.property hmembers hn hkey hmem
        ⟨fuel, rfl, finished_of_leads hfinished (.property hmembers hn hkey hmem)⟩)
    · exact Or.inr ⟨_, .property hmembers hn hkey hmem, hshows⟩
  · rintro (hwrites | ⟨v, hleads, hshows⟩)
    · cases hwrites with
      | @property _ _ _ _ _ n key o h hn hkey hmem hends =>
        cases hmembers.symm.trans h
        have hclear := Node.clear_of_mem_members hblank hmembers hn
        have hsame := hends.unique
          ⟨fuel, rfl, finished_of_leads hfinished (.property hmembers hn hkey hmem)⟩
        rw [hsame]
        exact ⟨n, hn, (shows_checkDeclared hkeeps hclear keys fields).mpr
          ⟨key, hkey, hmem, Or.inl rfl⟩⟩
    · cases hleads with
      | relay h => cases h
      | @property _ _ _ _ _ n key h hn hkey hmem =>
        cases hmembers.symm.trans h
        have hclear := Node.clear_of_mem_members hblank hmembers hn
        exact ⟨n, hn, (shows_checkDeclared hkeeps hclear keys fields).mpr
          ⟨key, hkey, hmem, Or.inr hshows⟩⟩

/-- A check of an object whose keys have a schema shows what is shown where its visit leads: it writes
nothing itself, and there is nothing to show in a key. -/
theorem shows_keyed (hblank : t.clear = t) {members : List (Member Node)}
    (hmembers : t.members? = some members) {keys : Schema ε} {fields : Fields (Schema ε)} :
    (∃ n ∈ (checkMembers env (check env fuel) sc t.span members (.keyed keys fields)).1,
      n.Shows m) ↔
      Visit.Writes env ⟨.object (.keyed keys fields), sc, t⟩ m ∨
        ∃ v, Visit.Leads env ⟨.object (.keyed keys fields), sc, t⟩ v ∧
          (v.outcome (check env fuel)).node.Shows m := by
  simp only [checkMembers, List.map_map, List.mem_map, exists_exists_and_eq_and,
    Function.comp_apply]
  constructor
  · rintro ⟨n, hn, hshows⟩
    have hclear := Node.clear_of_mem_members hblank hmembers hn
    obtain ⟨key, u, hkey, hu, hshows⟩ := (shows_checkKeyed hclear keys fields).mp hshows
    exact Or.inr ⟨_, .value hmembers hn hkey hu, hshows⟩
  · rintro (hwrites | ⟨v, hleads, hshows⟩)
    · cases hwrites
    · cases hleads with
      | relay h => cases h
      | key _ _ _ => exact absurd hshows (not_shows_of_leaf (check_keeps env fuel) rfl rfl _)
      | @value _ _ _ _ _ n key u h hn hkey hu =>
        cases hmembers.symm.trans h
        have hclear := Node.clear_of_mem_members hblank hmembers hn
        exact ⟨n, hn, (shows_checkKeyed hclear keys fields).mpr ⟨key, u, hkey, hu, hshows⟩⟩

/-- A check of an object shows what its visit writes, and what is shown where it leads. -/
theorem shows_checkObject (hblank : t.clear = t) {shape : Shape (Schema ε)}
    (hfinished : (Check.step env (check env fuel) (.object shape) sc t).log.finished = true) :
    (checkObject env (check env fuel) shape sc t).node.Shows m ↔
      Visit.Writes env ⟨.object shape, sc, t⟩ m ∨ ∃ v, Visit.Leads env ⟨.object shape, sc, t⟩ v ∧
        (v.outcome (check env fuel)).node.Shows m := by
  cases hmembers : t.members? with
  | none =>
    rw [checkObject_of_none hmembers]
    refine iff_of_false (fun hshows => ?_) ?_
    · exact Node.not_shows_of_clear hblank (Node.shows_expecting.mp hshows)
    · rintro (hwrites | ⟨v, hleads, -⟩)
      · cases hwrites with
        | property h _ _ _ _ => cases hmembers.symm.trans h
      · cases hleads with
        | relay h => cases h
        | property h _ _ _ | key h _ _ | value h _ _ _ => cases hmembers.symm.trans h
  | some members =>
    rw [checkObject_of_members hmembers, Node.shows_of_members rfl]
    cases shape with
    | free =>
      refine iff_of_false ?_ ?_
      · rintro ⟨n, hn, hshows⟩
        exact Member.not_shows_of_clear (Node.clear_of_mem_members hblank hmembers hn) hshows
      · rintro (hwrites | ⟨v, hleads, -⟩)
        · cases hwrites
        · cases hleads with
          | relay h => cases h
    | fixed keys fields => exact shows_fixed hblank hmembers hfinished
    | keyed keys fields => exact shows_keyed hblank hmembers

/-- A check of an array shows what is shown where its visit leads. -/
theorem shows_checkArray (hblank : t.clear = t) (item : Schema ε) :
    (checkArray env (check env fuel) item sc t).node.Shows m ↔
      ∃ v, Visit.Leads env ⟨.array item, sc, t⟩ v ∧ (v.outcome (check env fuel)).node.Shows m := by
  cases hitems : t.items? with
  | none =>
    rw [checkArray_of_none hitems]
    refine iff_of_false (fun hshows => ?_) ?_
    · exact Node.not_shows_of_clear hblank (Node.shows_expecting.mp hshows)
    · rintro ⟨v, hleads, -⟩
      cases hleads with
      | relay h => cases h
      | item h _ => cases hitems.symm.trans h
  | some items =>
    rw [checkArray_of_items hitems, Node.shows_of_items rfl]
    simp only [List.map_map, List.mem_map, exists_exists_and_eq_and, Function.comp_apply]
    constructor
    · rintro ⟨u, hu, hshows⟩
      exact ⟨_, .item hitems hu, hshows⟩
    · rintro ⟨v, hleads, hshows⟩
      cases hleads with
      | relay h => cases h
      | item h hu =>
        cases hitems.symm.trans h
        exact ⟨_, hu, hshows⟩

/-! ### Alternatives -/

/-- A check of alternatives shows what is shown where its visit leads, and so nothing of a trial. -/
theorem shows_checkUnion (hblank : t.clear = t) {alternatives : List (Schema ε)}
    (hfinished : (checkUnion (check env fuel) alternatives sc t).log.finished = true) :
    (checkUnion (check env fuel) alternatives sc t).node.Shows m ↔
      ∃ v, Visit.Leads env ⟨.union alternatives, sc, t⟩ v ∧
        (v.outcome (check env fuel)).node.Shows m := by
  have hkeeps := check_keeps env fuel
  rcases checkUnion_cases hkeeps alternatives sc t with
    ⟨rfl, heq⟩ | ⟨index, best, hbest, hindex, _⟩
  · rw [heq]
    refine iff_of_false (Node.not_shows_of_clear hblank) ?_
    rintro ⟨v, hleads, -⟩
    cases hleads with
    | relay h => cases h
    | winner hbest _ => cases hbest
  · obtain ⟨htried, -⟩ := (finished_chosen_iff hkeeps hbest hindex).mp hfinished
    rw [node_chosen hkeeps hbest hindex, Node.shows_expecting]
    constructor
    · intro hshows
      exact ⟨_, .winner hbest ((wins_iff htried).mpr hindex), hshows⟩
    · rintro ⟨v, hleads, hshows⟩
      cases hleads with
      | relay h => cases h
      | winner hbest' hwins =>
        cases hindex.symm.trans ((wins_iff htried).mp hwins)
        cases hbest.symm.trans hbest'
        exact hshows

/-! ### Every schema -/

/-- **One step** on a node with empty slots that has come to its end shows what its visit writes, and
what is shown where the visit leads. -/
theorem shows_step {s : Schema ε} (hblank : t.clear = t)
    (hfinished : (Check.step env (check env fuel) s sc t).log.finished = true) :
    (Check.step env (check env fuel) s sc t).node.Shows m ↔
      Visit.Writes env ⟨s, sc, t⟩ m ∨
        ∃ v, Visit.Leads env ⟨s, sc, t⟩ v ∧ (v.outcome (check env fuel)).node.Shows m := by
  cases way env sc t s with
  | relay hrelay =>
    rw [step_of_relay hrelay, Outcome.node_after]
    constructor
    · intro hshows
      exact Or.inr ⟨_, .relay hrelay, hshows⟩
    · rintro (hwrites | ⟨v, hleads, hshows⟩)
      · cases hwrites with
        | property _ _ _ _ _ => cases hrelay
      · cases hleads with
        | relay h =>
          cases hrelay.symm.trans h
          exact hshows
        | property _ _ _ _ | key _ _ _ | value _ _ _ _ | item _ _ | winner _ _ => cases hrelay
  | alone hs hrelay =>
    rw [step_of_alone hs hrelay]
    refine iff_of_false (fun hshows => ?_) ?_
    · have hnode : ¬ (alone t s).node.Shows m := by
        cases s with
        | named name => exact Node.not_shows_of_clear hblank
        | _ => exact fun hshown => Node.not_shows_of_clear hblank (Node.shows_expecting.mp hshown)
      exact hnode hshows
    · rintro (hwrites | ⟨v, hleads, -⟩)
      · cases hwrites with
        | property _ _ _ _ _ => exact hs trivial
      · exact not_leads_of_alone hs hrelay v hleads
  | object shape => exact shows_checkObject hblank hfinished
  | array item =>
    refine (shows_checkArray hblank item).trans (or_iff_right ?_).symm
    exact fun hwrites => nomatch hwrites
  | union alternatives =>
    refine (shows_checkUnion hblank hfinished).trans (or_iff_right ?_).symm
    exact fun hwrites => nomatch hwrites

end Step

end Check

/-- **Where hovers come from**: on a node with empty slots, a check that has come to its end shows the
members that are written by the visits that its first visit leads to, and nothing else. -/
theorem shows_iff (env : Environment ε) (fuel : Nat) (v : Visit ε)
    (hblank : v.node.clear = v.node)
    (hfinished : (v.outcome (check env fuel)).log.finished = true) (m : Member Node) :
    (v.outcome (check env fuel)).node.Shows m ↔
      ∃ w, Relation.ReflTransGen (Visit.Leads env) v w ∧ w.Writes env m := by
  induction fuel generalizing v with
  | zero => cases hfinished
  | succ fuel ih =>
    have hstep := Log.finished_right hfinished
    have hshown : (v.outcome (check env (fuel + 1))).node.Shows m ↔
        v.Writes env m ∨ ∃ w, v.Leads env w ∧ (w.outcome (check env fuel)).node.Shows m :=
      Check.shows_step hblank hstep
    rw [hshown]
    constructor
    · rintro (hwrites | ⟨w, hleads, hshows⟩)
      · exact ⟨v, .refl, hwrites⟩
      · have hend := Check.finished_of_leads hstep hleads
        obtain ⟨x, hpath, hwrites⟩ := (ih w (hleads.blank hblank) hend).mp hshows
        exact ⟨x, .head hleads hpath, hwrites⟩
    · rintro ⟨x, hpath, hwrites⟩
      rcases hpath.cases_head with rfl | ⟨w, hleads, hrest⟩
      · exact Or.inl hwrites
      · have hend := Check.finished_of_leads hstep hleads
        exact Or.inr ⟨w, hleads, (ih w (hleads.blank hblank) hend).mpr ⟨x, hrest, hwrites⟩⟩

omit [Picking ε] in
/-- What the hover of a written member shows: the labels that its value ends with, or those of the null
node that stands for the value. -/
theorem Visit.Writes.hover_eq {env : Environment ε} {v : Visit ε} {m : Member Node}
    (h : v.Writes env m) {key : Key} {hover : String} (hkey : m.key = some key)
    (hhover : key.hover = some hover) :
    ∃ keys fields, v.schema = .object (.fixed keys fields) ∧ key.text ∈ keys ∧
      let inside := Check.propertyScope (fields.property key.text) key.text v.scope
      ∃ labels, hover = env.settings.hover inside.path labels (env.documentation inside.path) ∧
        (∀ value, m.value = some value → labels = value.labels) ∧
        (m.value = none → ∃ o, env.Ends (fields.property key.text).schema inside
          (Node.null (.point key.span.stop)) o ∧ labels = o.node.labels) := by
  cases h with
  | @property keys fields sc t members n before o hmembers hn hbefore hmem hends =>
    cases hkey
    cases hhover
    refine ⟨keys, fields, rfl, hmem, o.node.labels, rfl, fun value hvalue => ?_, fun hnone => ?_⟩
    · obtain ⟨_, -, rfl⟩ := Option.map_eq_some_iff.mp hvalue
      rfl
    · have hvalue : n.value = none := Option.map_eq_none_iff.mp hnone
      rw [Check.valueOrNull, hvalue] at hends
      exact ⟨o, hends, rfl⟩

/-- **Hovers show how it ended**: in a tree that has been validated, every hover shows a path, the
documentation that is found there, and labels. They are the labels that the value under the key has in
the end, or, where there is no value, those that the check of the key leaves on the null node. The
members with a hover are exactly those written by the visits that the whole run leads to, so that no
trial of an alternative that lost has left one. -/
theorem hover_of_validates (u : Setup Picker) {s : Schema Picker} {root : String} {t : Node}
    {o : Outcome} (h : u.Validates s root t o) :
    let start : Visit Picker := ⟨s, { path := root }, t.clear⟩
    (∀ m key hover, o.node.HoldsMember m → m.key = some key → key.hover = some hover →
      ∃ w keys fields, Relation.ReflTransGen (Visit.Leads u.toEnvironment) start w ∧
        w.schema = .object (.fixed keys fields) ∧ key.text ∈ keys ∧
        let inside := Check.propertyScope (fields.property key.text) key.text w.scope
        ∃ labels, hover = u.settings.hover inside.path labels (u.documentation inside.path) ∧
          (∀ value, m.value = some value → labels = value.labels) ∧
          (m.value = none → ∃ o', u.Ends (fields.property key.text).schema inside
            (Node.null (.point key.span.stop)) o' ∧ labels = o'.node.labels)) ∧
    ∀ m, o.node.Shows m ↔
      ∃ w, Relation.ReflTransGen (Visit.Leads u.toEnvironment) start w ∧
        w.Writes u.toEnvironment m := by
  obtain ⟨fuel, rfl, hfinished⟩ := h
  intro start
  have hshows := shows_iff u.toEnvironment fuel start (Node.clear_clear t) hfinished
  refine ⟨?_, hshows⟩
  intro m key hover hm hkey hhover
  obtain ⟨w, hpath, hwrites⟩ := (hshows m).mp ⟨hm, key, hover, hkey, hhover⟩
  obtain ⟨keys, fields, hschema, hmem, hlabels⟩ := hwrites.hover_eq hkey hhover
  exact ⟨w, keys, fields, hpath, hschema, hmem, hlabels⟩

/-- An object with a number or a string under one key, and a number under the other one. -/
def numberOrText : Schema Picker :=
  .object (.fixed ["a", "b"]
    ⟨[("a", ⟨.union [.record (.ofList [("c", ⟨.scalar .number, none⟩)]),
        .record (.ofList [("c", ⟨.scalar .string, none⟩)])], none⟩),
      ("b", ⟨.scalar .number, none⟩)], ⟨.anything, none⟩⟩)

/-- The first alternative is tried, and it loses; the last key has no value yet. -/
def textAndGap : Node :=
  ⟨⟨0, 20⟩, none, .object [
    ⟨some ⟨"a", ⟨1, 4⟩, none⟩, some ⟨⟨6, 14⟩, none,
      .object [⟨some ⟨"c", ⟨7, 10⟩, none⟩, some (.string "" ⟨12, 13⟩)⟩]⟩⟩,
    ⟨some ⟨"b", ⟨16, 19⟩, none⟩, none⟩]⟩

/-- The key inside shows the alternative that won, and the one without a value what is missing. -/
theorem hover_textAndGap :
    let start : Visit Picker := ⟨numberOrText, {}, textAndGap.clear⟩
    ∃ o inner outer, ({} : Setup Picker).Validates numberOrText "" textAndGap o ∧
      o.node.HoldsMember inner ∧ o.node.HoldsMember outer ∧
      inner.key.bind (·.hover) = some (({} : Settings).hover "a.c" ["String"] none) ∧
      outer.key.bind (·.hover) = some (({} : Settings).hover "b" ["Number"] none) ∧
      (∃ w, Relation.ReflTransGen (Visit.Leads {}) start w ∧ w.Writes {} inner) ∧
      ∃ w, Relation.ReflTransGen (Visit.Leads {}) start w ∧ w.Writes {} outer := by
  intro start
  obtain ⟨o, value, inner, outer, hends, hvalue, hinner, houter, hshown, hshown'⟩ :
      ∃ o value inner outer, ({} : Setup Picker).Validates numberOrText "" textAndGap o ∧
        o.node.members? = some [⟨some ⟨"a", ⟨1, 4⟩,
          some (({} : Settings).hover "a" ["Object", "Object"] none)⟩, some value⟩, outer] ∧
        value.members? = some [inner] ∧ outer.value.isNone ∧
        inner.key.bind (·.hover) = some (({} : Settings).hover "a.c" ["String"] none) ∧
        outer.key.bind (·.hover) = some (({} : Settings).hover "b" ["Number"] none) :=
    ⟨_, _, _, _, ⟨8, rfl, rfl⟩, rfl, rfl, rfl, rfl, rfl⟩
  have hheld : o.node.HoldsMember outer :=
    (Node.holdsMember_of_members hvalue).mpr (Or.inl (List.mem_cons_of_mem _ List.mem_cons_self))
  have hheld' : o.node.HoldsMember inner :=
    (Node.holdsMember_of_members hvalue).mpr (Or.inr ⟨_, List.mem_cons_self, value, rfl,
      (Node.holdsMember_of_members hinner).mpr (Or.inl List.mem_cons_self)⟩)
  obtain ⟨-, hshows⟩ := hover_of_validates {} hends
  have hkey : ∀ {m : Member Node} {hover : String}, m.key.bind (·.hover) = some hover → m.Shown := by
    intro m hover hhover
    obtain ⟨key, hkey, hhover⟩ := Option.bind_eq_some_iff.mp hhover
    exact ⟨key, hover, hkey, hhover⟩
  exact ⟨o, inner, outer, hends, hheld', hheld, hshown, hshown',
    (hshows inner).mp ⟨hheld', hkey hshown⟩, (hshows outer).mp ⟨hheld, hkey hshown'⟩⟩

end DocShape
