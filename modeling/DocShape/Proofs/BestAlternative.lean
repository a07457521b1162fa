import DocShape.Proofs.Blind
import DocShape.Proofs.FewerErrors
import DocShape.Proofs.Fuel
import DocShape.Proofs.Termination

/-!
# What is reported about alternatives

A union reports what one of its alternatives reports when it is checked alone on the same node, and
nothing else (`report_union`). Which one it is, is said without regard to trials, fuel or slots by
`Environment.Best`: it comes to its end with fewer errors than any before it, and with no more than
any other that comes to its end. There is at most one (`Environment.Best.unique`).

The trials run on what the ones before have left, and stop at the first without errors. Checks are
blind, so each trial counts the errors that its alternative has alone; and what was not tried comes
after an alternative without errors, which nothing can do better than.
-/

namespace DocShape

variable {ε : Type} [CustomCheck ε]

/-- The best of some alternatives for a node, given by its index, and what a check against it alone
comes to. -/
structure Environment.Best (env : Environment ε) (alternatives : List (Schema ε)) (sc : Scope)
    (t : Node) (index : Nat) (o : Outcome) : Prop where
  /-- It is one of the alternatives. -/
  ends : ∃ s, alternatives[index]? = some s ∧ env.Ends s sc t o
  /-- Every alternative before it comes to its end with more errors. -/
  lt (i : Nat) (hi : i < index) :
    ∃ s o', alternatives[i]? = some s ∧ env.Ends s sc t o' ∧ o.log.errors < o'.log.errors
  /-- No alternative comes to its end with fewer errors. -/
  le {s : Schema ε} {o' : Outcome} (hs : s ∈ alternatives) (h : env.Ends s sc t o') :
    o.log.errors ≤ o'.log.errors

variable [Picking ε] {env : Environment ε} {alternatives : List (Schema ε)} {sc : Scope} {t : Node}

namespace Environment.Best

variable {index index' : Nat} {o o' : Outcome}

/-- No alternative before the best one is the best. -/
theorem not_lt (h : env.Best alternatives sc t index o) (h' : env.Best alternatives sc t index' o') :
    ¬ index < index' := by
  intro hlt
  obtain ⟨s, hs, hends⟩ := h.ends
  obtain ⟨s₁, o₁, hs₁, hends₁, hmore⟩ := h'.lt index hlt
  cases hs.symm.trans hs₁
  cases hends.unique hends₁
  obtain ⟨s', hs', hends'⟩ := h'.ends
  exact absurd (h.le (List.mem_of_getElem? hs') hends') (Nat.not_le_of_lt hmore)

/-- There is at most one best alternative, and it comes to one outcome. -/
theorem unique (h : env.Best alternatives sc t index o) (h' : env.Best alternatives sc t index' o') :
    index = index' ∧ o = o' := by
  have hindex : index = index' :=
    Nat.le_antisymm (Nat.not_lt.mp (h'.not_lt h)) (Nat.not_lt.mp (h.not_lt h'))
  subst hindex
  obtain ⟨s, hs, hends⟩ := h.ends
  obtain ⟨s', hs', hends'⟩ := h'.ends
  cases hs.symm.trans hs'
  exact ⟨rfl, hends.unique hends'⟩

end Environment.Best

variable [Steady ε]

namespace Check

variable {fuel : Nat}
  (htried : ∀ o ∈ trials (check env fuel) sc alternatives t, o.log.finished = true)

include htried

/-- Where all trials come to their end, so does a check against each tried alternative alone. -/
theorem ends_of_tried {i : Nat} {s : Schema ε}
    (hi : i < (trials (check env fuel) sc alternatives t).length) (hs : alternatives[i]? = some s) :
    env.Ends s sc t (check env fuel s sc t) :=
  ⟨fuel, rfl, finished_of_tried (blind_check env fuel) htried hi hs⟩

/-- With fuel enough for all trials, the winner among them is the best of all alternatives. -/
theorem best_of_fewest? {index : Nat} {s : Schema ε} (hs : alternatives[index]? = some s)
    (hindex : fewest? (trials (check env fuel) sc alternatives t) = some index) :
    env.Best alternatives sc t index (check env fuel s sc t) := by
  have hblind := blind_check env fuel
  have hwinner := firstFewest_trials hblind hindex
  have hlength := lt_length_of_fewest? hindex
  obtain ⟨hlt, rfl⟩ := List.getElem?_eq_some_iff.mp hs
  refine ⟨⟨_, hs, ends_of_tried htried hlength hs⟩, fun i hi => ?_, ?_⟩
  · have hget := List.getElem?_eq_getElem (Nat.lt_trans hi hlt)
    have hmore := hwinner.lt i hi
    rw [List.getElem_map, List.getElem_map] at hmore
    exact ⟨_, _, hget, ends_of_tried htried (Nat.lt_trans hi hlength) hget, hmore⟩
  · intro s' o' hs' hends
    obtain ⟨i, hi, rfl⟩ := List.getElem_of_mem hs'
    have hle := hwinner.le i (by rwa [List.length_map])
    rw [List.getElem_map, List.getElem_map] at hle
    by_cases htry : i < (trials (check env fuel) sc alternatives t).length
    · rwa [hends.unique (ends_of_tried htried htry (List.getElem?_eq_getElem hi))]
    · -- it was not tried, because one before it finds no error, and so the winner does not either
      have hzero : 0 ∈ alternatives.map fun s => (check env fuel s sc t).log.errors := by
        rw [errorCounts_trials hblind]
        refine List.mem_append_left _ ((length_trials_or sc alternatives t).resolve_left ?_)
        omega
      obtain ⟨_, h₀⟩ := List.getElem?_eq_some_iff.mp (hwinner.eq_zero hzero)
      rw [List.getElem_map] at h₀
      rw [h₀]
      exact Nat.zero_le _

end Check

/-- A union that comes to its end finds what its best alternative finds alone. -/
theorem Environment.Ends.best_of_union (hne : alternatives ≠ []) {o : Outcome}
    (h : env.Ends (.union alternatives) sc t o) :
    ∃ index best, env.Best alternatives sc t index best ∧ o.log.findings = best.log.findings := by
  obtain ⟨fuel, index, s, hs, hindex, htried, -, -, -, hfindings⟩ := h.of_union hne
  refine ⟨index, _, Check.best_of_fewest? htried hs hindex, ?_⟩
  rw [hfindings]
  exact Check.findings_winner (Check.blind_check env fuel) hs hindex

/-- **What is reported about alternatives**: a union that comes to its end reports what its best
alternative reports alone, so that no trial and no description adds anything, and the number of
errors is the smallest of all alternatives, tried or not. Where no name leads back to itself on one
node, the union and all of its alternatives come to their end. Custom checks are judges: they read
neither slots nor settings. One that read slots could tell a trial from a run alone, as the slots may
hold what another trial has left. -/
theorem report_union (u : Setup Judge) {alternatives : List (Schema Judge)}
    (hne : alternatives ≠ []) (sc : Scope) (t : Node) :
    (∀ o, u.Ends (.union alternatives) sc t o →
      (∃ index best, u.Best alternatives sc t index best ∧ u.report o.log = u.report best.log) ∧
      ∀ s ∈ alternatives, ∀ o', u.Ends s sc t o' →
        (u.report o.log).errors ≤ (u.report o'.log).errors) ∧
    (Guarded u.schemas →
      u.Ends (.union alternatives) sc t (u.check (.union alternatives) sc t) ∧
      ∀ s ∈ alternatives, u.Ends s sc t (u.check s sc t)) := by
  have hends : Guarded u.schemas → ∀ s, u.Ends s sc t (u.check s sc t) := fun hguard s =>
    ⟨_, rfl, finished_check hguard s sc t _ (Nat.le_refl _)⟩
  refine ⟨fun o h => ?_, fun hguard => ⟨hends hguard _, fun s _ => hends hguard s⟩⟩
  obtain ⟨index, best, hbest, hfindings⟩ := h.best_of_union hne
  have hreport : u.report o.log = u.report best.log := congrArg (List.map _) hfindings
  refine ⟨⟨index, best, hbest, hreport⟩, fun s hs o' h' => ?_⟩
  rw [hreport, u.errors_report, u.errors_report]
  exact hbest.le hs h'

/-- An object with two keys, a point, or a number. -/
def pairPointOrNumber : List (Schema Judge) :=
  [.object (.fixed ["a", "b"] ⟨[], ⟨.anything, none⟩⟩), .named "point", .scalar .number]

/-- An object that has nothing but an `x`, and something left in its slot. -/
def staleObject : Node :=
  ⟨⟨0, 8⟩, some [.null, .any], .object [⟨some ⟨"x", ⟨1, 4⟩, some "old"⟩, some (.string "" ⟨6, 7⟩)⟩]⟩

/-- The object is a point rather than a pair, for which it lacks two keys, and the point comes before
the number. A point is made of alternatives itself, and the label is the best of these. -/
theorem report_union_staleObject :
    pairPointOrNumber ≠ [] ∧ Guarded (points none).schemas ∧
      (points none).Ends (.union pairPointOrNumber) {} staleObject
        ((points none).check (.union pairPointOrNumber) {} staleObject) ∧
      ∃ o best, (points none).Ends (.union pairPointOrNumber) {} staleObject o ∧
        (points none).Best pairPointOrNumber {} staleObject 1 best ∧
        (points none).report o.log = (points none).report best.log ∧
        o.log.findings.map (·.cause) = [.missingProperty "label", .unknownProperty "x"] := by
  have hne : pairPointOrNumber ≠ [] := List.cons_ne_nil _ _
  have hguard := guarded_points none
  have hunion := report_union (points none) hne {} staleObject
  obtain ⟨o, ho, hcauses⟩ : ∃ o, (points none).Ends (.union pairPointOrNumber) {} staleObject o ∧
      o.log.findings.map (·.cause) = [.missingProperty "label", .unknownProperty "x"] :=
    ⟨_, ⟨5, rfl, rfl⟩, rfl⟩
  obtain ⟨index, best, hbest, hsame⟩ := (hunion.1 o ho).1
  have hfuel : (points none).Best pairPointOrNumber {} staleObject 1
      (check (points none).toEnvironment 4 (.named "point") {} staleObject) :=
    Check.best_of_fewest? (by decide) rfl rfl
  obtain ⟨rfl, -⟩ := hbest.unique hfuel
  exact ⟨hne, hguard, (hunion.2 hguard).1, o, best, ho, hbest, hsame, hcauses⟩

end DocShape
