import DocShape.Check.Union

/-!
# Which alternative wins

The best of some trials is the first of those with the fewest errors (`firstFewest_of_fewest?`),
and there is always exactly one (`FirstFewest.unique`, `fewest?_eq_none_iff`). Trials stop at the
first without errors, so a trial that was left out could not have done better
(`FirstFewest.append`).
-/

namespace DocShape.Check

/-- A number at an index of a list is smaller than all before it and no greater than any other. -/
structure FirstFewest (errors : List Nat) (i : Nat) : Prop where
  /-- The index is one of the list's. -/
  lt_length : i < errors.length
  /-- No number is smaller. -/
  le (j : Nat) (hj : j < errors.length) : errors[i] ≤ errors[j]
  /-- Every number before it is greater. -/
  lt (j : Nat) (hj : j < i) : errors[i] < errors[j]

namespace FirstFewest

/-- At most one index is that of the first smallest number. -/
theorem unique {errors : List Nat} {i j : Nat} (hi : FirstFewest errors i)
    (hj : FirstFewest errors j) : i = j := by
  rcases Nat.lt_trichotomy i j with h | h | h
  · have h₁ := hj.lt i h
    have h₂ := hi.le j hj.lt_length
    omega
  · exact h
  · have h₁ := hi.lt j h
    have h₂ := hj.le i hi.lt_length
    omega

/-- Where there is a zero, the smallest number is zero. -/
theorem eq_zero {errors : List Nat} {i : Nat} (h : FirstFewest errors i) (hzero : 0 ∈ errors) :
    errors[i]? = some 0 := by
  obtain ⟨k, hk, hk₀⟩ := List.getElem_of_mem hzero
  have := h.le k hk
  rw [List.getElem?_eq_getElem h.lt_length]
  exact congrArg some (by omega)

/-- More numbers at the end change nothing once there is a zero. -/
theorem append {errors more : List Nat} {i : Nat} (h : FirstFewest errors i)
    (hmore : more = [] ∨ 0 ∈ errors) : FirstFewest (errors ++ more) i := by
  have hi := h.lt_length
  refine ⟨by rw [List.length_append]; omega, fun j hj => ?_, fun j hj => ?_⟩
  · rw [List.getElem_append_left hi]
    by_cases hj' : j < errors.length
    · rw [List.getElem_append_left hj']
      exact h.le j hj'
    · rcases hmore with rfl | hzero
      · rw [List.append_nil] at hj
        exact absurd hj hj'
      · obtain ⟨_, hi₀⟩ := List.getElem?_eq_some_iff.mp (h.eq_zero hzero)
        rw [hi₀]
        exact Nat.zero_le _
  · rw [List.getElem_append_left hi, List.getElem_append_left (Nat.lt_trans hj hi)]
    exact h.lt j hj

end FirstFewest

/-- The numbers of errors of some outcomes. -/
def errorCounts (outcomes : List Outcome) : List Nat := outcomes.map (·.log.errors)

/-- Going on from the best of a first part, `fewestFrom` finds the best of all: the number it
carries along is that of the first smallest so far. -/
theorem firstFewest_fewestFrom (rest : List Outcome) :
    ∀ (before : List Nat) (best : Nat × Nat), FirstFewest before best.1 →
      before[best.1]? = some best.2 →
      FirstFewest (before ++ errorCounts rest) (fewestFrom best before.length rest).1 := by
  induction rest with
  | nil =>
    intro before best h _
    rw [errorCounts, List.map_nil, List.append_nil]
    exact h
  | cons o rest ih =>
    intro before best h hbest
    obtain ⟨hlt, hget⟩ := List.getElem?_eq_some_iff.mp hbest
    have happend : before ++ errorCounts (o :: rest) =
        (before ++ [o.log.errors]) ++ errorCounts rest := by simp [errorCounts]
    have hlength : before.length + 1 = (before ++ [o.log.errors]).length := by simp
    rw [fewestFrom, happend, hlength]
    by_cases hless : o.log.errors < best.2
    · rw [if_pos hless]
      refine ih _ _ ⟨by simp, fun j hj => ?_, fun j hj => ?_⟩ (by simp)
      · -- the newcomer is smaller than the best so far, and so than every number before it
        rw [List.getElem_concat_length rfl]
        by_cases hj' : j < before.length
        · have := h.le j hj'
          rw [List.getElem_append_left hj']
          omega
        · rw [List.getElem_append_right (by omega)]
          simp
      · have := h.le j hj
        rw [List.getElem_concat_length rfl, List.getElem_append_left hj]
        omega
    · rw [if_neg hless]
      refine ih _ _ ⟨by rw [List.length_append]; omega, fun j hj => ?_, fun j hj => ?_⟩ ?_
      · rw [List.getElem_append_left hlt, hget]
        by_cases hj' : j < before.length
        · have := h.le j hj'
          rw [List.getElem_append_left hj']
          omega
        · rw [List.getElem_append_right (by omega)]
          simpa using Nat.le_of_not_lt hless
      · rw [List.getElem_append_left hlt, List.getElem_append_left (Nat.lt_trans hj hlt)]
        exact h.lt j hj
      · rw [List.getElem?_append_left hlt]
        exact hbest

/-- The chosen outcome is the first with the fewest errors. -/
theorem firstFewest_of_fewest? {outcomes : List Outcome} {i : Nat}
    (h : fewest? outcomes = some i) : FirstFewest (errorCounts outcomes) i := by
  cases outcomes with
  | nil => cases h
  | cons o rest =>
    rw [fewest?] at h
    cases h
    have hfirst : FirstFewest [o.log.errors] 0 :=
      ⟨by simp, fun j hj => by simp at hj; simp [hj], fun j hj => absurd hj (by omega)⟩
    exact firstFewest_fewestFrom rest [o.log.errors] (0, o.log.errors) hfirst rfl

/-- The chosen outcome is one of the outcomes. -/
theorem lt_length_of_fewest? {outcomes : List Outcome} {i : Nat} (h : fewest? outcomes = some i) :
    i < outcomes.length := by
  have hlt := (firstFewest_of_fewest? h).lt_length
  rwa [errorCounts, List.length_map] at hlt

/-- Among outcomes, one is always chosen. -/
theorem fewest?_eq_none_iff {outcomes : List Outcome} :
    fewest? outcomes = none ↔ outcomes = [] := by
  cases outcomes <;> simp [fewest?]

/-- Only the numbers of errors decide. -/
theorem fewest?_congr {outcomes outcomes' : List Outcome}
    (h : errorCounts outcomes = errorCounts outcomes') : fewest? outcomes = fewest? outcomes' := by
  have hlength : outcomes.length = outcomes'.length := by
    simpa [errorCounts] using congrArg List.length h
  cases hi : fewest? outcomes with
  | none =>
    rw [fewest?_eq_none_iff] at hi
    subst hi
    exact (fewest?_eq_none_iff.mpr (List.eq_nil_of_length_eq_zero hlength.symm)).symm
  | some i =>
    cases hj : fewest? outcomes' with
    | none =>
      rw [fewest?_eq_none_iff] at hj
      subst hj
      rw [List.eq_nil_of_length_eq_zero hlength] at hi
      cases hi
    | some j =>
      rw [(firstFewest_of_fewest? hi).unique (h ▸ firstFewest_of_fewest? hj)]

end DocShape.Check
