import DocShape.Check.Container
import DocShape.Proofs.Selection

/-!
# What the log of an object or an array is put together from

A joint property of logs, such as that there is no error or that the check has come to its end,
holds of the log of an object or an array if and only if it holds of the logs of what was run for
it. This file says which runs those are, once for all joint properties.
-/

namespace DocShape

/-- The schemas that are described where an object of some shape is expected. -/
def Shape.described {σ : Type} : Shape σ → List σ
  | .free => []
  | .fixed keys fields => keys.map fun key => (fields.property key).schema
  | .keyed keys _ => [keys]

/-- What is described is among the schemas of the shape. -/
theorem Shape.mem_schemas_of_mem_described {σ : Type} {shape : Shape σ} {s : σ}
    (h : s ∈ shape.described) : s ∈ shape.schemas := by
  cases shape with
  | free => cases h
  | fixed keys fields =>
    obtain ⟨key, -, rfl⟩ := List.mem_map.mp h
    exact fields.property_mem key
  | keyed keys fields =>
    rw [described, List.mem_singleton] at h
    exact h ▸ List.mem_cons_self

namespace Check

variable {ε : Type} {Q : Log → Prop} (hQ : Log.Joint Q) {env : Environment ε} {run : Run ε}
  {sc : Scope}

include hQ

theorem joint_describePart (s : Schema ε) :
    Q (describePart run env.settings s sc).log ↔
      (sc.Describes env.settings → Q (describe run s sc).log) := by
  unfold describePart
  by_cases h : sc.Describes env.settings
  · rw [if_pos h]
    exact ⟨fun hlog _ => hlog, fun hlog => hlog h⟩
  · rw [if_neg h]
    exact ⟨fun _ h' => absurd h' h, fun _ => hQ.empty⟩

/-- Describing a shape runs the described schemas, where parts are still described. -/
theorem joint_describeShape (shape : Shape (Schema ε)) :
    Q (describeShape run env.settings sc shape).2 ↔
      (sc.Describes env.settings → ∀ s ∈ shape.described, Q (describe run s sc).log) := by
  cases shape with
  | free => exact ⟨fun _ _ s hs => absurd hs List.not_mem_nil, fun _ => hQ.empty⟩
  | fixed keys fields =>
    simp only [describeShape, Shape.described]
    by_cases h : sc.Describes env.settings
    · simp only [if_pos h, List.map_map, hQ.join_iff, List.forall_mem_map]
      exact ⟨fun hlog _ => hlog, fun hlog => hlog h⟩
    · rw [if_neg h]
      exact ⟨fun _ h' => absurd h' h, fun _ => hQ.empty⟩
  | keyed keys fields =>
    refine (joint_describePart hQ keys).trans ?_
    simp only [Shape.described, List.forall_mem_singleton]

/-- A declared member runs the schema of its key. -/
theorem joint_checkDeclared (keys : List String) (fields : Fields (Schema ε)) (m : Member Node) :
    Q (checkDeclared env run keys fields sc m).2 ↔
      ∀ key, m.key = some key → key.text ∈ keys →
        Q (run (fields.property key.text).schema
          (propertyScope (fields.property key.text) key.text sc) (valueOrNull key m)).log := by
  obtain ⟨_ | key, value⟩ := m
  · exact ⟨fun _ _ h => (nomatch h), fun _ => hQ.empty⟩
  · have hdeprecation : Q (deprecationLog (fields.property key.text) key) := by
      unfold deprecationLog
      split
      · exact hQ.report (by simp [Cause.severity]) key.span
      · exact hQ.empty
    by_cases h : key.text ∈ keys
    · rw [checkDeclared_of_mem h, checkProperty, hQ.append_iff]
      constructor
      · intro hlog key' hkey _
        cases hkey
        exact hlog.2
      · intro hlog
        exact ⟨hdeprecation, hlog key rfl h⟩
    · rw [checkDeclared_of_not_mem h]
      constructor
      · intro _ key' hkey h'
        cases hkey
        exact absurd h' h
      · intro _
        exact hQ.report (by simp [Cause.severity]) key.span

/-- A member whose key has a schema runs it, and the schema of its value. -/
theorem joint_checkKeyed (keys : Schema ε) (fields : Fields (Schema ε)) (m : Member Node) :
    Q (checkKeyed run keys fields sc m).2 ↔
      ∀ key, m.key = some key → Q (run keys sc key.toNode).log ∧
        ∀ u, m.value = some u → Q (run (fields.property key.text).schema sc u).log := by
  obtain ⟨_ | key, value⟩ := m
  · exact ⟨fun _ _ h => (nomatch h), fun _ => hQ.empty⟩
  · cases value with
    | none =>
      constructor
      · intro hlog key' hkey
        cases hkey
        exact ⟨hlog, fun _ h => (nomatch h)⟩
      · intro hlog
        exact (hlog key rfl).1
    | some u =>
      rw [checkKeyed, hQ.append_iff]
      constructor
      · intro hlog key' hkey
        cases hkey
        refine ⟨hlog.1, fun u' hu => ?_⟩
        cases hu
        exact hlog.2
      · intro hlog
        obtain ⟨hkey, hvalue⟩ := hlog key rfl
        exact ⟨hkey, hvalue u rfl⟩

/-- The members of an object of declared keys. -/
theorem joint_checkMembers_fixed (span : Span) (members : List (Member Node)) (keys : List String)
    (fields : Fields (Schema ε)) :
    Q (checkMembers env run sc span members (.fixed keys fields)).2 ↔
      Q (missingLog keys fields members span) ∧
      ∀ m ∈ members, ∀ key, m.key = some key → key.text ∈ keys →
        Q (run (fields.property key.text).schema
          (propertyScope (fields.property key.text) key.text sc) (valueOrNull key m)).log := by
  simp only [checkMembers, hQ.append_iff, hQ.join_iff, List.map_map, List.forall_mem_map,
    Function.comp_apply, joint_checkDeclared hQ]

/-- The members of an object whose keys have a schema. -/
theorem joint_checkMembers_keyed (span : Span) (members : List (Member Node)) (keys : Schema ε)
    (fields : Fields (Schema ε)) :
    Q (checkMembers env run sc span members (.keyed keys fields)).2 ↔
      ∀ m ∈ members, ∀ key, m.key = some key → Q (run keys sc key.toNode).log ∧
        ∀ u, m.value = some u → Q (run (fields.property key.text).schema sc u).log := by
  simp only [checkMembers, hQ.join_iff, List.map_map, List.forall_mem_map, Function.comp_apply,
    joint_checkKeyed hQ]

end Check

end DocShape
