import Mathlib.Data.List.Count
import DocShape.Proofs.Labels
import DocShape.Proofs.RecordFindings
import DocShape.Proofs.ValuesByKey
import DocShape.Proofs.Visit

/-!
# Keys that are declared more than once

An object of declared keys takes its keys as a list, and nothing keeps a key from being listed twice.
What is said of a key is said once for each time that it is listed (`said_per_listing`): a missing key
is reported as often (`Check.count_missing`), and the described fields have it as often. So each key is
spoken of once exactly where the list is free of repetitions. The keys of a record always are; an object
that is declared by hand may have others.
-/

namespace DocShape

variable {ε : Type}

section Missing

variable {fields : Fields (Schema ε)} {keys : List String} {members : List (Member Node)}

/-- An object of some members lacks a key: no member has it, and it is neither optional nor
deprecated. -/
def Fields.Lacks (fields : Fields (Schema ε)) (members : List (Member Node)) (key : String) : Prop :=
  key ∉ Member.keys members ∧ (fields.property key).isOptional = false ∧
    (fields.property key).isDeprecated = false

instance : DecidablePred (fields.Lacks members) :=
  fun key => inferInstanceAs (Decidable (key ∉ Member.keys members ∧ _ ∧ _))

/-- The keys that are reported are those that are lacking, each time that they are listed. -/
theorem Check.findings_missingLog_eq (span : Span) :
    (missingLog keys fields members span).findings =
      (keys.filter fun key => fields.Lacks members key).map fun key =>
        ⟨.missingProperty key, span.head⟩ := by
  rw [missingLog]
  refine congrArg _ (List.filter_congr fun key _ => ?_)
  rw [Bool.eq_iff_iff, decide_eq_true_iff, Fields.Lacks]
  simp [Property.mayBeAbsent]

/-- A missing key is reported as often as it is listed. -/
theorem Check.count_missing (span : Span) (key : String) :
    (missingLog keys fields members span).findings.count ⟨.missingProperty key, span.head⟩ =
      if fields.Lacks members key then keys.count key else 0 := by
  have hinj : Function.Injective fun key => (⟨.missingProperty key, span.head⟩ : Finding) := by
    intro key key' h
    cases h
    rfl
  rw [findings_missingLog_eq, List.count_map_of_injective _ _ hinj]
  by_cases h : fields.Lacks members key
  · rw [if_pos h, List.count_filter (by simpa using h)]
  · rw [if_neg h, List.count_eq_zero]
    simp [h]

/-- Each key that is lacking is reported once where none of them is listed twice, and only there. -/
theorem Check.once_missing_iff (span : Span) :
    (∀ key ∈ keys, fields.Lacks members key →
      (missingLog keys fields members span).findings.count ⟨.missingProperty key, span.head⟩ = 1) ↔
    (keys.filter fun key => fields.Lacks members key).Nodup := by
  rw [List.nodup_iff_count_eq_one]
  refine forall_congr' fun key => ?_
  rw [List.mem_filter, decide_eq_true_iff, and_imp, count_missing]
  refine forall_congr' fun hkey => forall_congr' fun h => ?_
  rw [if_pos h, List.count_filter (by simpa using h)]

end Missing

/-- **What is said of declared keys is said once for each listing**, whatever the list, the properties
under the keys and the object. Each key that the object lacks is reported as often as it is listed, at
the head of the object, and no other is; what else is found is found about a member. Where fields are
described, they are the listed keys in a row. So a key that is lacking is reported once, and a declared
key is described once, if and only if they are not listed twice. -/
theorem said_per_listing [CustomCheck ε] (keys : List String) :
    (∀ values : String → Property (Schema ε),
      ∃ fields : Fields (Schema ε), ∀ key ∈ keys, fields.property key = values key) ∧
    ∀ (fields : Fields (Schema ε)) (env : Environment ε) (fuel : Nat) (sc : Scope) (span : Span)
      (slot : Option (List Expectation)) (members : List (Member Node)),
      let o := check env (fuel + 1) (.object (.fixed keys fields)) sc ⟨span, slot, .object members⟩
      let missed (key : String) : Finding := ⟨.missingProperty key, span.head⟩
      (∃ missing rest, o.log.findings = missing ++ rest ∧
        (∀ f ∈ missing, ∃ key ∈ keys, fields.Lacks members key ∧ f = missed key) ∧
        (∀ key, missing.count (missed key) =
          if fields.Lacks members key then keys.count key else 0) ∧
        ((∀ key ∈ keys, fields.Lacks members key → missing.count (missed key) = 1) ↔
          (keys.filter fun key => fields.Lacks members key).Nodup) ∧
        ∀ f ∈ rest, ∃ m ∈ members, ∃ key, m.key = some key ∧
          (f = ⟨.unknownProperty key.text, key.span⟩ ∨
            f = ⟨.deprecatedProperty key.text, key.span⟩ ∨
            f ∈ (check env fuel (fields.property key.text).schema
              (Check.propertyScope (fields.property key.text) key.text sc)
              (Check.valueOrNull key m)).log.findings)) ∧
      (sc.Describes env.settings → ∃ e described, o.node.expectation = some [e] ∧
        e.fields = some described ∧ described.map (·.key) = keys ∧
        ((∀ key ∈ keys, (described.map (·.key)).count key = 1) ↔ keys.Nodup)) := by
  refine ⟨Fields.exists_property_eq keys, ?_⟩
  intro fields env fuel sc span slot members o missed
  have hfound : o.log.findings =
      (Check.checkObject env (check env fuel) (.fixed keys fields) sc
        ⟨span, slot, .object members⟩).log.findings := rfl
  have hmembers : (⟨span, slot, .object members⟩ : Node).members? = some members := rfl
  constructor
  · refine ⟨(Check.missingLog keys fields members span).findings,
      members.flatMap fun m =>
        (Check.checkDeclared env (check env fuel) keys fields sc m).2.findings,
      hfound.trans (Check.findings_checkObject_fixed hmembers keys fields), ?_,
      Check.count_missing span, Check.once_missing_iff span, ?_⟩
    · intro f hf
      rw [Check.findings_missingLog_eq] at hf
      obtain ⟨key, hkey, rfl⟩ := List.mem_map.mp hf
      obtain ⟨hlisted, hlacks⟩ := List.mem_filter.mp hkey
      exact ⟨key, hlisted, of_decide_eq_true hlacks, rfl⟩
    · intro f hf
      obtain ⟨m, hm, hfound⟩ := List.mem_flatMap.mp hf
      obtain ⟨key, hkey, hcause⟩ := Check.mem_findings_checkDeclared.mp hfound
      refine ⟨m, hm, key, hkey, ?_⟩
      rcases hcause with ⟨-, h⟩ | ⟨-, -, h⟩ | ⟨-, h⟩
      · exact Or.inl h
      · exact Or.inr (Or.inl h)
      · exact Or.inr (Or.inr h)
  · intro hdescribes
    refine ⟨_, _, Check.expectation_checkObject _,
      Check.fields_describeShape hdescribes keys fields, ?_⟩
    rw [List.map_map, List.nodup_iff_count_eq_one]
    have hkeys : keys.map ((·.key) ∘ fun key => Check.fieldOf key (fields.property key)
        (Check.describe (check env fuel) (fields.property key).schema sc)) = keys := List.map_id' _
    rw [hkeys]
    exact ⟨rfl, Iff.rfl⟩

/-- An object of one required key that is listed twice. -/
def listedTwice : Schema Picker := .object (.fixed ["a", "a"] ⟨[], ⟨.scalar .string, none⟩⟩)

/-- An empty object is told twice that it lacks the key, and has two fields for it. -/
theorem said_listedTwice :
    let u : Setup Picker := {}
    let t : Node := ⟨⟨0, 2⟩, none, .object []⟩
    let o := check u.toEnvironment 3 listedTwice { path := "" } t
    u.Validates listedTwice "" t o ∧
      o.log.findings = [⟨.missingProperty "a", ⟨0, 1⟩⟩, ⟨.missingProperty "a", ⟨0, 1⟩⟩] ∧
      ∃ e described, o.node.expectation = some [e] ∧ e.fields = some described ∧
        described.map (·.key) = ["a", "a"] := by
  intro u t o
  have hends : u.Validates listedTwice "" t o := ⟨3, rfl, by decide⟩
  exact ⟨hends, by decide, _, _, rfl, rfl, rfl⟩

end DocShape
