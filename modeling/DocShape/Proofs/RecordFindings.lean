import Mathlib.Data.List.Forall2
import Mathlib.Data.List.Nodup
import DocShape.Proofs.Declarations
import DocShape.Proofs.Termination

/-!
# What is found about a record

A check against a record goes through two lists: the declared keys, for those that are missing, and
the members, one after the other. What it finds is exactly that in a row (`findings_of_record`). Each
part hangs on one declaration or on one member alone (`Record.Finds`, `Record.Finds.unique`), so no
finding about a member takes away, repeats or moves a finding about another.

The keys of `Properties` are distinct, which is why a declaration is found by its key and each missing
key is reported once.
-/

namespace DocShape

variable {ε : Type}

namespace Record

/-! ### The parts -/

/-- The findings about the keys of a record that no member has: those that are neither optional nor
deprecated, in order of declaration. -/
def missing (r : Record (Schema ε)) (members : List (Member Node)) (span : Span) : List Finding :=
  (r.entries.filter fun row =>
      !(Member.keys members).contains row.1 && !row.2.isOptional && !row.2.isDeprecated).map
    fun row => ⟨.missingProperty row.1, span.head⟩

/-- What is found about one member of an object by a record. -/
inductive Finds [CustomCheck ε] (env : Environment ε) (r : Record (Schema ε)) (sc : Scope) :
    Member Node → List Finding → Prop
  /-- Nothing about a member that has no key yet. -/
  | keyless (value : Option Node) : Finds env r sc ⟨none, value⟩ []
  /-- That the key is unknown, if it is. -/
  | unknown {key : Key} (value : Option Node) (h : key.text ∉ r.keys) :
    Finds env r sc ⟨some key, value⟩ [⟨.unknownProperty key.text, key.span⟩]
  /-- That the key is deprecated, if it is, and then what a check of the value alone finds; where
  there is no value yet, that of a null node at the end of the key. -/
  | declared {key : Key} {value : Option Node} {p : Property (Schema ε)} {o : Outcome}
    (h : (key.text, p) ∈ r.entries)
    (hvalue : env.Ends p.schema (Check.propertyScope p key.text sc)
      (value.getD (Node.null (.point key.span.stop))) o) :
    Finds env r sc ⟨some key, value⟩
      ((if p.isDeprecated then [⟨.deprecatedProperty key.text, key.span⟩] else []) ++
        o.log.findings)

/-- A key is declared where it has a row. -/
theorem mem_keys_of_mem_entries {r : Record (Schema ε)} {key : String} {p : Property (Schema ε)}
    (h : (key, p) ∈ r.entries) : key ∈ r.keys :=
  List.mem_map_of_mem (f := (·.1)) h

/-- What is found about a member hangs on the member, the record and the scope alone. -/
theorem Finds.unique [CustomCheck ε] [Picking ε] {env : Environment ε} {r : Record (Schema ε)}
    (hr : r.keys.Nodup) {sc : Scope} {m : Member Node} {found found' : List Finding}
    (h : r.Finds env sc m found) (h' : r.Finds env sc m found') : found = found' := by
  cases h with
  | keyless value => cases h' with
    | keyless => rfl
  | unknown value hkey => cases h' with
    | unknown => rfl
    | declared hrow _ => exact absurd (mem_keys_of_mem_entries hrow) hkey
  | declared hrow hvalue => cases h' with
    | unknown _ hkey => exact absurd (mem_keys_of_mem_entries hrow) hkey
    | declared hrow' hvalue' =>
      cases List.inj_on_of_nodup_map hr hrow hrow' rfl
      rw [hvalue.unique hvalue']

/-! ### The check of a record -/

/-- The fields of a record as a shape has them: a row for each key, and anything under others. -/
def fields (r : Record (Schema ε)) : Fields (Schema ε) := ⟨r.entries, ⟨.anything, none⟩⟩

/-- A deprecated key that is used is reported once. -/
theorem findings_deprecationLog (p : Property (Schema ε)) (key : Key) :
    (Check.deprecationLog p key).findings =
      if p.isDeprecated then [⟨.deprecatedProperty key.text, key.span⟩] else [] := by
  rw [Check.deprecationLog, apply_ite Log.findings]
  rfl

section Distinct

variable {r : Record (Schema ε)} (hr : r.keys.Nodup)

include hr

/-- The property of a key is that of its row. -/
theorem property_fields {key : String} {p : Property (Schema ε)} (h : (key, p) ∈ r.entries) :
    r.fields.property key = p := by
  have hrow : r.entries.lookup key = some p := by
    obtain ⟨before, behind, hsplit⟩ := List.append_of_mem h
    rw [List.lookup_eq_some_iff]
    refine ⟨before, behind, hsplit, fun row hrow => ?_⟩
    have hne : row.1 ≠ key := by
      rintro rfl
      rw [Table.keys, hsplit, List.map_append, List.nodup_append] at hr
      exact hr.2.2 row.1 (List.mem_map_of_mem hrow) row.1 (by simp) rfl
    simpa using Ne.symm hne
  rw [fields, Fields.property, hrow, Option.getD_some]

/-- The keys that a check reports as missing are those of the rows that are. -/
theorem findings_missingLog (members : List (Member Node)) (span : Span) :
    (Check.missingLog r.keys r.fields members span).findings = r.missing members span := by
  rw [Check.missingLog, missing, Table.keys, List.filter_map, List.map_map]
  refine congrArg _ (List.filter_congr fun row hrow => ?_)
  rw [Function.comp_apply, property_fields hr hrow, Property.mayBeAbsent, Bool.not_or,
    Bool.and_assoc]

/-- What a check finds about a member, if it comes to the end of the check of the value. -/
theorem finds_checkDeclared [CustomCheck ε] {env : Environment ε} {fuel : Nat} {sc : Scope}
    {m : Member Node}
    (hfinished : ∀ key, m.key = some key → key.text ∈ r.keys →
      (check env fuel (r.fields.property key.text).schema
        (Check.propertyScope (r.fields.property key.text) key.text sc)
        (Check.valueOrNull key m)).log.finished = true) :
    r.Finds env sc m
      (Check.checkDeclared env (check env fuel) r.keys r.fields sc m).2.findings := by
  obtain ⟨_ | key, value⟩ := m
  · exact .keyless value
  · by_cases hkey : key.text ∈ r.keys
    · obtain ⟨⟨_, p⟩, hrow, rfl⟩ := List.mem_map.mp hkey
      have hp : r.fields.property key.text = p := property_fields hr hrow
      have hvalue := hfinished key rfl hkey
      rw [Check.checkDeclared_of_mem hkey, Check.checkProperty, Log.findings_append,
        findings_deprecationLog]
      rw [hp] at hvalue ⊢
      exact .declared hrow ⟨fuel, rfl, hvalue⟩
    · rw [Check.checkDeclared_of_not_mem hkey]
      exact .unknown value hkey

end Distinct

end Record

/-- What is found about an object of declared keys: that keys are missing, and then what is found
about each member. -/
theorem Check.findings_checkObject_fixed {env : Environment ε} {run : Run ε} {sc : Scope} {t : Node}
    {members : List (Member Node)} (h : t.members? = some members) (keys : List String)
    (fields : Fields (Schema ε)) :
    (checkObject env run (.fixed keys fields) sc t).log.findings =
      (missingLog keys fields members t.span).findings ++
        members.flatMap fun m => (checkDeclared env run keys fields sc m).2.findings := by
  rw [checkObject_of_members h, Log.findings_append, findings_describeShape, List.nil_append,
    checkMembers, Log.findings_append, Log.findings_join, List.map_map, List.flatMap_map]
  rfl

/-- **What is found about a record**: about an object, first the keys that are missing, in order of
declaration, and then what is found about its members, one by one in their order; about any other
node, that it is of the wrong kind. Where no name leads back to itself on one node, the check comes to
its end, if all custom checks pick. -/
theorem findings_of_record [CustomCheck ε] (u : Setup ε) (r : Properties (Schema ε)) (sc : Scope)
    (t : Node) :
    let s : Schema ε := .record r.record
    (∀ o, u.Ends s sc t o →
      (∀ members, t.members? = some members →
        ∃ found, List.Forall₂ (r.record.Finds u.toEnvironment sc) members found ∧
          o.log.findings = r.record.missing members t.span ++ found.flatten) ∧
      (t.members? = none → o.log.findings = [⟨.typeMismatch "object" t.kind.name, t.span⟩])) ∧
    (∀ [Picking ε], Guarded u.schemas → u.Ends s sc t (u.check s sc t)) := by
  intro s
  refine ⟨?_, fun hguard => ⟨_, rfl, finished_check hguard s sc t _ (Nat.le_refl _)⟩⟩
  rintro o ⟨fuel, rfl, hfinished⟩
  cases fuel with
  | zero => cases hfinished
  | succ fuel =>
    let run := check u.toEnvironment fuel
    have hstep : (check u.toEnvironment (fuel + 1) s sc t).log.findings =
        (Check.checkObject u.toEnvironment run (.fixed r.record.keys r.record.fields) sc
          t).log.findings := rfl
    have hobject : (Check.checkObject u.toEnvironment run (.fixed r.record.keys r.record.fields) sc
        t).log.finished = true := Log.finished_right hfinished
    rw [hstep]
    constructor
    · intro members hmembers
      rw [Check.checkObject_of_members hmembers] at hobject
      have hvalues := ((Check.joint_checkMembers_fixed Log.joint_finished _ _ _ _).mp
        (Log.finished_right hobject)).2
      refine ⟨members.map fun m => (Check.checkDeclared u.toEnvironment run r.record.keys
        r.record.fields sc m).2.findings, ?_, ?_⟩
      · rw [List.forall₂_map_right_iff, List.forall₂_same]
        exact fun m hm => Record.finds_checkDeclared r.nodup (hvalues m hm)
      · rw [Check.findings_checkObject_fixed hmembers, Record.findings_missingLog r.nodup,
          List.flatMap_def]
    · intro hmembers
      rw [Check.checkObject_of_none hmembers, Log.findings_append, Check.findings_describeShape]
      rfl

/-- A required, an optional, a deprecated and another required property. -/
def fourProperties : Properties (Schema Empty) := Recipe.properties (.collect [
  ("name", ⟨.scalar .string, none⟩),
  ("size", ⟨.scalar .number, some { optional := true }⟩),
  ("old", ⟨.scalar .number, some { deprecated := true }⟩),
  ("flag", ⟨.scalar .boolean, none⟩)])

/-- An object without a flag: it has a value without a key, an unknown key, an old key with a text,
and the name twice, first without a value and then with a number. -/
def mixedObject : Node :=
  ⟨⟨0, 60⟩, some [.any], .object
    [⟨none, some (.null ⟨1, 5⟩)⟩, ⟨some ⟨"shape", ⟨7, 14⟩, none⟩, some (.null ⟨16, 20⟩)⟩,
      ⟨some ⟨"old", ⟨22, 27⟩, none⟩, some (.string "x" ⟨29, 32⟩)⟩,
      ⟨some ⟨"name", ⟨34, 40⟩, none⟩, none⟩,
      ⟨some ⟨"name", ⟨42, 48⟩, none⟩, some ⟨⟨50, 51⟩, some [.string], .number ⟨0⟩⟩⟩]⟩

/-- The object lacks its flag and is told so first; its members follow in their order. -/
theorem findings_mixedObject :
    let u : Setup Empty := {}
    let s : Schema Empty := .record fourProperties.record
    let o := u.check s {} mixedObject
    Guarded u.schemas ∧ u.Ends s {} mixedObject o ∧
      (∃ members found, mixedObject.members? = some members ∧
        List.Forall₂ (fourProperties.record.Finds u.toEnvironment {}) members found ∧
        o.log.findings =
          fourProperties.record.missing members mixedObject.span ++ found.flatten) ∧
      o.log.findings = [
        ⟨.missingProperty "flag", ⟨0, 1⟩⟩, ⟨.unknownProperty "shape", ⟨7, 14⟩⟩,
        ⟨.deprecatedProperty "old", ⟨22, 27⟩⟩, ⟨.typeMismatch "number" "string", ⟨29, 32⟩⟩,
        ⟨.typeMismatch "string" "null", ⟨40, 40⟩⟩, ⟨.typeMismatch "string" "number", ⟨50, 51⟩⟩] := by
  intro u s o
  have hguard : Guarded u.schemas := guarded_nil
  obtain ⟨hcheck, hends⟩ := findings_of_record u fourProperties {} mixedObject
  have ho : u.Ends s {} mixedObject o := hends hguard
  obtain ⟨found, hfound⟩ := (hcheck o ho).1 _ rfl
  -- two units of fuel are enough, so the findings are those of a run with as many
  have htwo : u.Ends s {} mixedObject (check u.toEnvironment 2 s {} mixedObject) :=
    ⟨2, rfl, by decide⟩
  refine ⟨hguard, ho, ⟨_, found, rfl, hfound⟩, ?_⟩
  rw [ho.unique htwo]
  decide

end DocShape
