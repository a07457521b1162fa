import Mathlib.Data.List.Forall2
import DocShape.Schema.Basic

/-!
# Values with and without their namespace

A discriminating value may carry the default namespace. A case table takes it off the value and looks
for what is left among the names of its cases as they are written (`CaseTable.recordFor_only`); a
choice by allowed names takes it off on both sides (`recordAmong_singleton`). For a name that does not
carry the namespace itself the two come to the same, value by value. For a name that does they never
agree that a value is the one (`same_values_iff`): the case is found only under a value that carries the
namespace twice.
-/

namespace DocShape

/-! ### Namespaces in front of values -/

/-- A value with a namespace in front. -/
def qualify (space value : String) : String := space ++ ":" ++ value

/-- A value has a namespace in front. -/
def Carries (space value : String) : Prop := ∃ bare, value = qualify space bare

section Space

variable {space value name : String}

theorem toList_qualify (space value : String) :
    (qualify space value).toList = (space.toList ++ [':']) ++ value.toList := by
  rw [qualify, String.toList_append, String.toList_append]
  rfl

/-- A value with the namespace in front is another one. -/
theorem qualify_ne (space value : String) : qualify space value ≠ value := by
  intro h
  have hlength := congrArg List.length (congrArg String.toList h)
  rw [toList_qualify, List.length_append, List.length_append, List.length_singleton] at hlength
  omega

/-- A namespace in front is taken off. -/
theorem dropNamespace_qualify (space bare : String) :
    dropNamespace (qualify space bare) space = bare := by
  have hfront : (space.toList ++ [':']).isPrefixOf (qualify space bare).toList = true := by
    rw [List.isPrefixOf_iff_prefix, toList_qualify]
    exact List.prefix_append _ _
  simp only [dropNamespace, if_pos hfront]
  rw [toList_qualify, List.drop_left, String.ofList_toList]

/-- Without the namespace in front, nothing is taken off. -/
theorem dropNamespace_of_not_carries (h : ¬ Carries space value) :
    dropNamespace value space = value := by
  simp only [dropNamespace]
  refine if_neg fun hfront => h ?_
  obtain ⟨rest, hrest⟩ := List.isPrefixOf_iff_prefix.mp hfront
  refine ⟨String.ofList rest, String.toList_inj.mp ?_⟩
  rw [toList_qualify, String.toList_ofList, hrest]

/-- What comes to a name is that name with the namespace in front, or the name itself where it does
not carry the namespace. -/
theorem dropNamespace_eq_iff :
    dropNamespace value space = name ↔
      value = qualify space name ∨ value = name ∧ ¬ Carries space name := by
  constructor
  · rintro rfl
    by_cases h : Carries space value
    · obtain ⟨bare, rfl⟩ := h
      rw [dropNamespace_qualify]
      exact Or.inl rfl
    · rw [dropNamespace_of_not_carries h]
      exact Or.inr ⟨rfl, h⟩
  · rintro (rfl | ⟨rfl, h⟩)
    · exact dropNamespace_qualify space name
    · exact dropNamespace_of_not_carries h

/-- Nothing is taken off exactly where the namespace is not in front. -/
theorem dropNamespace_eq_self_iff : dropNamespace value space = value ↔ ¬ Carries space value := by
  rw [dropNamespace_eq_iff, or_iff_right (qualify_ne space value).symm, and_iff_right rfl]

/-- Values are told apart with the namespace in front, too. -/
theorem qualify_inj {other : String} : qualify space value = qualify space other ↔ value = other := by
  refine ⟨fun h => ?_, congrArg (qualify space)⟩
  rw [← dropNamespace_qualify space value, h, dropNamespace_qualify]

end Space

variable {σ : Type}

/-! ### Cases -/

/-- A record has the properties of another one, each documented under a name and otherwise as it
was. -/
def Record.DocumentedAs (name : String) (r p : Record σ) : Prop :=
  List.Forall₂ (fun row row' => row.1 = row'.1 ∧ row.2.schema = row'.2.schema ∧
    row.2.docPath? = some name ∧ row.2.isOptional = row'.2.isOptional ∧
    row.2.isDeprecated = row'.2.isDeprecated) r.entries p.entries

/-- Another documentation path leaves all else as it was. -/
theorem Record.documentedAs_mark (name : String) (p : Record σ) :
    DocumentedAs name (Record.mark p (.docPath name)) p := by
  obtain ⟨rows⟩ := p
  unfold DocumentedAs Record.mark Table.map
  rw [List.forall₂_map_left_iff, List.forall₂_same]
  rintro ⟨key, schema, _ | marks⟩ - <;> exact ⟨rfl, rfl, rfl, rfl, rfl⟩

/-- An empty record does not have the properties of one that has some. -/
theorem Record.not_documentedAs_nil {p : Record σ} (hp : p.entries ≠ []) (name : String) :
    ¬ DocumentedAs name ⟨[]⟩ p := by
  intro h
  exact hp (List.forall₂_nil_left_iff.mp h)

/-- The table of a single case, with the default namespace. -/
def CaseTable.only (name : String) (p : Record σ) : CaseTable σ where
  records := .ofList [(name, p)]

/-- A single case is found under its name as it is written, the namespace being taken off the value
alone. -/
theorem CaseTable.find?_only (name : String) (p : Record σ) (value : String) :
    (only name p).find? value =
      if dropNamespace value commonNamespace = name then some (name, p) else none := by
  have hget : (only name p).records.get? (dropNamespace value commonNamespace) =
      if dropNamespace value commonNamespace = name then some p else none :=
    Table.get?_insert ⟨[]⟩ name _ p
  have hfind : (only name p).find? value =
      ((only name p).records.get? (dropNamespace value commonNamespace)).map
        (dropNamespace value commonNamespace, ·) := rfl
  rw [hfind, hget]
  by_cases h : dropNamespace value commonNamespace = name
  · rw [if_pos h, if_pos h, h]
    rfl
  · rw [if_neg h, if_neg h]
    rfl

theorem CaseTable.recordFor_only (name : String) (p : Record σ) (value : String) :
    (only name p).recordFor (some value) =
      if dropNamespace value commonNamespace = name then Record.mark p (.docPath name)
      else ⟨[]⟩ := by
  rw [recordFor, Option.bind_some, find?_only]
  by_cases h : dropNamespace value commonNamespace = name
  · rw [if_pos h, if_pos h]
  · rw [if_neg h, if_neg h]

section Picked

variable {name value : String} {p : Record σ} (hp : p.entries ≠ [])

include hp

/-- The properties of a single case are given to the values that come to its name. -/
theorem CaseTable.documentedAs_only_iff :
    Record.DocumentedAs name ((only name p).recordFor (some value)) p ↔
      dropNamespace value commonNamespace = name := by
  rw [recordFor_only]
  by_cases h : dropNamespace value commonNamespace = name
  · rw [if_pos h]
    exact iff_of_true (Record.documentedAs_mark name p) h
  · rw [if_neg h]
    exact iff_of_false (Record.not_documentedAs_nil hp name) h

/-- No properties are given to the others. -/
theorem CaseTable.recordFor_only_eq_nil_iff :
    (only name p).recordFor (some value) = ⟨[]⟩ ↔
      dropNamespace value commonNamespace ≠ name := by
  rw [recordFor_only]
  by_cases h : dropNamespace value commonNamespace = name
  · rw [if_pos h]
    refine iff_of_false (fun hnil => ?_) (not_not_intro h)
    have hdocumented := Record.documentedAs_mark name p
    rw [hnil] at hdocumented
    exact Record.not_documentedAs_nil hp name hdocumented
  · rw [if_neg h]
    exact iff_of_true rfl h

end Picked

/-! ### Allowed names -/

/-- A single name is allowed if it is the value, the namespace being taken off both. -/
theorem recordAmong_singleton (name value : String) (yes no : Record σ) :
    recordAmong (some value) [name] yes no =
      if dropNamespace value commonNamespace = dropNamespace name commonNamespace then yes
      else no := by
  simp only [recordAmong, List.map_cons, List.map_nil, List.contains_iff_mem, List.mem_singleton]

section Chosen

variable {name value : String} {p : Record σ} (hp : p.entries ≠ [])

include hp

/-- The first record is chosen, whatever the two are, where the value is the allowed name. -/
theorem forall_recordAmong_eq_yes_iff :
    (∀ yes no : Record σ, recordAmong (some value) [name] yes no = yes) ↔
      dropNamespace value commonNamespace = dropNamespace name commonNamespace := by
  simp only [recordAmong_singleton]
  constructor
  · intro h
    by_contra hne
    have hnil := h p ⟨[]⟩
    rw [if_neg hne] at hnil
    exact hp (congrArg Table.entries hnil).symm
  · exact fun h yes no => if_pos h

/-- The second one is chosen, whatever the two are, where the value is another one. -/
theorem forall_recordAmong_eq_no_iff :
    (∀ yes no : Record σ, recordAmong (some value) [name] yes no = no) ↔
      dropNamespace value commonNamespace ≠ dropNamespace name commonNamespace := by
  simp only [recordAmong_singleton]
  constructor
  · intro h heq
    have hnil := h p ⟨[]⟩
    rw [if_pos heq] at hnil
    exact hp (congrArg Table.entries hnil)
  · exact fun h yes no => if_neg h

end Chosen

/-! ### Cases and allowed names -/

/-- **A case and an allowed name of the same spelling.** The properties of a single case are given to a
value that is the name once the namespace is taken off the value; the same name as the only one allowed
stands for a value that is the same once the namespace is taken off both. So if the name does not carry
the namespace, the case is found exactly where the name is allowed, and no properties are given exactly
where it is not. If it does, the case is found only under a value that carries the namespace once more,
which is not allowed; and what is allowed, the name itself and what is behind its namespace, finds no
case. -/
theorem same_values_iff (name : String) {p : Record σ} (hp : p.entries ≠ []) (value : String) :
    let picked := (CaseTable.only name p).recordFor (some value)
    let allowed := ∀ yes no : Record σ, recordAmong (some value) [name] yes no = yes
    let refused := ∀ yes no : Record σ, recordAmong (some value) [name] yes no = no
    (Record.DocumentedAs name picked p ↔ dropNamespace value commonNamespace = name) ∧
    (picked = ⟨[]⟩ ↔ dropNamespace value commonNamespace ≠ name) ∧
    (allowed ↔ dropNamespace value commonNamespace = dropNamespace name commonNamespace) ∧
    (refused ↔ dropNamespace value commonNamespace ≠ dropNamespace name commonNamespace) ∧
    (¬ Carries commonNamespace name →
      (Record.DocumentedAs name picked p ↔ allowed) ∧ (picked = ⟨[]⟩ ↔ refused)) ∧
    (Carries commonNamespace name →
      (Record.DocumentedAs name picked p ↔ value = qualify commonNamespace name) ∧
      (allowed ↔ value = name ∨
        name = qualify commonNamespace value ∧ ¬ Carries commonNamespace value) ∧
      (Record.DocumentedAs name picked p → refused) ∧ (allowed → picked = ⟨[]⟩)) := by
  intro picked allowed refused
  have hpicked : Record.DocumentedAs name picked p ↔ dropNamespace value commonNamespace = name :=
    CaseTable.documentedAs_only_iff hp
  have hnothing : picked = ⟨[]⟩ ↔ dropNamespace value commonNamespace ≠ name :=
    CaseTable.recordFor_only_eq_nil_iff hp
  have hallowed : allowed ↔
      dropNamespace value commonNamespace = dropNamespace name commonNamespace :=
    forall_recordAmong_eq_yes_iff hp
  have hrefused : refused ↔
      dropNamespace value commonNamespace ≠ dropNamespace name commonNamespace :=
    forall_recordAmong_eq_no_iff hp
  refine ⟨hpicked, hnothing, hallowed, hrefused, ?_, ?_⟩
  · intro hname
    rw [hallowed, hrefused, dropNamespace_of_not_carries hname]
    exact ⟨hpicked, hnothing⟩
  · rintro ⟨bare, rfl⟩
    rw [hpicked, hnothing, hallowed, hrefused, dropNamespace_qualify]
    refine ⟨?_, ?_, ?_, ?_⟩
    · rw [dropNamespace_eq_iff]
      exact or_iff_left fun h => h.2 ⟨bare, rfl⟩
    · rw [dropNamespace_eq_iff, qualify_inj, eq_comm (a := bare)]
      refine or_congr_right (and_congr_right fun h => ?_)
      rw [h]
    · intro h
      rw [h]
      exact qualify_ne commonNamespace bare
    · intro h
      rw [h]
      exact (qualify_ne commonNamespace bare).symm

/-- The properties of a stone. -/
def stone : Record (Schema Empty) := .ofList [("hardness", ⟨.scalar .number, none⟩)]

/-- A stone is found and allowed under its name with the namespace in front. -/
theorem same_values_stone :
    stone.entries ≠ [] ∧
      Record.DocumentedAs "stone" ((CaseTable.only "stone" stone).recordFor (some "minecraft:stone"))
        stone ∧
      ∀ yes no : Record (Schema Empty), recordAmong (some "minecraft:stone") ["stone"] yes no = yes := by
  have hp : stone.entries ≠ [] := List.cons_ne_nil _ _
  have hvalue : dropNamespace "minecraft:stone" commonNamespace = "stone" := by decide
  have hname : ¬ Carries commonNamespace "stone" := dropNamespace_eq_self_iff.mp (by decide)
  obtain ⟨hpicked, -, -, -, hsame, -⟩ := same_values_iff "stone" hp "minecraft:stone"
  have hdocumented := hpicked.mpr hvalue
  exact ⟨hp, hdocumented, (hsame hname).1.mp hdocumented⟩

/-- If its name is written with the namespace, a stone is allowed under that name, but not found. -/
theorem not_same_values_qualifiedStone :
    let name := "minecraft:stone"
    let picked := (CaseTable.only name stone).recordFor (some name)
    let allowed := ∀ yes no : Record (Schema Empty), recordAmong (some name) [name] yes no = yes
    let refused := ∀ yes no : Record (Schema Empty), recordAmong (some name) [name] yes no = no
    stone.entries ≠ [] ∧ picked = ⟨[]⟩ ∧ allowed ∧
      ¬ (Record.DocumentedAs name picked stone ↔ allowed) ∧ ¬ (picked = ⟨[]⟩ ↔ refused) := by
  intro name picked allowed refused
  have hp : stone.entries ≠ [] := List.cons_ne_nil _ _
  have hpicked : picked = ⟨[]⟩ := (CaseTable.recordFor_only_eq_nil_iff hp).mpr (by decide)
  have hallowed : allowed := (forall_recordAmong_eq_yes_iff hp).mpr rfl
  refine ⟨hp, hpicked, hallowed, ?_, ?_⟩
  · intro h
    have hdocumented := h.mpr hallowed
    rw [hpicked] at hdocumented
    exact Record.not_documentedAs_nil hp name hdocumented
  · intro h
    have hrefused := h.mp hpicked
    exact (forall_recordAmong_eq_no_iff hp).mp hrefused rfl

end DocShape
