import DocShape.Schema.Parts
import DocShape.Proofs.Content

/-!
# What a selection comes to

A selector reads the content of a node and nothing else (`Selector.choose_clear`). What it chooses
is one of the schemas that it may hand the node on to, or else an object made of properties that it
holds (`Selector.choose_cases`). It finds a fault only where an object has none of the markers of a
marker table (`Selector.errors_choose_eq_zero_iff`), finds nothing else
(`Selector.isUndecided_of_mem`), and runs nothing (`Selector.course_choose`).
-/

namespace DocShape

/-- The schemas that a selector may hand its node on to, besides the objects that it makes of
records. -/
def Selector.openSchemas {σ : Type} : Selector σ → List σ
  | .record _ => []
  | .byValue rows absent otherwise => absent :: otherwise :: rows.map (·.2)
  | .byKind rows otherwise => otherwise :: rows.map (·.2)
  | .sibling _ next => next.openSchemas

/-- The keys of a record with their schemas. -/
def Record.rows {σ : Type} (r : Record σ) : List (String × σ) :=
  r.entries.map fun entry => (entry.1, entry.2.schema)

/-- The keys of an open record, of every case and marker, with their schemas. -/
def OpenRecord.rows {σ : Type} : OpenRecord σ → List (String × σ)
  | .fixed record => Record.rows record
  | .merged first second | .ifAmong _ first second => first.rows ++ second.rows
  | .byCase cases => cases.records.entries.flatMap fun entry => Record.rows entry.2
  | .byMarker markers => markers.entries.flatMap fun entry => Record.rows entry.2.record
  | .marked _ inner => inner.rows

/-- The keys of an open record, of every case and marker. -/
def OpenRecord.keys {σ : Type} (properties : OpenRecord σ) : List String :=
  properties.rows.map (·.1)

/-- The keys of the record that a selector settles, if it does. -/
def Selector.keys {σ : Type} : Selector σ → List String
  | .record properties => properties.keys
  | .byValue .. | .byKind .. => []
  | .sibling _ next => next.keys

/-- Whether a node that is an object has a marker of every marker table. -/
def OpenRecord.MarkedOn {σ : Type} (t : Node) : OpenRecord σ → Prop
  | .fixed _ | .byCase _ => True
  | .merged first second => first.MarkedOn t ∧ second.MarkedOn t
  | .ifAmong _ yes no => yes.MarkedOn t ∧ no.MarkedOn t
  | .byMarker markers => ∀ members, t.members? = some members →
      ∃ marker ∈ markers.keys, marker ∈ Member.keys members
  | .marked _ inner => inner.MarkedOn t

/-- Whether a node that is an object has a marker of every marker table that is asked. -/
def Selector.MarkedOn {σ : Type} (t : Node) : Selector σ → Prop
  | .record properties => properties.MarkedOn t
  | .byValue .. | .byKind .. => True
  | .sibling _ next => next.MarkedOn t

variable {σ : Type}

/-! ### Content alone -/

/-- The record of a marker hangs on the content of the node. -/
theorem MarkerTable.settle_clear (markers : MarkerTable σ) (t : Node) :
    MarkerTable.settle markers t.clear = MarkerTable.settle markers t := by
  unfold MarkerTable.settle
  rw [Node.members?_clear]
  cases t.members? with
  | none => rfl
  | some members =>
    simp only [Option.map_some, Node.keys_clearMember, Node.span_clear]

/-- What an open record comes to hangs on the content of the node. -/
theorem OpenRecord.settle_clear (value : Option String) (t : Node) (properties : OpenRecord σ) :
    properties.settle value t.clear = properties.settle value t := by
  induction properties with
  | fixed _ | byCase _ => rfl
  | merged first second ih₁ ih₂ => rw [settle, settle, ih₁, ih₂]
  | ifAmong allowed yes no ih₁ ih₂ => rw [settle, settle, ih₁, ih₂]
  | byMarker markers => exact MarkerTable.settle_clear markers t
  | marked mark inner ih => rw [settle, settle, ih]

/-- Which schema is selected hangs on the content of the node. -/
theorem Selector.choose_clear (ofRecord : Record σ → σ) (t : Node) (selector : Selector σ)
    (value : Option String) :
    selector.choose ofRecord t.clear value = selector.choose ofRecord t value := by
  induction selector generalizing value with
  | record properties => cases value <;> simp only [choose, OpenRecord.settle_clear]
  | byValue rows absent otherwise => cases value <;> rfl
  | byKind rows otherwise => cases value <;> simp only [choose, Node.kind_clear]
  | sibling key next ih => cases value <;> simp only [choose, Node.textUnder?_clear, ih]

/-- Nodes of the same content select the same. -/
theorem Selector.choose_congr {t v : Node} (h : v.clear = t.clear) (ofRecord : Record σ → σ)
    (selector : Selector σ) (value : Option String) :
    selector.choose ofRecord v value = selector.choose ofRecord t value := by
  rw [← choose_clear, h, choose_clear]

/-! ### Where schemas come from -/

/-- A change of marks changes neither keys nor schemas. -/
theorem Record.rows_mark (r : Record σ) (m : Mark) :
    Record.rows (Record.mark r m) = Record.rows r := by
  unfold Record.rows Record.mark Table.map
  rw [List.map_map]
  rfl

/-- The rows of two records in one are rows of either. -/
theorem Record.mem_rows_merge {r₁ r₂ : Record σ} {row : String × σ}
    (h : row ∈ Record.rows (Table.merge r₁ r₂)) : row ∈ Record.rows r₁ ∨ row ∈ Record.rows r₂ := by
  obtain ⟨entry, hentry, rfl⟩ := List.mem_map.mp h
  rcases Table.mem_entries_insertAll hentry with hentry | hentry
  · exact Or.inr (List.mem_map_of_mem hentry)
  · exact Or.inl (List.mem_map_of_mem hentry)

/-- The rows of a case are rows of the table. -/
theorem CaseTable.rows_recordFor {cases : CaseTable σ} {value : Option String} {row : String × σ}
    (h : row ∈ Record.rows (cases.recordFor value)) : row ∈ (OpenRecord.byCase cases).rows := by
  unfold recordFor at h
  cases hfind : value.bind cases.find? with
  | none =>
    rw [hfind] at h
    cases h
  | some found =>
    obtain ⟨text, -, hcase⟩ := Option.bind_eq_some_iff.mp hfind
    obtain ⟨record, hget, rfl⟩ := Option.map_eq_some_iff.mp hcase
    rw [hfind] at h
    dsimp only at h
    rw [Record.rows_mark] at h
    exact List.mem_flatMap.mpr ⟨_, Table.mem_entries_of_get? hget, h⟩

/-- What markers offer instead are rows of the table. -/
theorem MarkerTable.rows_fallback {markers : MarkerTable σ} {row : String × σ}
    (h : row ∈ Record.rows (MarkerTable.fallback markers)) :
    row ∈ (OpenRecord.byMarker markers).rows := by
  obtain ⟨offered, hoffered, rfl⟩ := List.mem_map.mp h
  rcases Table.mem_entries_insertAll hoffered with hoffered | hoffered
  · obtain ⟨entry, hentry, hp⟩ := List.mem_filterMap.mp hoffered
    obtain ⟨p, hget, rfl⟩ := Option.map_eq_some_iff.mp hp
    exact List.mem_flatMap.mpr
      ⟨entry, hentry, List.mem_map.mpr ⟨_, Table.mem_entries_of_get? hget, rfl⟩⟩
  · cases hoffered

/-- The rows for a node are rows of the table. -/
theorem MarkerTable.rows_settle {markers : MarkerTable σ} {t : Node} {row : String × σ}
    (h : row ∈ Record.rows (MarkerTable.settle markers t).1) :
    row ∈ (OpenRecord.byMarker markers).rows := by
  unfold MarkerTable.settle at h
  cases hmembers : t.members? with
  | none =>
    rw [hmembers] at h
    exact MarkerTable.rows_fallback h
  | some members =>
    rw [hmembers] at h
    dsimp only at h
    cases hpresent : MarkerTable.present? markers (Member.keys members) with
    | none =>
      rw [hpresent] at h
      exact MarkerTable.rows_fallback h
    | some entry =>
      rw [hpresent] at h
      exact List.mem_flatMap.mpr ⟨entry, List.mem_of_find?_eq_some hpresent, h⟩

/-- The rows of a settled record are rows of the open one. -/
theorem OpenRecord.rows_settle {properties : OpenRecord σ} {value : Option String} {t : Node}
    {row : String × σ} (h : row ∈ Record.rows (properties.settle value t).1) :
    row ∈ properties.rows := by
  induction properties with
  | fixed record => exact h
  | merged first second ih₁ ih₂ =>
    exact List.mem_append.mpr ((Record.mem_rows_merge h).imp ih₁ ih₂)
  | byCase cases => exact CaseTable.rows_recordFor h
  | ifAmong allowed yes no ih₁ ih₂ =>
    cases value with
    | none => cases h
    | some value =>
      simp only [settle, recordAmong] at h
      split at h
      · exact List.mem_append_left _ (ih₁ h)
      · exact List.mem_append_right _ (ih₂ h)
  | byMarker markers => exact MarkerTable.rows_settle h
  | marked mark inner ih =>
    rw [settle, Record.rows_mark] at h
    exact ih h

/-- The schemas of a record are those of its rows. -/
theorem Record.map_rows (r : Record σ) : (Record.rows r).map (·.2) = Record.schemas r := by
  unfold Record.rows Record.schemas
  rw [List.map_map]
  rfl

/-- The schemas of an open record are those of its rows. -/
theorem OpenRecord.map_rows (properties : OpenRecord σ) :
    properties.rows.map (·.2) = properties.schemas := by
  induction properties with
  | fixed record => exact Record.map_rows record
  | merged first second ih₁ ih₂ | ifAmong _ first second ih₁ ih₂ =>
    rw [rows, schemas, List.map_append, ih₁, ih₂]
  | byCase _ | byMarker _ => simp only [rows, schemas, List.map_flatMap, Record.map_rows]
  | marked mark inner ih => exact ih

/-- The schemas of a settled record are schemas of the open one. -/
theorem OpenRecord.schemas_settle {properties : OpenRecord σ} {value : Option String} {t : Node}
    {s : σ} (h : s ∈ Record.schemas (properties.settle value t).1) : s ∈ properties.schemas := by
  rw [← Record.map_rows] at h
  obtain ⟨row, hrow, rfl⟩ := List.mem_map.mp h
  rw [← map_rows]
  exact List.mem_map_of_mem (rows_settle hrow)

/-- The keys of a settled record are keys of the open one. -/
theorem OpenRecord.keys_settle {properties : OpenRecord σ} {value : Option String} {t : Node}
    {key : String} (h : key ∈ Table.keys (properties.settle value t).1) : key ∈ properties.keys := by
  obtain ⟨entry, hentry, rfl⟩ := List.mem_map.mp h
  have hrow := rows_settle (List.mem_map_of_mem hentry)
  exact List.mem_map_of_mem hrow

/-- A looked-up row is the default or one of the list. -/
theorem getD_lookup_mem {α β : Type} [BEq α] (rows : List (α × β)) (key : α) (otherwise : β) :
    (rows.lookup key).getD otherwise ∈ otherwise :: rows.map (·.2) := by
  induction rows with
  | nil => exact List.mem_cons_self
  | cons row rows ih =>
    obtain ⟨key', b⟩ := row
    rw [List.lookup_cons]
    cases key == key' with
    | true => simp
    | false =>
      rcases List.mem_cons.mp ih with h | h
      · exact List.mem_cons.mpr (Or.inl h)
      · exact List.mem_cons_of_mem _ (List.mem_cons_of_mem _ h)

/-- The property of a key is one of the fields'. -/
theorem Fields.property_mem (f : Fields σ) (key : String) :
    (f.property key).schema ∈ f.schemas := by
  rcases List.mem_cons.mp (getD_lookup_mem f.rows key f.otherwise) with h | h
  · exact List.mem_cons.mpr (Or.inl (congrArg Property.schema h))
  · refine List.mem_cons_of_mem _ (List.mem_map.mpr ?_)
    obtain ⟨row, hrow, hp⟩ := List.mem_map.mp h
    exact ⟨row, hrow, congrArg Property.schema hp⟩

/-- What is selected is a schema that the selector may hand on to, or made of a record of its
schemas and keys. -/
theorem Selector.choose_cases (ofRecord : Record σ → σ) (t : Node) (selector : Selector σ)
    (value : Option String) :
    (selector.choose ofRecord t value).1 ∈ selector.openSchemas ∨
    ∃ r, (selector.choose ofRecord t value).1 = ofRecord r ∧
      (∀ s ∈ Record.schemas r, s ∈ selector.schemas) ∧
      ∀ key ∈ Table.keys r, key ∈ selector.keys := by
  induction selector generalizing value with
  | record properties =>
    refine Or.inr ⟨(properties.settle value t).1, ?_, fun s hs => OpenRecord.schemas_settle hs,
      fun key hkey => OpenRecord.keys_settle hkey⟩
    cases value <;> rfl
  | byValue rows absent otherwise =>
    left
    cases value with
    | none => exact List.mem_cons_self
    | some value => exact List.mem_cons_of_mem _ (getD_lookup_mem rows value otherwise)
  | byKind rows otherwise =>
    left
    cases value <;> exact getD_lookup_mem rows t.kind otherwise
  | sibling key next ih =>
    cases value <;> exact ih (t.textUnder? key)

/-- What a selector may hand on to is among its schemas. -/
theorem Selector.mem_schemas_of_mem_open {selector : Selector σ} {s : σ}
    (h : s ∈ selector.openSchemas) : s ∈ selector.schemas := by
  induction selector with
  | record _ => cases h
  | byValue _ _ _ | byKind _ _ => exact h
  | sibling _ next ih => exact ih h

/-! ### Faults -/

/-- Asking for the records of markers finds nothing. -/
theorem MarkerTable.errors_ask (entries : List (String × MarkerRow σ)) :
    (Log.join (entries.map fun entry => ask entry.1 entry.2)).errors = 0 := by
  rw [Log.joint_errors.join_iff]
  intro a ha
  obtain ⟨entry, -, rfl⟩ := List.mem_map.mp ha
  rfl

/-- The record of a marker is found without a fault where a marker is present. -/
theorem MarkerTable.errors_settle_eq_zero_iff (markers : MarkerTable σ) (t : Node) :
    (MarkerTable.settle markers t).2.errors = 0 ↔ (OpenRecord.byMarker markers).MarkedOn t := by
  unfold MarkerTable.settle OpenRecord.MarkedOn
  cases t.members? with
  | none => simp [errors_ask]
  | some members =>
    dsimp only
    cases hpresent : MarkerTable.present? markers (Member.keys members) with
    | none =>
      have habsent : ∀ marker ∈ markers.keys, marker ∉ Member.keys members := by
        intro marker hmarker hmember
        obtain ⟨entry, hentry, rfl⟩ := List.mem_map.mp hmarker
        have := List.find?_eq_none.mp hpresent entry hentry
        exact this (List.contains_iff_mem.mpr hmember)
      constructor
      · intro h
        rw [Log.errors_append, Nat.add_eq_zero_iff] at h
        exact absurd h.1 Nat.one_ne_zero
      · intro h
        obtain ⟨marker, hmarker, hmember⟩ := h members rfl
        exact absurd hmember (habsent marker hmarker)
    | some entry =>
      have hmem := List.mem_of_find?_eq_some hpresent
      unfold MarkerTable.present? at hpresent
      have hfound := List.find?_some hpresent
      constructor
      · intro _ members' h
        cases h
        exact ⟨entry.1, List.mem_map_of_mem hmem, List.contains_iff_mem.mp hfound⟩
      · intro _
        rfl

/-- An open record is settled without a fault where markers are present. -/
theorem OpenRecord.errors_settle_eq_zero_iff (properties : OpenRecord σ) (value : Option String)
    (t : Node) : (properties.settle value t).2.errors = 0 ↔ properties.MarkedOn t := by
  induction properties with
  | fixed _ | byCase _ => exact ⟨fun _ => trivial, fun _ => rfl⟩
  | merged first second ih₁ ih₂ | ifAmong _ first second ih₁ ih₂ =>
    rw [settle, MarkedOn, Log.errors_append, Nat.add_eq_zero_iff, ih₁, ih₂]
  | byMarker markers => exact MarkerTable.errors_settle_eq_zero_iff markers t
  | marked mark inner ih => exact ih

/-- A schema is selected without a fault where markers are present. -/
theorem Selector.errors_choose_eq_zero_iff (ofRecord : Record σ → σ) (t : Node)
    (selector : Selector σ) (value : Option String) :
    (selector.choose ofRecord t value).2.errors = 0 ↔ selector.MarkedOn t := by
  induction selector generalizing value with
  | record properties =>
    cases value <;> exact OpenRecord.errors_settle_eq_zero_iff properties _ t
  | byValue _ _ _ | byKind _ _ => cases value <;> exact ⟨fun _ => trivial, fun _ => rfl⟩
  | sibling key next ih => cases value <;> exact ih _

/-! ### Findings -/

section Findings

variable {t : Node} {f : Finding}

/-- A finding about an object that has none of some markers. -/
def Finding.IsUndecided (t : Node) (f : Finding) : Prop :=
  t.kind = .object ∧ ∃ candidates, f = ⟨.missingDiscriminant candidates, t.span.head⟩

/-- Asking for the records of markers finds nothing. -/
theorem MarkerTable.findings_ask (entries : List (String × MarkerRow σ)) :
    (Log.join (entries.map fun entry => ask entry.1 entry.2)).findings = [] := by
  apply Log.findings_join_eq_nil
  rw [List.forall_mem_map]
  intro entry _
  rfl

/-- The properties for a node are found without more than that an object has none of the markers. -/
theorem MarkerTable.eq_of_mem_findings {markers : MarkerTable σ}
    (h : f ∈ (MarkerTable.settle markers t).2.findings) :
    t.kind = .object ∧ f = ⟨.missingDiscriminant markers.keys, t.span.head⟩ := by
  unfold MarkerTable.settle at h
  cases hmembers : t.members? with
  | none =>
    rw [hmembers] at h
    dsimp only at h
    rw [findings_ask] at h
    cases h
  | some members =>
    rw [hmembers] at h
    dsimp only at h
    cases hpresent : MarkerTable.present? markers (Member.keys members) with
    | some entry =>
      rw [hpresent] at h
      cases h
    | none =>
      rw [hpresent] at h
      dsimp only at h
      rw [Log.findings_append, findings_ask, List.append_nil] at h
      exact ⟨Node.kind_of_members? hmembers, List.mem_singleton.mp h⟩

/-- Settling an open record finds at most that an object has no marker. -/
theorem OpenRecord.isUndecided_of_mem {properties : OpenRecord σ} {value : Option String}
    (h : f ∈ (properties.settle value t).2.findings) : f.IsUndecided t := by
  induction properties with
  | fixed _ | byCase _ => cases h
  | merged first second ih₁ ih₂ | ifAmong _ first second ih₁ ih₂ =>
    rw [settle, Log.findings_append, List.mem_append] at h
    rcases h with h | h
    · exact ih₁ h
    · exact ih₂ h
  | byMarker markers =>
    obtain ⟨hkind, hf⟩ := MarkerTable.eq_of_mem_findings h
    exact ⟨hkind, _, hf⟩
  | marked mark inner ih => exact ih h

/-- Selecting a schema finds at most that an object has no marker. -/
theorem Selector.isUndecided_of_mem {ofRecord : Record σ → σ} {selector : Selector σ}
    {value : Option String} (h : f ∈ (selector.choose ofRecord t value).2.findings) :
    f.IsUndecided t := by
  induction selector generalizing value with
  | record properties => cases value <;> exact OpenRecord.isUndecided_of_mem h
  | byValue _ _ _ | byKind _ _ => cases value <;> cases h
  | sibling key next ih => cases value <;> exact ih h

end Findings

/-! ### Course -/

section Course

variable {Q : Log → Prop} (hQ : Log.Course Q)

include hQ

/-- Settling an open record runs nothing. -/
theorem OpenRecord.course_settle (properties : OpenRecord σ) (value : Option String) (t : Node) :
    Q (properties.settle value t).2 := by
  induction properties with
  | fixed _ | byCase _ => exact hQ.empty
  | merged first second ih₁ ih₂ | ifAmong _ first second ih₁ ih₂ =>
    exact (hQ.append_iff _ _).mpr ⟨ih₁, ih₂⟩
  | byMarker markers =>
    have hasked : Q (Log.join (markers.entries.map fun entry =>
        MarkerTable.ask entry.1 entry.2)) := by
      rw [hQ.join_iff]
      intro a ha
      obtain ⟨entry, -, rfl⟩ := List.mem_map.mp ha
      exact hQ.of_idle rfl rfl
    rw [settle, MarkerTable.settle]
    cases t.members? with
    | none => exact hasked
    | some members =>
      dsimp only
      cases MarkerTable.present? markers (Member.keys members) with
      | none => exact (hQ.append_iff _ _).mpr ⟨hQ.of_idle rfl rfl, hasked⟩
      | some entry => exact hQ.of_idle rfl rfl
  | marked mark inner ih => exact ih

/-- Selecting a schema runs nothing. -/
theorem Selector.course_choose (ofRecord : Record σ → σ) (t : Node) (selector : Selector σ)
    (value : Option String) : Q (selector.choose ofRecord t value).2 := by
  induction selector generalizing value with
  | record properties => cases value <;> exact OpenRecord.course_settle hQ properties _ t
  | byValue _ _ _ | byKind _ _ => cases value <;> exact hQ.empty
  | sibling key next ih => cases value <;> exact ih _

end Course

end DocShape
