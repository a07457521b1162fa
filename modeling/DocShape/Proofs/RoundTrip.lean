import Mathlib.Data.List.Nodup
import DocShape.Written.Expected
import DocShape.Written.Finding
import DocShape.Written.Report

/-!
# What is written is read back

Expectations, diagnostics and causes are written as JSON values with parts left out: an absent part,
a false flag, an empty set of tags. Reading such a value succeeds and gives back what was written
(`json_roundTrip`), so that nothing that is left out is ever taken for something else.

A record whose names are distinct answers for each name with the part written under it, or with
nothing where that part was left out (`Json.get?_ofEntries`). Expectations are nested in each other;
they are read with a number of levels, and each level of a value is flatter than the value
(`Json.depth_lt_arr`, `Json.depth_lt_ofEntries`), so the proof for them goes by induction on that
number (`Expectation.decode_toJson`).
-/

namespace DocShape

namespace Json

/-! ### The parts of a record -/

/-- Among entries with distinct names, each is found under its name. -/
theorem get?_obj_eq_some {entries : List (String × Json)} (hnames : (entries.map (·.1)).Nodup)
    {name : String} {j : Json} (h : (name, j) ∈ entries) : (obj entries).get? name = some j := by
  have hfound : (entries.reverse.find? (·.1 == name)).isSome := by
    rw [List.find?_isSome]
    exact ⟨_, List.mem_reverse.mpr h, beq_self_eq_true name⟩
  obtain ⟨entry, hentry⟩ := Option.isSome_iff_exists.mp hfound
  have hmem := List.mem_reverse.mp (List.mem_of_find?_eq_some hentry)
  have hname : entry.1 = name := by simpa using List.find?_some hentry
  have hsame : entry = (name, j) := List.inj_on_of_nodup_map hnames hmem h hname
  rw [get?, hentry, hsame]
  rfl

/-- Under a name that no entry has, nothing is found. -/
theorem get?_obj_eq_none {entries : List (String × Json)} {name : String}
    (h : name ∉ entries.map (·.1)) : (obj entries).get? name = none := by
  rw [get?, Option.map_eq_none_iff, List.find?_eq_none]
  intro entry hentry hname
  refine h (List.mem_map.mpr ⟨entry, List.mem_reverse.mp hentry, ?_⟩)
  simpa using hname

/-- What is written of a record is the parts that are not left out. -/
theorem mem_written_iff {entries : List (String × Option Json)} {name : String} {j : Json} :
    (name, j) ∈ entries.filterMap (fun (key, value) => value.map (key, ·)) ↔
      (name, some j) ∈ entries := by
  rw [List.mem_filterMap]
  constructor
  · rintro ⟨⟨key, value⟩, hmem, hentry⟩
    obtain ⟨j', rfl, hj⟩ := Option.map_eq_some_iff.mp hentry
    cases hj
    exact hmem
  · intro hmem
    exact ⟨_, hmem, rfl⟩

/-- The names of what is written are some of all names, in their order. -/
theorem names_written_sublist (entries : List (String × Option Json)) :
    List.Sublist ((entries.filterMap fun (key, value) => value.map (key, ·)).map (·.1))
      (entries.map (·.1)) := by
  induction entries with
  | nil => exact List.Sublist.slnil
  | cons entry entries ih =>
    obtain ⟨key, _ | j⟩ := entry
    · exact List.Sublist.cons key ih
    · exact List.Sublist.cons_cons key ih

/-- **A record is read back part by part**: where names are distinct, what is found under a name is
what was to be written there, be it a value or nothing. -/
theorem get?_ofEntries {entries : List (String × Option Json)} (hnames : (entries.map (·.1)).Nodup)
    {name : String} {value : Option Json} (h : (name, value) ∈ entries) :
    (ofEntries entries).get? name = value := by
  cases value with
  | some j =>
    exact get?_obj_eq_some (hnames.sublist (names_written_sublist entries)) (mem_written_iff.mpr h)
  | none =>
    refine get?_obj_eq_none fun hmem => ?_
    obtain ⟨entry, hentry, hname⟩ := List.mem_map.mp hmem
    cases List.inj_on_of_nodup_map hnames (mem_written_iff.mp hentry) h hname

/-- A part that may be left out is read back, if it is read back where it is written, and null is
written for nothing. -/
theorem optional?_map {α : Type} {decode : Json → Option α} {encode : α → Json} {x : Option α}
    (h : ∀ a, x = some a → encode a ≠ .null ∧ decode (encode a) = some a) :
    optional? decode (x.map encode) = some x := by
  cases x with
  | none => rfl
  | some a =>
    obtain ⟨hnull, hread⟩ := h a rfl
    rw [Option.map_some, optional?, hread]
    · rfl
    · exact hnull

/-- A flag that is written only when it is set is read back. -/
theorem withDefault?_flag (flag : Bool) :
    withDefault? false bool? (if flag then some (.bool true) else none) = some flag := by
  cases flag <;> rfl

/-- A list is read back if each of its items is. -/
theorem listOf?_map {α : Type} {decode : Json → Option α} {encode : α → Json} {as : List α}
    (h : ∀ a ∈ as, decode (encode a) = some a) : listOf? decode (.arr (as.map encode)) = some as := by
  have hitems : (as.map encode).mapM decode = some as := by
    induction as with
    | nil => rfl
    | cons a as ih =>
      rw [List.forall_mem_cons] at h
      rw [List.map_cons, List.mapM_cons, h.1, ih h.2]
      rfl
  exact hitems

/-- A list of strings is read back. -/
theorem texts?_ofTexts (texts : List String) : texts? (.ofTexts texts) = some texts :=
  listOf?_map fun _ _ => rfl

/-- A name is read back as the value it was written for, if no other value has it. -/
theorem named?_str {α : Type} {name : α → String} {values : List α} {a : α}
    (h : values.find? (name · == name a) = some a) : named? name values (.str (name a)) = some a :=
  h

/-! ### Depths -/

/-- An item is flatter than the array. -/
theorem depth_lt_arr {items : List Json} {j : Json} (h : j ∈ items) :
    j.depth < (arr items).depth := by
  rw [depth, Nat.lt_succ_iff]
  induction items with
  | nil => cases h
  | cons i items ih =>
    rw [depthOfItems]
    rcases List.mem_cons.mp h with rfl | h
    · exact Nat.le_max_left _ _
    · exact Nat.le_trans (ih h) (Nat.le_max_right _ _)

/-- An entry is flatter than the object. -/
theorem depth_lt_obj {entries : List (String × Json)} {name : String} {j : Json}
    (h : (name, j) ∈ entries) : j.depth < (obj entries).depth := by
  rw [depth, Nat.lt_succ_iff]
  induction entries with
  | nil => cases h
  | cons entry entries ih =>
    rw [depthOfEntries]
    rcases List.mem_cons.mp h with rfl | h
    · exact Nat.le_max_left _ _
    · exact Nat.le_trans (ih h) (Nat.le_max_right _ _)

/-- A part is flatter than the record. -/
theorem depth_lt_ofEntries {entries : List (String × Option Json)} {name : String} {j : Json}
    (h : (name, some j) ∈ entries) : j.depth < (ofEntries entries).depth :=
  depth_lt_obj (mem_written_iff.mpr h)

/-- A list that may be left out is read back, if every item is that is flat enough. -/
theorem optional?_listOf?_map {α : Type} {decode : Json → Option α} {encode : α → Json}
    {levels : Nat} {as : Option (List α)}
    (hread : ∀ a, (encode a).depth ≤ levels → decode (encode a) = some a)
    (hdepth : ∀ j, (as.map fun as => arr (as.map encode)) = some j → j.depth ≤ levels) :
    optional? (listOf? decode) (as.map fun as => arr (as.map encode)) = some as := by
  refine optional?_map fun as' h => ⟨nofun, listOf?_map fun a ha => hread a ?_⟩
  subst h
  have hitem := depth_lt_arr (List.mem_map_of_mem (f := encode) ha)
  exact Nat.le_trans (Nat.le_of_lt hitem) (hdepth _ rfl)

end Json

/-! ### Expectations -/

theorem ExpectedKind.named?_name (kind : ExpectedKind) :
    Json.named? ExpectedKind.name ExpectedKind.all (.str kind.name) = some kind := by
  cases kind <;> exact Json.named?_str (by decide)

/-- The parts of a field as they are written. -/
def Field.writtenParts (f : Field Expectation) : List (String × Option Json) := [
  ("key", some (.str f.key)),
  ("value", Expectation.optionToJson f.value),
  ("optional", if f.optional then some (.bool true) else none),
  ("deprecated", if f.deprecated then some (.bool true) else none)]

/-- A part of a field is found where it is written. -/
theorem Field.get?_toJson (f : Field Expectation) {name : String} {value : Option Json}
    (h : (name, value) ∈ f.writtenParts) : f.toJson.get? name = value := by
  have hnames : (f.writtenParts.map (·.1)).Nodup := by simp [writtenParts]
  exact Json.get?_ofEntries hnames h

namespace Expectation

/-- Expectations are written one by one. -/
theorem listToJson_eq_map : ∀ es : List Expectation, listToJson es = es.map toJson
  | [] => rfl
  | e :: es => by rw [listToJson, listToJson_eq_map es, List.map_cons]

/-- Fields are written one by one. -/
theorem fieldListToJson_eq_map :
    ∀ fs : List (Field Expectation), fieldListToJson fs = fs.map Field.toJson
  | [] => rfl
  | f :: fs => by
    rw [fieldListToJson, fieldListToJson_eq_map fs, List.map_cons]
    rfl

/-- An optional list of expectations is an array, if it is given. -/
theorem optionToJson_eq_map (es : Option (List Expectation)) :
    optionToJson es = es.map fun es => .arr (es.map toJson) := by
  cases es with
  | none => rfl
  | some es => rw [optionToJson, listToJson_eq_map, Option.map_some]

/-- An optional list of fields is an array, if it is given. -/
theorem fieldsToJson_eq_map (fs : Option (List (Field Expectation))) :
    fieldsToJson fs = fs.map fun fs => .arr (fs.map Field.toJson) := by
  cases fs with
  | none => rfl
  | some fs => rw [fieldsToJson, fieldListToJson_eq_map, Option.map_some]

section Lists

variable {decode : Json → Option Expectation} {levels : Nat}
  (hread : ∀ e : Expectation, e.toJson.depth ≤ levels → decode e.toJson = some e)

include hread

/-- An optional list of expectations is read back, if every expectation is that is flat enough. -/
theorem optional?_optionToJson {es : Option (List Expectation)}
    (hdepth : ∀ j, optionToJson es = some j → j.depth ≤ levels) :
    Json.optional? (Json.listOf? decode) (optionToJson es) = some es := by
  rw [optionToJson_eq_map] at hdepth ⊢
  exact Json.optional?_listOf?_map hread hdepth

/-- A field is read back, if every expectation is that is flat enough. -/
theorem decodeField_toJson (f : Field Expectation) (hdepth : f.toJson.depth ≤ levels) :
    decodeField decode f.toJson = some f := by
  have hkey : f.toJson.get? "key" = some (.str f.key) := f.get?_toJson (by simp [Field.writtenParts])
  have hvalue : ("value", optionToJson f.value) ∈ f.writtenParts := by simp [Field.writtenParts]
  have hoptional : f.toJson.get? "optional" = if f.optional then some (.bool true) else none :=
    f.get?_toJson (by simp [Field.writtenParts])
  have hdeprecated :
      f.toJson.get? "deprecated" = if f.deprecated then some (.bool true) else none :=
    f.get?_toJson (by simp [Field.writtenParts])
  have hread' : Json.optional? (Json.listOf? decode) (optionToJson f.value) = some f.value := by
    refine optional?_optionToJson hread fun j hj => ?_
    rw [hj] at hvalue
    exact Nat.le_trans (Nat.le_of_lt (Json.depth_lt_ofEntries hvalue)) hdepth
  have hparts : f.toJson.parts? ["key", "value", "optional", "deprecated"] 2 =
      some f.toJson.get? := rfl
  rw [decodeField, hparts]
  simp only [hkey, f.get?_toJson hvalue, hoptional, hdeprecated, hread', Json.withDefault?_flag,
    Json.text?, bind, Option.bind, pure]

/-- A field is flatter than an optional list of fields, and so such a list is read back. -/
theorem optional?_fieldsToJson {fs : Option (List (Field Expectation))}
    (hdepth : ∀ j, fieldsToJson fs = some j → j.depth ≤ levels) :
    Json.optional? (Json.listOf? (decodeField decode)) (fieldsToJson fs) = some fs := by
  rw [fieldsToJson_eq_map] at hdepth ⊢
  exact Json.optional?_listOf?_map (decodeField_toJson hread) hdepth

end Lists

/-- The parts of an expectation as they are written. -/
def writtenParts (e : Expectation) : List (String × Option Json) := [
  ("kind", some (.str e.kind.name)),
  ("typedoc", some (.str e.label)),
  ("fields", fieldsToJson e.fields),
  ("keys", optionToJson e.keys),
  ("items", optionToJson e.items),
  ("pool", e.pool.map .ofTexts)]

theorem toJson_eq (e : Expectation) : e.toJson = .ofEntries e.writtenParts := by
  obtain ⟨kind, label, fields, keys, items, pool⟩ := e
  rw [toJson]
  rfl

/-- A part of an expectation is found where it is written. -/
theorem get?_toJson {e : Expectation} {name : String} {value : Option Json}
    (h : (name, value) ∈ e.writtenParts) : e.toJson.get? name = value := by
  rw [toJson_eq]
  exact Json.get?_ofEntries (by simp [writtenParts]) h

/-- **An expectation is read back** with as many levels as its value has, or more: what stands in its
fields, keys and items is flatter, and needs one level less. -/
theorem decode_toJson (levels : Nat) (e : Expectation) (hdepth : e.toJson.depth ≤ levels) :
    decode levels e.toJson = some e := by
  induction levels generalizing e with
  | zero =>
    rw [toJson_eq] at hdepth
    exact absurd hdepth (Nat.not_succ_le_zero _)
  | succ levels ih =>
    have hflat : ∀ {name value}, (name, value) ∈ e.writtenParts →
        ∀ j, value = some j → j.depth ≤ levels := by
      rintro name value hmem j rfl
      have hpart : j.depth < e.toJson.depth := toJson_eq e ▸ Json.depth_lt_ofEntries hmem
      exact Nat.le_of_lt_succ (Nat.lt_of_lt_of_le hpart hdepth)
    have hkind : e.toJson.get? "kind" = some (.str e.kind.name) :=
      get?_toJson (by simp [writtenParts])
    have hlabel : e.toJson.get? "typedoc" = some (.str e.label) :=
      get?_toJson (by simp [writtenParts])
    have hfields : ("fields", fieldsToJson e.fields) ∈ e.writtenParts := by simp [writtenParts]
    have hkeys : ("keys", optionToJson e.keys) ∈ e.writtenParts := by simp [writtenParts]
    have hitems : ("items", optionToJson e.items) ∈ e.writtenParts := by simp [writtenParts]
    have hpool : e.toJson.get? "pool" = e.pool.map .ofTexts :=
      get?_toJson (by simp [writtenParts])
    have hpool' : Json.optional? Json.texts? (e.pool.map .ofTexts) = some e.pool :=
      Json.optional?_map fun texts _ => ⟨nofun, Json.texts?_ofTexts texts⟩
    have hparts : e.toJson.parts? ["kind", "typedoc", "fields", "keys", "items", "pool"] 6 =
        some e.toJson.get? := by
      rw [toJson_eq]
      rfl
    rw [decode, hparts]
    simp only [hkind, hlabel, get?_toJson hfields, get?_toJson hkeys, get?_toJson hitems, hpool,
      hpool', ExpectedKind.named?_name, optional?_fieldsToJson ih (hflat hfields),
      optional?_optionToJson ih (hflat hkeys), optional?_optionToJson ih (hflat hitems), Json.text?,
      bind, Option.bind, pure]
    cases e
    rfl

/-- An expectation is read back. -/
theorem ofJson?_toJson (e : Expectation) : ofJson? e.toJson = some e :=
  decode_toJson _ e (Nat.le_refl _)

end Expectation

/-! ### Diagnostics -/

theorem Span.ofJson?_toJson (s : Span) : Span.ofJson? s.toJson = some s := rfl

theorem Severity.ofJson?_key (severity : Severity) :
    Severity.ofJson? (.str severity.key) = some severity := by
  cases severity <;> exact Json.named?_str (by decide)

theorem Tag.ofJson?_name (tag : Tag) : Tag.ofJson? (.str tag.name) = some tag := by
  cases tag <;> exact Json.named?_str (by decide)

/-- A set of tags is that of its list. -/
theorem Tags.ofList_toList (s : Tags) : ofList s.toList = s := by
  obtain ⟨unnecessary, deprecated⟩ := s
  cases unnecessary <;> cases deprecated <;> rfl

/-- A set of tags is read back; the empty set is what counts where nothing is written. -/
theorem Tags.withDefault?_toJson? (s : Tags) :
    Json.withDefault? {} ofJson? s.toJson? = some s := by
  unfold toJson?
  by_cases h : s.toList.isEmpty
  · have hempty := s.ofList_toList
    rw [List.isEmpty_iff.mp h] at hempty
    rw [if_pos h, ← hempty]
    rfl
  · have htags : Json.listOf? Tag.ofJson? (.ofTexts (s.toList.map (·.name))) = some s.toList := by
      rw [Json.ofTexts, List.map_map]
      exact Json.listOf?_map fun tag _ => tag.ofJson?_name
    rw [if_neg h, Json.withDefault?, ofJson?, htags, Option.map_some, ofList_toList]

namespace Diagnostic

/-- The parts of a diagnostic as they are written. -/
def writtenParts (d : Diagnostic) : List (String × Option Json) := [
  ("range", some d.span.toJson),
  ("message", some (.str d.message)),
  ("severity", some (.str d.severity.key)),
  ("tags", d.tags.toJson?),
  ("code", d.code.map .str)]

/-- A part of a diagnostic is found where it is written. -/
theorem get?_toJson (d : Diagnostic) {name : String} {value : Option Json}
    (h : (name, value) ∈ d.writtenParts) : d.toJson.get? name = value := by
  have hnames : (d.writtenParts.map (·.1)).Nodup := by simp [writtenParts]
  exact Json.get?_ofEntries hnames h

/-- A diagnostic is read back. -/
theorem ofJson?_toJson (d : Diagnostic) : ofJson? d.toJson = some d := by
  have hrange : d.toJson.get? "range" = some d.span.toJson :=
    d.get?_toJson (by simp [writtenParts])
  have hmessage : d.toJson.get? "message" = some (.str d.message) :=
    d.get?_toJson (by simp [writtenParts])
  have hseverity : d.toJson.get? "severity" = some (.str d.severity.key) :=
    d.get?_toJson (by simp [writtenParts])
  have htags : d.toJson.get? "tags" = d.tags.toJson? := d.get?_toJson (by simp [writtenParts])
  have hcode : d.toJson.get? "code" = d.code.map .str := d.get?_toJson (by simp [writtenParts])
  have hread : Json.optional? Json.text? (d.code.map .str) = some d.code :=
    Json.optional?_map fun _ _ => ⟨nofun, rfl⟩
  have hparts : d.toJson.parts? ["range", "message", "severity", "tags", "code"] 3 =
      some d.toJson.get? := rfl
  rw [ofJson?, hparts]
  simp only [hrange, hmessage, hseverity, htags, hcode, hread, Span.ofJson?_toJson,
    Severity.ofJson?_key, Tags.withDefault?_toJson?, Json.text?, bind, Option.bind, pure]

end Diagnostic

/-! ### Causes -/

namespace Cause

theorem Form.named?_name (form : Form) :
    Json.named? Form.name Form.all (.str form.name) = some form := by
  cases form <;> exact Json.named?_str (by decide)

/-- The type and the data of a cause are read back. -/
theorem formAndData?_tagged (form : Form) (data : List (String × Json)) :
    formAndData? (tagged form data) = some (form, data) := by
  have hform : (tagged form data).get? "type" = some (.str form.name) :=
    Json.get?_obj_eq_some (by simp) (by simp)
  have hdata : (tagged form data).get? "data" = some (.obj data) :=
    Json.get?_obj_eq_some (by simp) (by simp)
  rw [tagged] at hform hdata ⊢
  simp only [formAndData?, hform, hdata, Form.named?_name, bind, Option.bind]

/-- The only field of the data is found under its name. -/
theorem dataField_one {α : Type} (name : String) (j : Json) (decode : Json → Option α) :
    dataField [(name, j)] name decode = decode j := by
  have hfound : (Json.obj [(name, j)]).get? name = some j :=
    Json.get?_obj_eq_some (by simp) (by simp)
  rw [dataField, hfound, Option.bind_some]

section Two

variable {α : Type} {first second : String} (hne : first ≠ second) (i j : Json)
  (decode : Json → Option α)

include hne

/-- Of two fields with names of their own, the first is found under its name. -/
theorem dataField_first : dataField [(first, i), (second, j)] first decode = decode i := by
  have hfound : (Json.obj [(first, i), (second, j)]).get? first = some i :=
    Json.get?_obj_eq_some (by simpa using hne) (by simp)
  rw [dataField, hfound, Option.bind_some]

/-- Of two fields with names of their own, the second is found under its name. -/
theorem dataField_second : dataField [(first, i), (second, j)] second decode = decode j := by
  have hfound : (Json.obj [(first, i), (second, j)]).get? second = some j :=
    Json.get?_obj_eq_some (by simpa using hne) (by simp)
  rw [dataField, hfound, Option.bind_some]

end Two

/-- A cause is read back: the fields of its data have names of their own. -/
theorem ofJson?_toJson (c : Cause) : ofJson? c.toJson = some c := by
  have htagged : ∀ form data, ofJson? (tagged form data) = ofFields? data form := by
    intro form data
    simp only [ofJson?, formAndData?_tagged, bind, Option.bind]
  cases c with
  | typeMismatch expected got =>
    have hne : "expected" ≠ "got" := by decide
    rw [toJson, htagged, ofFields?, dataField_first hne, dataField_second hne]
    rfl
  | unexpectedValue value allowed =>
    have hne : "value" ≠ "allowed" := by decide
    rw [toJson, htagged, ofFields?, dataField_first hne, dataField_second hne, Json.texts?_ofTexts]
    rfl
  | patternMismatch value pattern =>
    have hne : "value" ≠ "pattern" := by decide
    rw [toJson, htagged, ofFields?, dataField_first hne, dataField_second hne]
    rfl
  | missingDiscriminant candidates =>
    rw [toJson, htagged, ofFields?, dataField_one, Json.texts?_ofTexts]
    rfl
  | missingProperty text | unknownProperty text | deprecatedProperty text
  | unresolvedReference text =>
    rw [toJson, htagged, ofFields?, dataField_one]
    rfl

end Cause

/-- **What is written is read back**: reading succeeds on what is written of an expectation, a
diagnostic or a cause, and gives back the same. -/
theorem json_roundTrip :
    (∀ e : Expectation, Expectation.ofJson? e.toJson = some e) ∧
    (∀ d : Diagnostic, Diagnostic.ofJson? d.toJson = some d) ∧
    ∀ c : Cause, Cause.ofJson? c.toJson = some c :=
  ⟨Expectation.ofJson?_toJson, Diagnostic.ofJson?_toJson, Cause.ofJson?_toJson⟩

end DocShape
