import DocShape.Proofs.RecordFindings
import DocShape.Proofs.Relay
import DocShape.Proofs.Termination

/-!
# Objects told apart by marker keys

A marker table is settled before the record it comes to is checked, and both may find something. Between
them they say one thing. An object with a marker is checked against the record of the first one, and
settling finds nothing. An object without any is reported once at its start; the record that it is
then checked against, `MarkerTable.fallback`, declares no key that the object has and requires none,
so that all it adds is that every key is unknown. Any other node is left to that record without a
report, and is of the wrong kind (`check_byMarker`).

`MarkerTable.IsFirst` and `MarkerTable.Offers` say which marker decides and what the record without
one declares.
-/

namespace DocShape

namespace MarkerTable

variable {σ : Type} {markers : MarkerTable σ}

/-! ### The marker that decides -/

/-- The first marker of a table that is among some keys, and its row. -/
def IsFirst (markers : MarkerTable σ) (keys : List String) (marker : String) (row : MarkerRow σ) :
    Prop :=
  marker ∈ keys ∧ ∃ before behind, markers.entries = before ++ (marker, row) :: behind ∧
    ∀ entry ∈ before, entry.1 ∉ keys

/-- `present?` finds the first marker. -/
theorem present?_eq_some_iff {keys : List String} {marker : String} {row : MarkerRow σ} :
    MarkerTable.present? markers keys = some (marker, row) ↔ IsFirst markers keys marker row := by
  unfold present? IsFirst
  rw [List.find?_eq_some_iff_append]
  simp only [List.contains_eq_mem, decide_eq_true_eq, Bool.not_eq_true', decide_eq_false_iff_not]

/-- `present?` finds nothing only where there is no marker. -/
theorem present?_eq_none_iff {keys : List String} :
    MarkerTable.present? markers keys = none ↔ ∀ marker ∈ Table.keys markers, marker ∉ keys := by
  unfold present? Table.keys
  rw [List.find?_eq_none, List.forall_mem_map]
  simp only [List.contains_iff_mem]

/-! ### The record without a marker -/

/-- What a record declares that stands for all markers: those whose own record declares their key, in
order, each with the property it has there, but never required. -/
structure Offers (markers : MarkerTable σ) (r : Record σ) : Prop where
  /-- The keys. -/
  keys : Table.keys r =
    (markers.entries.filter fun entry => entry.2.record.contains entry.1).map (·.1)
  /-- The property of each key. -/
  property {key : String} {p : Property σ} (h : (key, p) ∈ r.entries) : p.isOptional = true ∧
    ∃ row q, (key, row) ∈ markers.entries ∧ row.record.get? key = some q ∧ p = q.mark .optional

/-- The rows of the record for no marker. -/
def offered (markers : MarkerTable σ) : List (String × Property σ) :=
  markers.entries.filterMap fun entry =>
    (entry.2.record.get? entry.1).map fun p => (entry.1, p.mark .optional)

theorem keys_offered (markers : MarkerTable σ) : (offered markers).map (·.1) =
    (markers.entries.filter fun entry => entry.2.record.contains entry.1).map (·.1) := by
  unfold offered
  induction markers.entries with
  | nil => rfl
  | cons entry entries ih =>
    rw [List.filterMap_cons, List.filter_cons, Table.contains_eq_isSome_get?]
    cases entry.2.record.get? entry.1 with
    | none => exact ih
    | some p => exact congrArg (entry.1 :: ·) ih

/-- `fallback` declares what a table of distinct markers offers. -/
theorem offers_fallback (h : (Table.keys markers).Nodup) : Offers markers (fallback markers) := by
  have hdistinct : ((offered markers).map (·.1)).Nodup := by
    rw [keys_offered]
    exact h.sublist (List.filter_sublist.map _)
  have hentries : (fallback markers).entries = offered markers := Table.entries_ofList hdistinct
  constructor
  · rw [Table.keys, hentries, keys_offered]
  · intro key p hp
    rw [hentries] at hp
    obtain ⟨⟨marker, row⟩, hrow, hget⟩ := List.mem_filterMap.mp hp
    obtain ⟨q, hq, heq⟩ := Option.map_eq_some_iff.mp hget
    cases heq
    exact ⟨rfl, row, q, hrow, hq, rfl⟩

/-- Every key of the fallback is a marker. -/
theorem Offers.mem_keys {r : Record σ} (h : Offers markers r) {key : String}
    (hkey : key ∈ Table.keys r) : key ∈ Table.keys markers := by
  rw [h.keys] at hkey
  exact (List.filter_sublist.map _).subset hkey

/-! ### Settling -/

variable {t : Node} {members : List (Member Node)}

theorem settle_of_first (hmembers : t.members? = some members) {marker : String}
    {row : MarkerRow σ} (h : IsFirst markers (Member.keys members) marker row) :
    settle markers t = (row.record, ask marker row) := by
  simp only [settle, hmembers, present?_eq_some_iff.mpr h]

theorem settle_of_absent (hmembers : t.members? = some members)
    (h : ∀ marker ∈ Table.keys markers, marker ∉ Member.keys members) :
    (settle markers t).1 = fallback markers ∧ (settle markers t).2.findings =
      [⟨.missingDiscriminant (Table.keys markers), t.span.head⟩] := by
  simp only [settle, hmembers, present?_eq_none_iff.mpr h, Log.findings_append, findings_ask,
    List.append_nil, true_and]
  rfl

theorem settle_of_none (hmembers : t.members? = none) :
    (settle markers t).1 = fallback markers ∧ (settle markers t).2.findings = [] := by
  simp only [settle, hmembers, findings_ask, and_self]

end MarkerTable

/-! ### The check of what was settled -/

section Settled

variable {ε : Type} {members : List (Member Node)} {r : Record (Schema ε)} {sc : Scope} {t : Node}
  {env : Environment ε}

/-- That the keys of some members are unknown, in the order of the members. -/
def unknownKeys (members : List (Member Node)) : List Finding :=
  members.filterMap fun m => m.key.map fun key => ⟨.unknownProperty key.text, key.span⟩

/-- Where no key of an object is declared, it is found about its members that their keys are
unknown. -/
theorem Check.findings_checkDeclared_of_unknown {run : Run ε} {keys : List String}
    {fields : Fields (Schema ε)} (h : ∀ key ∈ Member.keys members, key ∉ keys) :
    (members.flatMap fun m => (checkDeclared env run keys fields sc m).2.findings) =
      unknownKeys members := by
  induction members with
  | nil => rfl
  | cons m members ih =>
    obtain ⟨_ | key, value⟩ := m
    · rw [List.flatMap_cons, checkDeclared_keyless, ih h]
      rfl
    · have hkey : key.text ∉ keys := h key.text List.mem_cons_self
      rw [List.flatMap_cons, checkDeclared_of_not_mem hkey,
        ih fun key' hkey' => h key' (List.mem_cons_of_mem _ hkey')]
      rfl

/-- Where nothing is required, nothing is missing. -/
theorem Record.missing_eq_nil (h : ∀ row ∈ r.entries, row.2.isOptional = true) (span : Span) :
    r.missing members span = [] := by
  rw [missing, List.map_eq_nil_iff, List.filter_eq_nil_iff]
  intro row hrow
  simp [h row hrow]

variable [CustomCheck ε] {o : Outcome}

/-- A record that requires nothing and declares no key of an object finds that all keys are
unknown. -/
theorem Environment.Ends.findings_of_strange (hr : r.keys.Nodup)
    (hoptional : ∀ row ∈ r.entries, row.2.isOptional = true)
    (hmembers : t.members? = some members) (hstrange : ∀ key ∈ Member.keys members, key ∉ r.keys)
    (h : env.Ends (Schema.record r) sc t o) : o.log.findings = unknownKeys members := by
  obtain ⟨_ | fuel, rfl, hfinished⟩ := h
  · cases hfinished
  · show (Check.checkObject env (check env fuel) (.fixed r.keys r.fields) sc t).log.findings = _
    rw [Check.findings_checkObject_fixed hmembers, Record.findings_missingLog hr,
      Record.missing_eq_nil hoptional, Check.findings_checkDeclared_of_unknown hstrange,
      List.nil_append]

/-- Any record finds that what is no object is of the wrong kind. -/
theorem Environment.Ends.findings_of_wrongKind (hmembers : t.members? = none)
    (h : env.Ends (Schema.record r) sc t o) :
    o.log.findings = [⟨.typeMismatch "object" t.kind.name, t.span⟩] := by
  obtain ⟨_ | fuel, rfl, hfinished⟩ := h
  · cases hfinished
  · show (Check.checkObject env (check env fuel) (.fixed r.keys r.fields) sc t).log.findings = _
    rw [Check.checkObject_of_none hmembers, Log.findings_append, Check.findings_describeShape]
    rfl

/-! ### The check of a marker table -/

variable [Picking ε] {markers : MarkerTable (Schema ε)}

/-- A check of a marker table is a check of the record that it comes to. -/
theorem Environment.Ends.of_byMarker (h : env.Ends (.select (.record (.byMarker markers))) sc t o) :
    ∃ chosen, env.Ends (Schema.record (MarkerTable.settle markers t).1) sc t chosen ∧
      o.node = chosen.node ∧
      o.log.findings = (MarkerTable.settle markers t).2.findings ++ chosen.log.findings ∧
      o.log.forced = (MarkerTable.settle markers t).2.forced ++ chosen.log.forced :=
  h.of_relay rfl

/-- About an object with a marker, that is found which the record of the first marker finds. -/
theorem Environment.Ends.of_marker (h : env.Ends (.select (.record (.byMarker markers))) sc t o)
    (hmembers : t.members? = some members)
    (hpresent : ∃ marker ∈ Table.keys markers, marker ∈ Member.keys members) :
    ∃ marker row chosen, MarkerTable.IsFirst markers (Member.keys members) marker row ∧
      env.Ends (Schema.record row.record) sc t chosen ∧ o.node = chosen.node ∧
      o.log.findings = chosen.log.findings ∧
      o.log.forced = (if row.deferred then [marker] else []) ++ chosen.log.forced := by
  obtain ⟨key, hkey, hmember⟩ := hpresent
  obtain ⟨chosen, hchosen, hnode, hfindings, hforced⟩ := h.of_byMarker
  cases hentry : MarkerTable.present? markers (Member.keys members) with
  | none => exact absurd hmember (MarkerTable.present?_eq_none_iff.mp hentry key hkey)
  | some entry =>
    have hfirst := MarkerTable.present?_eq_some_iff.mp hentry
    rw [MarkerTable.settle_of_first hmembers hfirst] at hchosen hfindings hforced
    exact ⟨entry.1, entry.2, chosen, hfirst, hchosen, hnode, hfindings, hforced⟩

/-- About an object without a marker, it is found that there is none, and that no key is known. -/
theorem Environment.Ends.findings_of_absent (hdistinct : (Table.keys markers).Nodup)
    (h : env.Ends (.select (.record (.byMarker markers))) sc t o)
    (hmembers : t.members? = some members)
    (habsent : ∀ marker ∈ Table.keys markers, marker ∉ Member.keys members) :
    o.log.findings = ⟨.missingDiscriminant (Table.keys markers), t.span.head⟩ ::
      unknownKeys members := by
  obtain ⟨chosen, hchosen, -, hfindings, -⟩ := h.of_byMarker
  obtain ⟨hrecord, hreport⟩ := MarkerTable.settle_of_absent hmembers habsent
  have hoffers := MarkerTable.offers_fallback hdistinct
  have hkeys : (Table.keys (MarkerTable.fallback markers)).Nodup := by
    rw [hoffers.keys]
    exact hdistinct.sublist (List.filter_sublist.map _)
  rw [hrecord] at hchosen
  rw [hfindings, hreport, hchosen.findings_of_strange hkeys
    (fun row hrow => (hoffers.property hrow).1) hmembers
    fun key hkey hmem => habsent key (hoffers.mem_keys hmem) hkey]
  rfl

/-- About a node that is no object, only that is found. -/
theorem Environment.Ends.findings_of_no_object
    (h : env.Ends (.select (.record (.byMarker markers))) sc t o) (hmembers : t.members? = none) :
    o.log.findings = [⟨.typeMismatch "object" t.kind.name, t.span⟩] := by
  obtain ⟨chosen, hchosen, -, hfindings, -⟩ := h.of_byMarker
  have hnothing : (MarkerTable.settle markers t).2.findings = [] :=
    (MarkerTable.settle_of_none hmembers).2
  rw [hfindings, hnothing, hchosen.findings_of_wrongKind hmembers, List.nil_append]

/-- A node without a marker is left as a record leaves it that offers all markers. -/
theorem Environment.Ends.exists_offers (hdistinct : (Table.keys markers).Nodup)
    (h : env.Ends (.select (.record (.byMarker markers))) sc t o)
    (habsent : ∀ members, t.members? = some members →
      ∀ marker ∈ Table.keys markers, marker ∉ Member.keys members) :
    ∃ r chosen, MarkerTable.Offers markers r ∧ env.Ends (Schema.record r) sc t chosen ∧
      o.node = chosen.node := by
  obtain ⟨chosen, hchosen, hnode, -, -⟩ := h.of_byMarker
  have hrecord : (MarkerTable.settle markers t).1 = MarkerTable.fallback markers := by
    cases hmembers : t.members? with
    | none => exact (MarkerTable.settle_of_none hmembers).1
    | some members => exact (MarkerTable.settle_of_absent hmembers (habsent members hmembers)).1
  rw [hrecord] at hchosen
  exact ⟨_, chosen, MarkerTable.offers_fallback hdistinct, hchosen, hnode⟩

end Settled

/-- **Objects told apart by marker keys.** About an object with a marker, exactly that is found which
the record of the first marker finds, and no other record is asked for. About an object without any,
it is found that all markers are missing, and that each of its keys is unknown. About any other node,
it is found that it is of the wrong kind. In the last two cases the node is left as a record leaves it
that declares the markers and requires none. Where no name leads back to itself on one node, the check
comes to its end. -/
theorem check_byMarker (u : Setup Picker) {markers : MarkerTable (Schema Picker)}
    (hdistinct : (Table.keys markers).Nodup) (sc : Scope) (t : Node) :
    let s : Schema Picker := .select (.record (.byMarker markers))
    (∀ o, u.Ends s sc t o →
      (∀ members, t.members? = some members →
        (∃ marker ∈ Table.keys markers, marker ∈ Member.keys members) →
        ∃ marker row chosen, MarkerTable.IsFirst markers (Member.keys members) marker row ∧
          u.Ends (Schema.record row.record) sc t chosen ∧ o.node = chosen.node ∧
          o.log.findings = chosen.log.findings ∧
          o.log.forced = (if row.deferred then [marker] else []) ++ chosen.log.forced) ∧
      (∀ members, t.members? = some members →
        (∀ marker ∈ Table.keys markers, marker ∉ Member.keys members) →
        o.log.findings = ⟨.missingDiscriminant (Table.keys markers), t.span.head⟩ ::
          members.filterMap fun m =>
            m.key.map fun key => ⟨.unknownProperty key.text, key.span⟩) ∧
      (t.members? = none → o.log.findings = [⟨.typeMismatch "object" t.kind.name, t.span⟩]) ∧
      ((∀ members, t.members? = some members →
          ∀ marker ∈ Table.keys markers, marker ∉ Member.keys members) →
        ∃ r chosen, MarkerTable.Offers markers r ∧ u.Ends (Schema.record r) sc t chosen ∧
          o.node = chosen.node)) ∧
    (Guarded u.schemas → u.Ends s sc t (u.check s sc t)) := by
  intro s
  refine ⟨?_, fun hguard => ⟨_, rfl, finished_check hguard s sc t _ (Nat.le_refl _)⟩⟩
  intro o h
  refine ⟨?_, ?_, h.findings_of_no_object, h.exists_offers hdistinct⟩
  · intro members hmembers hpresent
    exact h.of_marker hmembers hpresent
  · intro members hmembers habsent
    exact h.findings_of_absent hdistinct hmembers habsent

/-- Three markers. The first one's record does not declare the marker itself, the second is
deprecated, and the first two are deferred. -/
def shapeMarkers : MarkerTable (Schema Picker) := ⟨[
  ("size", ⟨⟨[("width", ⟨.scalar .number, none⟩)]⟩, true⟩),
  ("old", ⟨⟨[("old", ⟨.scalar .string, some { deprecated := true }⟩)]⟩, true⟩),
  ("kind", ⟨⟨[("kind", ⟨.scalar .string, none⟩)]⟩, false⟩)]⟩

/-- An object with the last two markers, the earlier one last and without a value. -/
def twoMarkers : Node :=
  ⟨⟨0, 18⟩, some [.any], .object [⟨some ⟨"kind", ⟨1, 7⟩, none⟩, some (.string "x" ⟨9, 12⟩)⟩,
    ⟨some ⟨"old", ⟨13, 18⟩, none⟩, none⟩]⟩

/-- An object without a marker. -/
def noMarker : Node :=
  ⟨⟨0, 18⟩, none, .object [⟨none, some (.null ⟨1, 5⟩)⟩,
    ⟨some ⟨"width", ⟨7, 14⟩, none⟩, some (.string "x" ⟨15, 18⟩)⟩]⟩

/-- The deprecated marker decides about the first object, of the markers in the second only two are
offered, and a text is no object. -/
theorem check_shapeMarkers :
    let s : Schema Picker := .select (.record (.byMarker shapeMarkers))
    (Table.keys shapeMarkers).Nodup ∧ Guarded ({} : Setup Picker).schemas ∧
    (∃ o row chosen, ({} : Setup Picker).Ends s {} twoMarkers o ∧
      MarkerTable.IsFirst shapeMarkers ["kind", "old"] "old" row ∧
      ({} : Setup Picker).Ends (Schema.record row.record) {} twoMarkers chosen ∧
      o.log.findings = chosen.log.findings ∧ o.log.forced = ["old"] ++ chosen.log.forced ∧
      chosen.log.findings = [⟨.unknownProperty "kind", ⟨1, 7⟩⟩,
        ⟨.deprecatedProperty "old", ⟨13, 18⟩⟩, ⟨.typeMismatch "string" "null", ⟨18, 18⟩⟩]) ∧
    (∃ o r chosen, ({} : Setup Picker).Ends s {} noMarker o ∧
      o.log.findings = [⟨.missingDiscriminant ["size", "old", "kind"], ⟨0, 1⟩⟩,
        ⟨.unknownProperty "width", ⟨7, 14⟩⟩] ∧
      MarkerTable.Offers shapeMarkers r ∧ Table.keys r = ["old", "kind"] ∧
      ({} : Setup Picker).Ends (Schema.record r) {} noMarker chosen ∧ o.node = chosen.node) ∧
    ∃ o, ({} : Setup Picker).Ends s {} (.string "x" ⟨0, 3⟩) o ∧
      o.log.findings = [⟨.typeMismatch "object" "string", ⟨0, 3⟩⟩] := by
  intro s
  have hdistinct : (Table.keys shapeMarkers).Nodup := by decide
  have hguard : Guarded ({} : Setup Picker).schemas := guarded_nil
  refine ⟨hdistinct, hguard, ?_, ?_, ?_⟩
  · obtain ⟨hcheck, hends⟩ := check_byMarker {} hdistinct {} twoMarkers
    obtain ⟨hfirst, -, -, -⟩ := hcheck _ (hends hguard)
    obtain ⟨marker, row, chosen, hmarker, hchosen, -, hfindings, hforced⟩ :=
      hfirst _ rfl ⟨"old", by decide, by decide⟩
    have hold : MarkerTable.present? shapeMarkers ["kind", "old"] = some (marker, row) :=
      MarkerTable.present?_eq_some_iff.mpr hmarker
    cases hold
    obtain ⟨o, ho, hcauses⟩ : ∃ o, ({} : Setup Picker).Ends
        (Schema.record ⟨[("old", ⟨.scalar .string, some { deprecated := true }⟩)]⟩) {}
        twoMarkers o ∧ o.log.findings = [⟨.unknownProperty "kind", ⟨1, 7⟩⟩,
          ⟨.deprecatedProperty "old", ⟨13, 18⟩⟩, ⟨.typeMismatch "string" "null", ⟨18, 18⟩⟩] :=
      ⟨_, ⟨4, rfl, rfl⟩, rfl⟩
    obtain rfl := hchosen.unique ho
    exact ⟨_, _, _, hends hguard, hmarker, hchosen, hfindings, hforced, hcauses⟩
  · obtain ⟨hcheck, hends⟩ := check_byMarker {} hdistinct {} noMarker
    obtain ⟨-, hnone, -, hoffered⟩ := hcheck _ (hends hguard)
    have habsent : ∀ marker ∈ Table.keys shapeMarkers, marker ∉ ["width"] := by decide
    obtain ⟨r, chosen, hoffers, hchosen, hnode⟩ :=
      hoffered fun members hmembers => by cases hmembers; exact habsent
    exact ⟨_, r, chosen, hends hguard, hnone _ rfl habsent, hoffers, hoffers.keys, hchosen, hnode⟩
  · obtain ⟨hcheck, hends⟩ := check_byMarker {} hdistinct {} (.string "x" ⟨0, 3⟩)
    obtain ⟨-, -, hwrong, -⟩ := hcheck _ (hends hguard)
    exact ⟨_, hends hguard, hwrong rfl⟩

end DocShape
