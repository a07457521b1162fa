import Mathlib.Data.List.Forall2
import Mathlib.Data.Option.Basic
import DocShape.Proofs.Places
import DocShape.Proofs.RoundTrip
import DocShape.Written.Tree

/-!
# Trees as JSON lose nothing

Two JSON values are the same (`Json.Same`) when their arrays agree item by item and their objects key
by key, in whatever order the entries stand. Trees that are written as the same value are the same
tree (`Node.same_toJson_iff`), slots included.

A record is compared part by part: what is found under one of its names in two values that are the
same is the same, or absent in both (`Json.Same.parts`). So an absent part is never taken for a
present one, and each part of a key, a field, an expectation or a node gives back what it was written
from. Expectations and nodes are nested; both proofs are inductions on what is directly inside
(`Expectation.induction`, `Node.induction`).

How numbers are written is left open but for two things: a finite one is written as a JSON number, and
no two of them alike (`NumberForm.Lossless`). Numbers that are not finite are all written as null, so
one of the two trees has to be free of them.
-/

namespace DocShape

/-! ### The same value -/

namespace Json

/-- The same value: arrays agree item by item, and objects under every key, whatever the order of
their entries. -/
inductive Same : Json → Json → Prop
  | refl (j : Json) : Same j j
  | arr {items items' : List Json} (h : List.Forall₂ Same items items') :
    Same (.arr items) (.arr items')
  | obj {entries entries' : List (String × Json)}
    (h : ∀ key, Option.Rel Same ((obj entries).get? key) ((obj entries').get? key)) :
    Same (.obj entries) (.obj entries')

/-- What is found under a key is the same. -/
theorem Same.get? {i j : Json} (h : i.Same j) (key : String) :
    Option.Rel Same (i.get? key) (j.get? key) := by
  cases h with
  | refl =>
    cases i.get? key with
    | none => exact .none
    | some found => exact .some (.refl found)
  | arr => exact .none
  | obj h => exact h key

/-- The items are the same, one by one. -/
theorem Same.items {items items' : List Json} (h : Same (.arr items) (.arr items')) :
    List.Forall₂ Same items items' := by
  cases h with
  | refl => exact List.forall₂_same.mpr fun item _ => .refl item
  | arr h => exact h

/-- A text that is there in any case is the same. -/
theorem text_eq_of_rel {text text' : String}
    (h : Option.Rel Same (some (.str text)) (some (.str text'))) : text = text' := by
  cases h with
  | some h =>
    cases h
    rfl

/-- Two records with the same names that are the same agree part by part: where one leaves a part
out, so does the other. -/
theorem Same.parts {entries entries' : List (String × Option Json)}
    (h : Same (ofEntries entries) (ofEntries entries'))
    (hnames : entries.map (·.1) = entries'.map (·.1)) (hnodup : (entries.map (·.1)).Nodup) :
    List.Forall₂ (fun part part' => Option.Rel Same part.2 part'.2) entries entries' := by
  have hpairs : List.Forall₂ (fun part part' => part.1 = part'.1) entries entries' := by
    have heq : List.Forall₂ Eq (entries.map (·.1)) (entries'.map (·.1)) := by
      rw [List.forall₂_eq_eq_eq, hnames]
    rwa [List.forall₂_map_left_iff, List.forall₂_map_right_iff] at heq
  rw [List.forall₂_iff_zip] at hpairs ⊢
  refine ⟨hpairs.1, ?_⟩
  rintro ⟨name, value⟩ ⟨name', value'⟩ hzip
  obtain rfl : name = name' := hpairs.2 hzip
  obtain ⟨hmem, hmem'⟩ := List.of_mem_zip hzip
  have hfound := h.get? name
  rwa [get?_ofEntries hnodup hmem, get?_ofEntries (hnames ▸ hnodup) hmem'] at hfound

section Parts

variable {α : Type} {encode : α → Json}

/-- An optional part is told from every other one, and from none, if it is as a part that is there. -/
theorem eq_of_rel_map {x y : Option α}
    (hinj : ∀ a, x = some a → ∀ b, Same (encode a) (encode b) → a = b)
    (h : Option.Rel Same (x.map encode) (y.map encode)) : x = y := by
  cases x with
  | none => cases y with
    | none => rfl
    | some b => cases h
  | some a => cases y with
    | none => cases h
    | some b => cases h with
      | some h => rw [hinj a rfl b h]

/-- A list is told from every other one, if each of its items is. -/
theorem eq_of_same_map {as bs : List α} (hinj : ∀ a ∈ as, ∀ b, Same (encode a) (encode b) → a = b)
    (h : Same (.arr (as.map encode)) (.arr (bs.map encode))) : as = bs := by
  replace h := h.items
  induction as generalizing bs with
  | nil => cases bs with
    | nil => rfl
    | cons b bs => cases h
  | cons a as ih => cases bs with
    | nil => cases h
    | cons b bs => cases h with
      | cons hitem hitems =>
        rw [List.forall_mem_cons] at hinj
        rw [hinj.1 b hitem, ih hinj.2 hitems]

/-- An optional list is told from every other one, and from none, if each of its items is. -/
theorem eq_of_rel_map_list {as bs : Option (List α)}
    (hinj : ∀ a ∈ as.getD [], ∀ b, Same (encode a) (encode b) → a = b)
    (h : Option.Rel Same (as.map fun as => .arr (as.map encode))
      (bs.map fun bs => .arr (bs.map encode))) : as = bs := by
  have hlist : ∀ cs, as = some cs → ∀ ds : List α,
      Same (.arr (cs.map encode)) (.arr (ds.map encode)) → cs = ds := by
    rintro cs rfl ds hsame
    exact eq_of_same_map hinj hsame
  exact eq_of_rel_map hlist h

/-- A flag that is written only when it is set is told from the other one. -/
theorem eq_of_rel_flag {flag flag' : Bool}
    (h : Option.Rel Same (if flag then some (.bool true) else none)
      (if flag' then some (.bool true) else none)) : flag = flag' := by
  cases flag with
  | false => cases flag' with
    | false => rfl
    | true => cases h
  | true => cases flag' with
    | false => cases h
    | true => rfl

end Parts

end Json

/-- A span is told from every other one. -/
theorem Span.eq_of_same {s s' : Span} (h : Json.Same s.toJson s'.toJson) : s = s' := by
  obtain ⟨start, stop⟩ := s
  obtain ⟨start', stop'⟩ := s'
  have hstart : Option.Rel Json.Same (some (.int start)) (some (.int start')) := h.get? "start"
  have hstop : Option.Rel Json.Same (some (.int stop)) (some (.int stop')) := h.get? "end"
  cases hstart with
  | some hstart => cases hstop with
    | some hstop =>
      cases hstart
      cases hstop
      rfl

/-! ### Expectations -/

/-- Kinds of expectations are told apart by their names. -/
theorem ExpectedKind.name_injective {kind kind' : ExpectedKind} (h : kind.name = kind'.name) :
    kind = kind' := by
  have hread := kind.named?_name
  rw [h, ExpectedKind.named?_name] at hread
  exact (Option.some.inj hread).symm

/-- The parts of a field tell it from every other one, if they do so for what its value may be. -/
theorem Field.eq_of_same {f g : Field Expectation}
    (hinj : ∀ e ∈ f.value.getD [], ∀ d : Expectation, Json.Same e.toJson d.toJson → e = d)
    (h : Json.Same f.toJson g.toJson) : f = g := by
  have hparts : List.Forall₂ _ f.writtenParts g.writtenParts :=
    Json.Same.parts h rfl (by simp [writtenParts])
  simp only [writtenParts, List.forall₂_cons, Expectation.optionToJson_eq_map] at hparts
  obtain ⟨hkey, hvalue, hoptional, hdeprecated, -⟩ := hparts
  obtain ⟨key, value, optional, deprecated⟩ := f
  obtain ⟨key', value', optional', deprecated'⟩ := g
  obtain rfl : key = key' := Json.text_eq_of_rel hkey
  obtain rfl : value = value' := Json.eq_of_rel_map_list hinj hvalue
  obtain rfl : optional = optional' := Json.eq_of_rel_flag hoptional
  obtain rfl : deprecated = deprecated' := Json.eq_of_rel_flag hdeprecated
  rfl

namespace Expectation

/-- The expectations directly inside an expectation. -/
def inner (e : Expectation) : List Expectation :=
  (e.fields.getD []).flatMap (·.value.getD []) ++ e.keys.getD [] ++ e.items.getD []

/-- What is directly inside an expectation is smaller. -/
theorem sizeOf_lt_of_mem_inner {e d : Expectation} (h : d ∈ e.inner) : sizeOf d < sizeOf e := by
  have hlist : ∀ {slot : Option (List Expectation)}, d ∈ slot.getD [] → sizeOf d < sizeOf slot := by
    intro slot hd
    cases slot with
    | none => cases hd
    | some es =>
      have hsize : sizeOf d < sizeOf es := List.sizeOf_lt_of_mem hd
      rw [Option.some.sizeOf_spec]
      omega
  obtain ⟨kind, label, fields, keys, items, pool⟩ := e
  simp only [inner, List.mem_append, List.mem_flatMap] at h
  rw [mk.sizeOf_spec]
  rcases h with (⟨⟨key, value, optional, deprecated⟩, hf, hd⟩ | hd) | hd
  · cases fields with
    | none => cases hf
    | some fs =>
      have hvalue : sizeOf d < sizeOf value := hlist hd
      have hfield : sizeOf (Field.mk key value optional deprecated) < sizeOf fs :=
        List.sizeOf_lt_of_mem hf
      rw [Field.mk.sizeOf_spec] at hfield
      rw [Option.some.sizeOf_spec]
      omega
  · have hkeys := hlist hd
    omega
  · have hitems := hlist hd
    omega

/-- **Induction on expectations**: what holds of an expectation as soon as it holds of those directly
inside holds of every expectation. -/
@[elab_as_elim]
theorem induction {motive : Expectation → Prop}
    (step : ∀ e : Expectation, (∀ d ∈ e.inner, motive d) → motive e) (e : Expectation) : motive e :=
  step e fun d _ => induction step d
termination_by sizeOf e
decreasing_by exact sizeOf_lt_of_mem_inner ‹_›

/-- **An expectation is told from every other one** by what is written of it. -/
theorem eq_of_same (e d : Expectation) (h : Json.Same e.toJson d.toJson) : e = d := by
  induction e using Expectation.induction generalizing d with
  | step e ih =>
    rw [toJson_eq, toJson_eq] at h
    have hparts := h.parts rfl (by simp [writtenParts])
    simp only [writtenParts, List.forall₂_cons, fieldsToJson_eq_map, optionToJson_eq_map] at hparts
    obtain ⟨hkind, hlabel, hfields, hkeys, hitems, hpool, -⟩ := hparts
    simp only [inner, List.mem_append, List.mem_flatMap] at ih
    obtain ⟨kind, label, fields, keys, items, pool⟩ := e
    obtain ⟨kind', label', fields', keys', items', pool'⟩ := d
    obtain rfl : kind = kind' := ExpectedKind.name_injective (Json.text_eq_of_rel hkind)
    obtain rfl : label = label' := Json.text_eq_of_rel hlabel
    obtain rfl : fields = fields' := by
      refine Json.eq_of_rel_map_list (fun f hf g => Field.eq_of_same fun c hc => ?_) hfields
      exact ih c (Or.inl (Or.inl ⟨f, hf, hc⟩))
    obtain rfl : keys = keys' :=
      Json.eq_of_rel_map_list (fun c hc => ih c (Or.inl (Or.inr hc))) hkeys
    obtain rfl : items = items' :=
      Json.eq_of_rel_map_list (fun c hc => ih c (Or.inr hc)) hitems
    obtain rfl : pool = pool' := by
      refine Json.eq_of_rel_map_list (fun text _ text' hsame => ?_) hpool
      cases hsame
      rfl
    rfl

/-- A slot is told from every other one, filled or not. -/
theorem eq_of_same_slot {slot slot' : Option (List Expectation)}
    (h : Option.Rel Json.Same (optionToJson slot) (optionToJson slot')) : slot = slot' := by
  rw [optionToJson_eq_map, optionToJson_eq_map] at h
  exact Json.eq_of_rel_map_list (fun e _ => eq_of_same e) h

end Expectation

/-! ### Trees -/

/-- Kinds of nodes are told apart by their names. -/
theorem Kind.name_injective {kind kind' : Kind} (h : kind.name = kind'.name) : kind = kind' := by
  revert h
  cases kind <;> cases kind' <;> decide

/-- A finite number is told from every other one, be it finite or not. -/
theorem Number.eq_of_same [NumberForm] (hform : NumberForm.Lossless) {x y : Number}
    (hx : x.isFinite = true) (h : Json.Same x.toJson y.toJson) : x = y := by
  obtain ⟨text, htext⟩ := hform.literal hx
  unfold toJson at h
  rw [if_pos hx, htext] at h
  by_cases hy : y.isFinite = true
  · obtain ⟨text', htext'⟩ := hform.literal hy
    rw [if_pos hy, htext'] at h
    cases h
    exact hform.injective hx hy (htext.trans htext'.symm)
  · -- what is not finite is written as null, which is no literal
    rw [if_neg hy] at h
    cases h

/-- A key is told from every other one, hover included. -/
theorem Key.eq_of_same {k k' : Key} (h : Json.Same k.toJson k'.toJson) : k = k' := by
  have hparts := Json.Same.parts h rfl (by simp)
  simp only [List.forall₂_cons] at hparts
  obtain ⟨htext, hspan, hhover, -⟩ := hparts
  obtain ⟨text, span, hover⟩ := k
  obtain ⟨text', span', hover'⟩ := k'
  obtain rfl : text = text' := Json.text_eq_of_rel htext
  obtain rfl : span = span' := by
    cases hspan with
    | some hspan => exact Span.eq_of_same hspan
  obtain rfl : hover = hover' := by
    refine Json.eq_of_rel_map (fun text _ text' hsame => ?_) hhover
    cases hsame
    rfl
  rfl

namespace Node

/-- All numbers in a tree are finite. -/
def Finite (t : Node) : Prop :=
  ∀ u value, t.Holds u → u.number? = some value → value.isFinite = true

/-- The nodes of a tree of finite numbers are such trees. -/
theorem Finite.of_holds {t u : Node} (h : t.Finite) (hu : t.Holds u) : u.Finite :=
  fun v value hv hvalue => h v value (hu.trans hv) hvalue

/-- A tree is one of finite numbers if its own number is finite and so are those one step down. -/
theorem finite_iff {t : Node} :
    t.Finite ↔ (∀ value, t.number? = some value → value.isFinite = true) ∧
      ∀ step u, t.child? step = some u → u.Finite := by
  constructor
  · intro h
    exact ⟨fun value => h t value (Holds.refl t), fun step u hu => h.of_holds (holds_child hu)⟩
  · rintro ⟨hvalue, hchild⟩ u value hu
    rcases holds_iff.mp hu with rfl | ⟨step, v, hv, hu⟩
    · exact hvalue value
    · exact hchild step v hv u value hu

section Written

variable [NumberForm]

/-- A member as it is written. -/
def memberToJson (m : Member Node) : Json := memberRecord m.key (m.value.map toJson)

/-- Members are written one by one. -/
theorem membersToJson_eq_map (members : List (Member Node)) :
    membersToJson members = members.map memberToJson := by
  induction members with
  | nil => rfl
  | cons m members ih =>
    obtain ⟨key, _ | value⟩ := m
    · rw [membersToJson, ih]
      rfl
    · rw [membersToJson, ih]
      rfl

/-- Items are written one by one. -/
theorem itemsToJson_eq_map (items : List Node) : itemsToJson items = items.map toJson := by
  induction items with
  | nil => rfl
  | cons t items ih => rw [itemsToJson, ih, List.map_cons]

/-- What is written of what a node holds. -/
def writtenBody : Body Node → Option Json
  | .object members => some (.arr (members.map memberToJson))
  | .array items => some (.arr (items.map toJson))
  | .string text => some (.str text)
  | .number value => some value.toJson
  | .boolean value => some (.bool value)
  | .null => none

/-- A node is written as a record of its kind, its body, its span and its slot. -/
theorem toJson_eq (t : Node) : t.toJson = record t.kind t.span t.expectation (writtenBody t.body) := by
  obtain ⟨span, expectation, body⟩ := t
  cases body with
  | object members => rw [toJson, membersToJson_eq_map]; rfl
  | array items => rw [toJson, itemsToJson_eq_map]; rfl
  | string _ | number _ | boolean _ | null => rw [toJson]; rfl

/-- Trees that are written as the same value agree in their spans and slots, and what is written of
their bodies is the same. -/
theorem parts_of_same {t u : Node} (h : Json.Same t.toJson u.toJson) :
    t.kind = u.kind ∧ t.span = u.span ∧ t.expectation = u.expectation ∧
      Option.Rel Json.Same (writtenBody t.body) (writtenBody u.body) := by
  rw [toJson_eq, toJson_eq] at h
  have hparts := Json.Same.parts h rfl (by simp)
  simp only [List.forall₂_cons] at hparts
  obtain ⟨hkind, hbody, hspan, hexpectation, -⟩ := hparts
  refine ⟨Kind.name_injective (Json.text_eq_of_rel hkind), ?_, ?_, hbody⟩
  · cases hspan with
    | some hspan => exact Span.eq_of_same hspan
  · exact Expectation.eq_of_same_slot hexpectation

/-- A member is told from every other one, key and value each being there or not, if its value is. -/
theorem eq_of_same_member {m m' : Member Node}
    (hinj : ∀ t, m.value = some t → ∀ u, Json.Same t.toJson u.toJson → t = u)
    (h : Json.Same (memberToJson m) (memberToJson m')) : m = m' := by
  have hparts := Json.Same.parts h rfl (by simp)
  simp only [List.forall₂_cons] at hparts
  obtain ⟨hkey, hvalue, -⟩ := hparts
  obtain ⟨key, value⟩ := m
  obtain ⟨key', value'⟩ := m'
  obtain rfl : key = key' := Json.eq_of_rel_map (fun k _ k' => Key.eq_of_same) hkey
  obtain rfl : value = value' := Json.eq_of_rel_map hinj hvalue
  rfl

/-- A scalar is told from every other node. -/
theorem eq_of_same_scalar (hform : NumberForm.Lossless) {t u : Node} (ht : t.Finite)
    (hmembers : t.members? = none) (hitems : t.items? = none) (h : Json.Same t.toJson u.toJson) :
    t = u := by
  obtain ⟨hkind, hspan, hexpectation, hbody⟩ := parts_of_same h
  obtain ⟨span, expectation, body⟩ := t
  obtain ⟨span', expectation', body'⟩ := u
  obtain rfl : span = span' := hspan
  obtain rfl : expectation = expectation' := hexpectation
  cases body with
  | object _ => cases hmembers
  | array _ => cases hitems
  | string text => cases body' with
    | string text' => rw [Json.text_eq_of_rel hbody]
    | object _ | array _ | number _ | boolean _ | null => cases hkind
  | number value => cases body' with
    | number value' =>
      have hfinite : value.isFinite = true := ht _ value (Holds.refl _) rfl
      cases hbody with
      | some hvalue => rw [Number.eq_of_same hform hfinite hvalue]
    | object _ | array _ | string _ | boolean _ | null => cases hkind
  | boolean value => cases body' with
    | boolean value' =>
      cases hbody with
      | some hvalue =>
        cases hvalue
        rfl
    | object _ | array _ | string _ | number _ | null => cases hkind
  | null => cases body' with
    | null => rfl
    | object _ | array _ | string _ | number _ | boolean _ => cases hkind

/-- **A tree of finite numbers is told from every other tree** by what is written of it. -/
theorem eq_of_same (hform : NumberForm.Lossless) {t u : Node} (ht : t.Finite)
    (h : Json.Same t.toJson u.toJson) : t = u := by
  induction t using Node.induction generalizing u with
  | object span expectation members ih =>
    obtain ⟨hkind, rfl, rfl, hbody⟩ := parts_of_same h
    obtain ⟨span, expectation, body⟩ := u
    cases body with
    | object members' =>
      have hmembers : members = members' := by
        cases hbody with
        | some hbody =>
          refine Json.eq_of_same_map (fun m hm m' => eq_of_same_member fun v hv w => ?_) hbody
          obtain ⟨step, hstep⟩ :=
            child?_of_mem_members (t := ⟨span, expectation, .object members⟩) rfl hm hv
          exact ih m hm v hv (ht.of_holds (holds_child hstep))
      rw [hmembers]
    | array _ | string _ | number _ | boolean _ | null => cases hkind
  | array span expectation items ih =>
    obtain ⟨hkind, rfl, rfl, hbody⟩ := parts_of_same h
    obtain ⟨span, expectation, body⟩ := u
    cases body with
    | array items' =>
      have hitems : items = items' := by
        cases hbody with
        | some hbody =>
          refine Json.eq_of_same_map (fun v hv w => ?_) hbody
          obtain ⟨step, hstep⟩ :=
            child?_of_mem_items (t := ⟨span, expectation, .array items⟩) rfl hv
          exact ih v hv (ht.of_holds (holds_child hstep))
      rw [hitems]
    | object _ | string _ | number _ | boolean _ | null => cases hkind
  | leaf t hmembers hitems => exact eq_of_same_scalar hform ht hmembers hitems h

/-- **Trees as JSON lose nothing** if the form of numbers does not. A tree whose numbers are all finite
is written as the same JSON value as another tree, whatever the order of entries, only if the two are
the same tree: in kinds and values, numbers by their bits, in spans, in members with or without keys
and values, and in what their slots hold, where a slot filled with nothing is not an unfilled one. -/
theorem same_toJson_iff (hform : NumberForm.Lossless) {t u : Node} (ht : t.Finite) :
    Json.Same t.toJson u.toJson ↔ t = u := by
  constructor
  · exact eq_of_same hform ht
  · rintro rfl
    exact .refl t.toJson

end Written

end Node

/-! ### A form with signs -/

namespace Number

/-- Whether the highest bit is set, which is the sign. -/
def isNegative (x : Number) : Bool := decide (0x8000000000000000 ≤ x.bits.toNat)

/-- A literal of the sign of a number and its other bits; those of the zeros are `0.0` and `-0.0`. -/
def signedLiteral (x : Number) : String :=
  (if x.isNegative then "-" else "") ++ ((x.bits.toNat % 0x8000000000000000).repr ++ ".0")

/-- A literal without a sign is none with a sign. -/
theorem unsigned_ne_signed (m n : Nat) : "" ++ (m.repr ++ ".0") ≠ "-" ++ (n.repr ++ ".0") := by
  intro h
  have hsign : '-' ∈ (m.repr ++ ".0").toList := by
    rw [String.empty_append] at h
    rw [h]
    simp
  rw [String.toList_append, Nat.toList_repr, List.mem_append] at hsign
  rcases hsign with hdigit | hrest
  · cases Nat.isDigit_of_mem_toDigits (by decide) (by decide) hdigit
  · revert hrest
    decide

/-- Literals with signs tell all numbers apart. -/
theorem signedLiteral_injective {x y : Number} (h : x.signedLiteral = y.signedLiteral) : x = y := by
  unfold signedLiteral at h
  have hsign : x.isNegative = y.isNegative := by
    cases hx : x.isNegative <;> cases hy : y.isNegative
    · rfl
    · rw [hx, hy] at h
      exact absurd h (unsigned_ne_signed _ _)
    · rw [hx, hy] at h
      exact absurd h.symm (unsigned_ne_signed _ _)
    · rfl
  have hrest : x.bits.toNat % 0x8000000000000000 = y.bits.toNat % 0x8000000000000000 := by
    rw [hsign, String.append_right_inj, String.append_left_inj] at h
    have hread := congrArg (fun digits => Nat.ofDigitChars 10 digits.toList 0) h
    simpa only [Nat.toList_repr, Nat.ofDigitChars_ten_toDigits] using hread
  have hbits : x.bits.toNat = y.bits.toNat := by
    have hx := x.bits.toNat_lt
    have hy := y.bits.toNat_lt
    unfold isNegative at hsign
    rw [decide_eq_decide] at hsign
    omega
  obtain ⟨bits⟩ := x
  obtain ⟨bits'⟩ := y
  exact congrArg Number.mk (UInt64.toNat_inj.mp hbits)

/-- Numbers by their literals with signs. -/
@[reducible] def signed : NumberForm := ⟨fun x => .real x.signedLiteral⟩

theorem lossless_signed : @NumberForm.Lossless signed :=
  letI := signed
  { literal := fun {x} _ => ⟨x.signedLiteral, rfl⟩
    injective := fun _ _ h => signedLiteral_injective (Json.real.inj h) }

end Number

namespace Node

/-- An object with a key that has no value yet and a value that has no key yet, a zero with some sign,
under a slot that is filled or not. -/
def unsignedPair (slot : Option (List Expectation)) (zero : Number) : Node :=
  ⟨⟨0, 12⟩, slot, .object
    [⟨some ⟨"a", ⟨1, 4⟩, some ""⟩, none⟩, ⟨none, some ⟨⟨7, 8⟩, some [.number], .number zero⟩⟩]⟩

theorem finite_unsignedPair (slot : Option (List Expectation)) {zero : Number}
    (h : zero.isFinite = true) : (unsignedPair slot zero).Finite := by
  rw [finite_iff]
  refine ⟨nofun, fun step u hu => ?_⟩
  rcases mem_of_child? hu with ⟨members, ⟨⟩, m, hm, hvalue⟩ | ⟨items, ⟨⟩, -⟩
  simp only [List.mem_cons, List.not_mem_nil, or_false] at hm
  rcases hm with rfl | rfl
  · cases hvalue
  · cases hvalue
    rw [finite_iff]
    refine ⟨?_, fun step v hv => ?_⟩
    · rintro value ⟨⟩
      exact h
    · rcases mem_of_child? hv with ⟨_, ⟨⟩, -⟩ | ⟨_, ⟨⟩, -⟩

/-- A slot that is filled with nothing and one that is not filled are written differently, and so are
the two zeros, as `0.0` and `-0.0`. -/
theorem not_same_unsignedPair :
    letI := Number.signed
    let t := unsignedPair (some []) ⟨0⟩
    NumberForm.Lossless ∧ t.Finite ∧
      Number.toJson ⟨0⟩ = .real "0.0" ∧ Number.toJson ⟨0x8000000000000000⟩ = .real "-0.0" ∧
      ¬ Json.Same t.toJson (unsignedPair none ⟨0⟩).toJson ∧
      ¬ Json.Same t.toJson (unsignedPair (some []) ⟨0x8000000000000000⟩).toJson := by
  intro t
  let _ := Number.signed
  have hform : NumberForm.Lossless := Number.lossless_signed
  have ht : t.Finite := finite_unsignedPair (some []) (by decide)
  refine ⟨hform, ht, rfl, rfl, ?_, ?_⟩
  · rw [same_toJson_iff hform ht]
    intro heq
    cases congrArg Node.expectation heq
  · rw [same_toJson_iff hform ht]
    intro heq
    simp [t, unsignedPair] at heq

end Node

end DocShape
