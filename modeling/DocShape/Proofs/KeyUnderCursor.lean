import DocShape.Proofs.Innermost

/-!
# The key under the cursor

What is shown at an offset is the slot of a key. The search for it goes down only through nodes that
cover the offset, it does not look into the value of a member whose key covers it, and where the slot of
that key is empty it goes on with the members behind. On a tree whose parts overlap it may thus miss a
key, or answer with another one.

On a tree that is laid out like a written text it does neither (`Node.LaidOut`). There the keys and
values of an object and the items of an array are inside of the node they stand in, and no offset is
covered by two of them. Then at most one key of the whole tree covers an offset, and what is shown is
what is in the slot of that key (`Node.hover_of_key`). If no key covers it then nothing is shown, in
whatever way the tree is laid out (`Node.hoverUnder?_eq_none`).

`Node.keys` lists the keys of all members that a tree holds (`Node.mem_keys_iff`), in the order in which
the search comes by them. So the answer is the slot of the first key in the list that covers the offset.
-/

namespace DocShape

/-! ### Spans inside of and apart from others -/

namespace Span

/-- What a span covers is covered by another one too. -/
def Inside (inner outer : Span) : Prop := ∀ offset, inner.Covers offset → outer.Covers offset

/-- No offset is covered by both. -/
def Apart (s s' : Span) : Prop := ∀ offset, ¬ (s.Covers offset ∧ s'.Covers offset)

theorem Inside.trans {a b c : Span} (hab : a.Inside b) (hbc : b.Inside c) : a.Inside c :=
  fun offset h => hbc offset (hab offset h)

/-- Spans inside of spans that are apart are apart. -/
theorem Apart.mono {a a' b b' : Span} (h : a.Apart b) (ha : a'.Inside a) (hb : b'.Inside b) :
    a'.Apart b' :=
  fun offset hboth => h offset ⟨ha offset hboth.1, hb offset hboth.2⟩

/-- A span is inside of another one if it is between its ends, or covers nothing at all. -/
theorem inside_iff {inner outer : Span} :
    inner.Inside outer ↔
      inner.stop < inner.start ∨ outer.start ≤ inner.start ∧ inner.stop ≤ outer.stop := by
  constructor
  · intro h
    by_cases hlt : inner.stop < inner.start
    · exact Or.inl hlt
    · have hle : inner.start ≤ inner.stop := Nat.le_of_not_lt hlt
      obtain ⟨hstart, -⟩ := h inner.start ⟨Nat.le_refl _, hle⟩
      obtain ⟨-, hstop⟩ := h inner.stop ⟨hle, Nat.le_refl _⟩
      exact Or.inr ⟨hstart, hstop⟩
  · rintro h offset ⟨hstart, hstop⟩
    unfold Covers
    omega

/-- Spans are apart if one ends before the other one starts, or if one of them covers nothing. -/
theorem apart_iff {s s' : Span} :
    s.Apart s' ↔
      (s.stop < s.start ∨ s'.stop < s'.start) ∨ s.stop < s'.start ∨ s'.stop < s.start := by
  constructor
  · intro h
    have hnot := h (max s.start s'.start)
    unfold Covers at hnot
    omega
  · rintro h offset ⟨⟨hstart, hstop⟩, hstart', hstop'⟩
    omega

instance (inner outer : Span) : Decidable (inner.Inside outer) := decidable_of_iff _ inside_iff.symm

instance (s s' : Span) : Decidable (s.Apart s') := decidable_of_iff _ apart_iff.symm

end Span

/-! ### Lists of lists -/

section Lists

variable {α β γ : Type} {p : β → Bool}

/-- The element that alone meets a condition is the one that is found. -/
theorem find?_eq_of_alone {ys : List β} {b : β} (halone : ys.Pairwise fun b c => ¬ (p b ∧ p c))
    (hb : b ∈ ys) (hp : p b) : ys.find? p = some b := by
  induction ys with
  | nil => cases hb
  | cons c ys ih =>
    obtain ⟨hhead, htail⟩ := List.pairwise_cons.mp halone
    rcases List.mem_cons.mp hb with rfl | hb
    · exact List.find?_cons_of_pos hp
    · have hc : ¬ p c := fun hpc => hhead b hb ⟨hpc, hp⟩
      rw [List.find?_cons_of_neg hc]
      exact ih htail hb

/-- Each list may have an answer for the element in it that meets a condition. Where no two elements of
all lists meet it, the first answer is the one for the element found in all lists in a row. -/
theorem findSome?_eq_find?_bind {f : α → List β} {g : β → Option γ} {answer : α → Option γ}
    {xs : List α} (halone : (xs.flatMap f).Pairwise fun b c => ¬ (p b ∧ p c))
    (hanswer : ∀ x ∈ xs, answer x = ((f x).find? p).bind g) :
    xs.findSome? answer = ((xs.flatMap f).find? p).bind g := by
  induction xs with
  | nil => rfl
  | cons x xs ih =>
    rw [List.flatMap_cons] at halone
    obtain ⟨-, htail, hcross⟩ := List.pairwise_append.mp halone
    have hrest := ih htail fun y hy => hanswer y (List.mem_cons_of_mem x hy)
    rw [List.findSome?_cons, hanswer x List.mem_cons_self, hrest, List.flatMap_cons,
      List.find?_append]
    cases hfirst : (f x).find? p with
    | none => rfl
    | some b =>
      -- the answer for this element may be missing, but no list behind it has such an element
      have hnone : (xs.flatMap f).find? p = none := by
        rw [List.find?_eq_none]
        intro c hc hpc
        exact hcross b (List.mem_of_find?_eq_some hfirst) c hc ⟨List.find?_some hfirst, hpc⟩
      rw [hnone]
      show (match g b with | some d => some d | none => none) = g b
      cases g b <;> rfl

end Lists

namespace Node

/-! ### The keys of a tree -/

mutual

/-- All keys in a tree, in the order in which they are written. -/
def keys : Node → List Key
  | ⟨_, _, .object members⟩ => keysOfMembers members
  | ⟨_, _, .array items⟩ => keysOfItems items
  | _ => []

/-- The keys in every item. -/
def keysOfItems : List Node → List Key
  | [] => []
  | t :: ts => t.keys ++ keysOfItems ts

/-- The key of every member, with the keys in its value behind it. -/
def keysOfMembers : List (Member Node) → List Key
  | [] => []
  | ⟨key, none⟩ :: ms => key.toList ++ keysOfMembers ms
  | ⟨key, some t⟩ :: ms => key.toList ++ t.keys ++ keysOfMembers ms

end

/-- The keys that a member has, its own one first. -/
def keysOfMember (m : Member Node) : List Key := m.key.toList ++ m.value.toList.flatMap keys

variable {offset : Nat} {span : Span} {expectation : Option (List Expectation)} {t u : Node}
  {m : Member Node} {members : List (Member Node)} {items : List Node} {key : Key}

theorem keys_array : (⟨span, expectation, .array items⟩ : Node).keys = items.flatMap keys := by
  show keysOfItems items = _
  induction items with
  | nil => rfl
  | cons u items ih => rw [keysOfItems, ih, List.flatMap_cons]

theorem keys_object :
    (⟨span, expectation, .object members⟩ : Node).keys = members.flatMap keysOfMember := by
  show keysOfMembers members = _
  induction members with
  | nil => rfl
  | cons m members ih =>
    obtain ⟨key, _ | u⟩ := m <;> simp [keysOfMembers, keysOfMember, ih]

theorem mem_keysOfMember :
    key ∈ keysOfMember m ↔ m.key = some key ∨ ∃ u, m.value = some u ∧ key ∈ u.keys := by
  simp [keysOfMember]

/-- The keys of a tree are those of the members that it holds. -/
theorem mem_keys_iff : key ∈ t.keys ↔ ∃ m, t.HoldsMember m ∧ m.key = some key := by
  induction t using Node.induction with
  | object span expectation members ih =>
    rw [keys_object, List.mem_flatMap]
    constructor
    · rintro ⟨n, hn, hkey⟩
      rcases mem_keysOfMember.mp hkey with hkey | ⟨u, hu, hkey⟩
      · exact ⟨n, (holdsMember_of_members rfl).mpr (Or.inl hn), hkey⟩
      · obtain ⟨m, hm, hkey⟩ := (ih n hn u hu).mp hkey
        exact ⟨m, (holdsMember_of_members rfl).mpr (Or.inr ⟨n, hn, u, hu, hm⟩), hkey⟩
    · rintro ⟨m, hm, hkey⟩
      rcases (holdsMember_of_members rfl).mp hm with hm | ⟨n, hn, u, hu, hm⟩
      · exact ⟨m, hm, mem_keysOfMember.mpr (Or.inl hkey)⟩
      · exact ⟨n, hn, mem_keysOfMember.mpr (Or.inr ⟨u, hu, (ih n hn u hu).mpr ⟨m, hm, hkey⟩⟩)⟩
  | array span expectation items ih =>
    rw [keys_array, List.mem_flatMap]
    constructor
    · rintro ⟨u, hu, hkey⟩
      obtain ⟨m, hm, hkey⟩ := (ih u hu).mp hkey
      exact ⟨m, (holdsMember_of_items rfl).mpr ⟨u, hu, hm⟩, hkey⟩
    · rintro ⟨m, hm, hkey⟩
      obtain ⟨u, hu, hm⟩ := (holdsMember_of_items rfl).mp hm
      exact ⟨u, hu, (ih u hu).mpr ⟨m, hm, hkey⟩⟩
  | leaf t hmembers hitems =>
    have hnone : t.keys = [] := by
      obtain ⟨span, expectation, body⟩ := t
      cases body with
      | object members => cases hmembers
      | array items => cases hitems
      | string _ | number _ | boolean _ | null => rfl
    rw [hnone]
    constructor
    · intro hmem
      cases hmem
    · rintro ⟨m, hm, -⟩
      exact absurd hm (not_holdsMember hmembers hitems m)

/-! ### Layout -/

/-- Where the key and the value of a member stand. -/
def piecesOfMember (m : Member Node) : List Span :=
  m.key.toList.map (·.span) ++ m.value.toList.map (·.span)

/-- Where the parts of a node stand: the keys and values of an object, or the items of an array. -/
def pieces (t : Node) : List Span :=
  match t.body with
  | .object members => members.flatMap piecesOfMember
  | .array items => items.map (·.span)
  | _ => []

theorem span_mem_of_key (hkey : m.key = some key) : key.span ∈ piecesOfMember m := by
  simp [piecesOfMember, hkey]

theorem span_mem_of_value (hu : m.value = some u) : u.span ∈ piecesOfMember m := by
  simp [piecesOfMember, hu]

/-- A tree is laid out if the parts of every node in it are inside of that node and apart from each
other. -/
inductive LaidOut : Node → Prop
  /-- It is seen level by level. -/
  | intro {t : Node} (inside : ∀ piece ∈ t.pieces, piece.Inside t.span)
    (apart : t.pieces.Pairwise Span.Apart) (values : ∀ u ∈ t.values, u.LaidOut) : LaidOut t

/-- If the keys in the value of a member are inside of it then every key that the member has is inside
of one of its own parts. -/
theorem exists_piece_of_mem_keysOfMember
    (hvalue : ∀ u, m.value = some u → ∀ k ∈ u.keys, k.span.Inside u.span)
    (hkey : key ∈ keysOfMember m) : ∃ piece ∈ piecesOfMember m, key.span.Inside piece := by
  rcases mem_keysOfMember.mp hkey with hkey | ⟨u, hu, hkey⟩
  · exact ⟨key.span, span_mem_of_key hkey, fun _ h => h⟩
  · exact ⟨u.span, span_mem_of_value hu, hvalue u hu key hkey⟩

/-- Every key of a tree that is laid out is inside of it. -/
theorem LaidOut.inside (h : t.LaidOut) : ∀ key ∈ t.keys, key.span.Inside t.span := by
  induction h with
  | @intro t inside _ _ ih =>
    obtain ⟨span, expectation, body⟩ := t
    intro key hkey
    cases body with
    | object members =>
      rw [keys_object] at hkey
      obtain ⟨m, hm, hkey⟩ := List.mem_flatMap.mp hkey
      have hvalue : ∀ u, m.value = some u → ∀ k ∈ u.keys, k.span.Inside u.span := fun u hu =>
        ih u (mem_values_of_members hm hu)
      obtain ⟨piece, hpiece, hinside⟩ := exists_piece_of_mem_keysOfMember hvalue hkey
      exact hinside.trans (inside piece (List.mem_flatMap.mpr ⟨m, hm, hpiece⟩))
    | array items =>
      rw [keys_array] at hkey
      obtain ⟨u, hu, hkey⟩ := List.mem_flatMap.mp hkey
      exact (ih u hu key hkey).trans (inside u.span (List.mem_map_of_mem hu))
    | string _ | number _ | boolean _ | null => cases hkey

/-- The key of a member is apart from its value, and so from the keys in there. -/
theorem keysOfMember_apart (hown : (piecesOfMember m).Pairwise Span.Apart)
    (hinside : ∀ u, m.value = some u → ∀ k ∈ u.keys, k.span.Inside u.span)
    (hvalue : ∀ u, m.value = some u → u.keys.Pairwise fun k k' => k.span.Apart k'.span) :
    (keysOfMember m).Pairwise fun k k' => k.span.Apart k'.span := by
  obtain ⟨-, -, hcross⟩ := List.pairwise_append.mp hown
  refine List.pairwise_append.mpr ⟨?_, ?_, ?_⟩
  · cases m.key <;> simp
  · cases hu : m.value with
    | none => exact .nil
    | some u =>
      rw [Option.toList_some, List.flatMap_singleton]
      exact hvalue u hu
  · intro k hk k' hk'
    obtain ⟨u, hu, hk'⟩ := List.mem_flatMap.mp hk'
    have hapart : k.span.Apart u.span :=
      hcross k.span (List.mem_map_of_mem hk) u.span (List.mem_map_of_mem hu)
    exact hapart.mono (fun _ h => h) (hinside u (Option.mem_toList.mp hu) k' hk')

/-- **The keys** of a tree that is laid out are apart from each other, however deep they are. -/
theorem LaidOut.keys_apart (h : t.LaidOut) :
    t.keys.Pairwise fun k k' => k.span.Apart k'.span := by
  induction h with
  | @intro t _ apart values ih =>
    obtain ⟨span, expectation, body⟩ := t
    cases body with
    | object members =>
      have hinside : ∀ m ∈ members, ∀ u, m.value = some u → ∀ k ∈ u.keys, k.span.Inside u.span :=
        fun m hm u hu => (values u (mem_values_of_members hm hu)).inside
      obtain ⟨hown, hcross⟩ := List.pairwise_flatMap.mp apart
      rw [keys_object, List.pairwise_flatMap]
      refine ⟨fun m hm => ?_, hcross.imp_of_mem fun {m m'} hm hm' hpieces k hk k' hk' => ?_⟩
      · exact keysOfMember_apart (hown m hm) (hinside m hm) fun u hu =>
          ih u (mem_values_of_members hm hu)
      · obtain ⟨piece, hpiece, hk⟩ := exists_piece_of_mem_keysOfMember (hinside m hm) hk
        obtain ⟨piece', hpiece', hk'⟩ := exists_piece_of_mem_keysOfMember (hinside m' hm') hk'
        exact (hpieces piece hpiece piece' hpiece').mono hk hk'
    | array items =>
      have hitems : items.Pairwise fun u v => u.span.Apart v.span := List.pairwise_map.mp apart
      rw [keys_array, List.pairwise_flatMap]
      refine ⟨ih, hitems.imp_of_mem fun {u v} hu hv hspans k hk k' hk' => ?_⟩
      exact hspans.mono ((values u hu).inside k hk) ((values v hv).inside k' hk')
    | string _ | number _ | boolean _ | null => exact .nil

/-- No two keys of a tree that is laid out cover an offset. -/
theorem LaidOut.keys_alone (h : t.LaidOut) (offset : Nat) :
    t.keys.Pairwise fun k k' =>
      ¬ (decide (k.span.Covers offset) ∧ decide (k'.span.Covers offset)) := by
  refine h.keys_apart.imp fun {k k'} hapart => ?_
  rw [decide_eq_true_iff, decide_eq_true_iff]
  exact hapart offset

/-! ### The search -/

/-- The answer of one member: the slot of its key if that covers the offset, or else the answer of its
value. -/
def hoverUnderMember? (offset : Nat) (m : Member Node) : Option String :=
  if onKey offset m.key then m.key.bind (·.hover) else m.value.bind (hoverUnder? offset)

/-- An object that covers the offset gives the first answer of its members. -/
theorem hoverUnder?_object : (⟨span, expectation, .object members⟩ : Node).hoverUnder? offset =
    if span.Covers offset then members.findSome? (hoverUnderMember? offset) else none := by
  have hfirst : hoverUnderMembers? offset members = members.findSome? (hoverUnderMember? offset) := by
    induction members with
    | nil => rfl
    | cons m members ih =>
      rw [List.findSome?_cons]
      obtain ⟨key, _ | u⟩ := m
      · rw [hoverUnderMembers?, ih]
        show (hoverUnderMember? offset ⟨key, none⟩).or _ = _
        cases hoverUnderMember? offset ⟨key, none⟩ <;> rfl
      · rw [hoverUnderMembers?, ih]
        show (hoverUnderMember? offset ⟨key, some u⟩).or _ = _
        cases hoverUnderMember? offset ⟨key, some u⟩ <;> rfl
  rw [hoverUnder?, hfirst]

/-- An array that covers the offset gives the first answer of its items. -/
theorem hoverUnder?_array : (⟨span, expectation, .array items⟩ : Node).hoverUnder? offset =
    if span.Covers offset then items.findSome? (hoverUnder? offset) else none := by
  have hfirst : hoverUnderItems? offset items = items.findSome? (hoverUnder? offset) :=
    eq_findSome?_of_items rfl (fun _ _ => rfl) items
  rw [hoverUnder?, hfirst]

/-- The key at an offset: the first one in the tree that covers it. -/
def key? (t : Node) (offset : Nat) : Option Key :=
  t.keys.find? fun k => decide (k.span.Covers offset)

theorem key?_eq_none_iff : t.key? offset = none ↔ ∀ key ∈ t.keys, ¬ key.span.Covers offset := by
  simp [key?]

/-- **Nothing is shown** where no key covers the offset. -/
theorem hoverUnder?_eq_none (h : ∀ key ∈ t.keys, ¬ key.span.Covers offset) :
    t.hoverUnder? offset = none := by
  induction t using Node.induction with
  | object span expectation members ih =>
    rw [keys_object] at h
    have hmembers : members.findSome? (hoverUnderMember? offset) = none := by
      rw [List.findSome?_eq_none_iff]
      intro m hm
      have hkeys : ∀ key ∈ keysOfMember m, ¬ key.span.Covers offset := fun key hkey =>
        h key (List.mem_flatMap.mpr ⟨m, hm, hkey⟩)
      have hkey : onKey offset m.key = false := by
        cases hkey : m.key with
        | none => rfl
        | some key => exact decide_eq_false (hkeys key (mem_keysOfMember.mpr (Or.inl hkey)))
      have hvalue : m.value.bind (hoverUnder? offset) = none := by
        rw [Option.bind_eq_none_iff]
        intro u hu
        refine ih m hm u hu fun key hkey => ?_
        exact hkeys key (mem_keysOfMember.mpr (Or.inr ⟨u, hu, hkey⟩))
      rw [hoverUnderMember?, hkey, hvalue]
      rfl
    rw [hoverUnder?_object, hmembers, ite_self]
  | array span expectation items ih =>
    rw [keys_array] at h
    have hitems : items.findSome? (hoverUnder? offset) = none := by
      rw [List.findSome?_eq_none_iff]
      intro u hu
      exact ih u hu fun key hkey => h key (List.mem_flatMap.mpr ⟨u, hu, hkey⟩)
    rw [hoverUnder?_array, hitems, ite_self]
  | leaf t hmembers hitems =>
    obtain ⟨span, expectation, body⟩ := t
    cases body with
    | object members => cases hmembers
    | array items => cases hitems
    | string _ | number _ | boolean _ | null => rfl

/-- The answer of a member is the slot of the first key in it that covers the offset, if the answer of
its value is. -/
theorem hoverUnderMember?_eq
    (hvalue : ∀ u, m.value = some u → u.hoverUnder? offset = (u.key? offset).bind (·.hover)) :
    hoverUnderMember? offset m =
      ((keysOfMember m).find? fun k => decide (k.span.Covers offset)).bind (·.hover) := by
  have hvalue' : m.value.bind (hoverUnder? offset) =
      ((m.value.toList.flatMap keys).find? fun k => decide (k.span.Covers offset)).bind
        (·.hover) := by
    cases hu : m.value with
    | none => rfl
    | some u =>
      rw [Option.toList_some, List.flatMap_singleton]
      exact hvalue u hu
  unfold hoverUnderMember? keysOfMember
  rw [List.find?_append]
  cases m.key with
  | none => exact hvalue'
  | some key =>
    by_cases hcovers : key.span.Covers offset
    · simp [onKey, hcovers]
    · simp [onKey, hcovers, hvalue']

/-- In a tree that is laid out, what is shown is what is in the slot of the key at the offset. -/
theorem LaidOut.hoverUnder?_eq (h : t.LaidOut) (offset : Nat) :
    t.hoverUnder? offset = (t.key? offset).bind (·.hover) := by
  induction h with
  | @intro t inside apart values ih =>
    have hlaid : t.LaidOut := .intro inside apart values
    have halone := hlaid.keys_alone offset
    by_cases hcovers : t.span.Covers offset
    · obtain ⟨span, expectation, body⟩ := t
      cases body with
      | object members =>
        rw [keys_object] at halone
        rw [hoverUnder?_object, if_pos hcovers, key?, keys_object]
        refine findSome?_eq_find?_bind halone fun m hm => ?_
        exact hoverUnderMember?_eq fun u hu => ih u (mem_values_of_members hm hu)
      | array items =>
        rw [keys_array] at halone
        rw [hoverUnder?_array, if_pos hcovers, key?, keys_array]
        exact findSome?_eq_find?_bind halone ih
      | string _ | number _ | boolean _ | null => rfl
    · -- no key covers an offset outside of the tree, so the search may stop there
      have hnone : ∀ key ∈ t.keys, ¬ key.span.Covers offset := fun key hkey hkeyCovers =>
        hcovers (hlaid.inside key hkey offset hkeyCovers)
      rw [hoverUnder?_eq_none hnone, key?_eq_none_iff.mpr hnone]
      rfl

/-- **The key under the cursor** is found, in every tree that is laid out. Its keys are apart from each
other, so at most one of them covers an offset. If one does then what is shown is what is in its slot,
even if that is empty, and if none does then nothing is shown. -/
theorem hover_of_key (h : t.LaidOut) (offset : Nat) :
    (t.keys.Pairwise fun k k' => k.span.Apart k'.span) ∧
    (∀ key ∈ t.keys, key.span.Covers offset → t.hoverUnder? offset = key.hover) ∧
    ((∀ key ∈ t.keys, ¬ key.span.Covers offset) → t.hoverUnder? offset = none) := by
  refine ⟨h.keys_apart, fun key hkey hcovers => ?_, hoverUnder?_eq_none⟩
  have hfound : t.key? offset = some key :=
    find?_eq_of_alone (h.keys_alone offset) hkey (decide_eq_true hcovers)
  rw [h.hoverUnder?_eq offset, hfound]
  rfl

/-- An object in an array in an object, and another one that is the value of a member without a key. The
key in the middle has nothing in its slot. -/
def nestedKeys : Node :=
  ⟨⟨0, 26⟩, none, .object
    [⟨some ⟨"a", ⟨1, 4⟩, some "first"⟩, some ⟨⟨5, 16⟩, none, .array
      [⟨⟨6, 13⟩, none, .object [⟨some ⟨"b", ⟨7, 10⟩, none⟩, some (.null ⟨11, 12⟩)⟩]⟩,
       .null ⟨14, 15⟩]⟩⟩,
     ⟨none, some ⟨⟨18, 25⟩, none, .object
      [⟨some ⟨"c", ⟨19, 22⟩, some "last"⟩, some (.null ⟨23, 24⟩)⟩]⟩⟩]⟩

/-- Each of its keys is found, the last one through the member without a key, and between the keys there
is nothing. -/
theorem hover_of_nestedKeys :
    nestedKeys.LaidOut ∧ nestedKeys.hoverUnder? 2 = some "first" ∧
      nestedKeys.hoverUnder? 10 = none ∧ nestedKeys.hoverUnder? 20 = some "last" ∧
      nestedKeys.hoverUnder? 11 = none := by
  have hnull : ∀ span, (null span).LaidOut := fun span =>
    .intro (List.forall_mem_nil _) .nil (List.forall_mem_nil _)
  have hlaid : nestedKeys.LaidOut := by
    refine .intro (by decide) (by decide)
      (List.forall_mem_cons.mpr ⟨?_, List.forall_mem_singleton.mpr ?_⟩)
    · refine .intro (by decide) (by decide)
        (List.forall_mem_cons.mpr ⟨?_, List.forall_mem_singleton.mpr (hnull _)⟩)
      exact .intro (by decide) (by decide) (List.forall_mem_singleton.mpr (hnull _))
    · exact .intro (by decide) (by decide) (List.forall_mem_singleton.mpr (hnull _))
  have hkeys : nestedKeys.keys =
      [⟨"a", ⟨1, 4⟩, some "first"⟩, ⟨"b", ⟨7, 10⟩, none⟩, ⟨"c", ⟨19, 22⟩, some "last"⟩] := rfl
  refine ⟨hlaid, ?_, ?_, ?_, ?_⟩
  · exact (hover_of_key hlaid 2).2.1 ⟨"a", ⟨1, 4⟩, some "first"⟩ (by simp [hkeys]) (by decide)
  · exact (hover_of_key hlaid 10).2.1 ⟨"b", ⟨7, 10⟩, none⟩ (by simp [hkeys]) (by decide)
  · exact (hover_of_key hlaid 20).2.1 ⟨"c", ⟨19, 22⟩, some "last"⟩ (by simp [hkeys]) (by decide)
  · exact (hover_of_key hlaid 11).2.2 (by rw [hkeys]; decide)

end Node

end DocShape
