import DocShape.Proofs.Reordered

/-!
# Completing what is half written

`Node.completed` takes out the members that have no key yet, and writes a null node behind every key
that has no value yet, in every object of a tree.

`Node.Completes` relates a tree to a completed one after both have been annotated: what they share
has the same slots. It has a parameter that says whether slots are compared at all, because alternatives
are tried on nodes whose slots differ: a null node that was written in keeps what a trial leaves in it,
and the one that merely stands for a value does not.

A tree and its completion are `Alike` (`Node.Completes.alike`), for a member without a key is under no
key, and neither a null node nor a missing value is a text.
-/

namespace DocShape

/-! ### Completing a tree -/

namespace Node

mutual

/-- The tree without members that have no key, and with null nodes behind keys that have no
value. -/
def completed : Node → Node
  | ⟨span, expectation, .object members⟩ =>
    ⟨span, expectation, .object (completedMembers members)⟩
  | ⟨span, expectation, .array items⟩ => ⟨span, expectation, .array (completedItems items)⟩
  | ⟨span, expectation, body⟩ => ⟨span, expectation, body⟩

/-- Completes every item. -/
def completedItems : List Node → List Node
  | [] => []
  | t :: ts => t.completed :: completedItems ts

/-- Takes out the members without a key, and completes the others. -/
def completedMembers : List (Member Node) → List (Member Node)
  | [] => []
  | ⟨none, _⟩ :: ms => completedMembers ms
  | ⟨some key, none⟩ :: ms =>
    ⟨some key, some (null (.point key.span.stop))⟩ :: completedMembers ms
  | ⟨some key, some t⟩ :: ms => ⟨some key, some t.completed⟩ :: completedMembers ms

end

end Node

/-! ### The relation -/

/-- Two members under the same key, of which the second completes the first. Values are related by `R`,
and the slots of the keys are compared if `slots` holds. -/
inductive Member.CompletedBy (slots : Prop) (R : Node → Node → Prop) : Member Node → Member Node → Prop
  /-- A null node is written behind a key without a value. -/
  | filled {key key' : Key} {u : Node} (hkey : key.clear = key'.clear)
    (hhover : slots → key.hover = key'.hover) (hu : u.clear = Node.null (.point key.span.stop)) :
    CompletedBy slots R ⟨some key, none⟩ ⟨some key', some u⟩
  /-- A value is completed. -/
  | kept {key key' : Key} {u u' : Node} (hkey : key.clear = key'.clear)
    (hhover : slots → key.hover = key'.hover) (hu : R u u') :
    CompletedBy slots R ⟨some key, some u⟩ ⟨some key', some u'⟩

/-- Members and the members that complete them, one after the other. -/
inductive Member.Completes (slots : Prop) (R : Node → Node → Prop) :
    List (Member Node) → List (Member Node) → Prop
  | nil : Completes slots R [] []
  /-- A member without a key is taken out, and has nothing in its slots. -/
  | dropped {value : Option Node} {ms ms' : List (Member Node)}
    (hvalue : slots → value.map Node.clear = value) (h : Completes slots R ms ms') :
    Completes slots R (⟨none, value⟩ :: ms) ms'
  /-- A member with a key is completed. -/
  | cons {m m' : Member Node} {ms ms' : List (Member Node)} (hm : CompletedBy slots R m m')
    (h : Completes slots R ms ms') : Completes slots R (m :: ms) (m' :: ms')

/-- A tree and a tree that completes it. The slots of what the two share are the same if `slots`
holds, and otherwise they may be anything. -/
inductive Node.Completes (slots : Prop) : Node → Node → Prop
  /-- What has no parts is the same. -/
  | leaf {t t' : Node} (hmembers : t.members? = none) (hitems : t.items? = none)
    (h : t.clear = t'.clear) (hslot : slots → t.expectation = t'.expectation) : Completes slots t t'
  | array {span : Span} {expectation expectation' : Option (List Expectation)}
    {items items' : List Node} (hslot : slots → expectation = expectation')
    (h : List.Forall₂ (Completes slots) items items') :
    Completes slots ⟨span, expectation, .array items⟩ ⟨span, expectation', .array items'⟩
  | object {span : Span} {expectation expectation' : Option (List Expectation)}
    {members members' : List (Member Node)} (hslot : slots → expectation = expectation')
    (h : Member.Completes slots (Completes slots) members members') :
    Completes slots ⟨span, expectation, .object members⟩ ⟨span, expectation', .object members'⟩

/-! ### Members -/

namespace Member

variable {slots slots' : Prop} {R S : Node → Node → Prop} {ms ms' : List (Member Node)}

/-- Completing keeps the text of the key. -/
theorem CompletedBy.key_text_eq {m m' : Member Node} (h : CompletedBy slots R m m') :
    m.key.map (·.text) = m'.key.map (·.text) := by
  cases h with
  | filled hkey _ _ | kept hkey _ _ =>
    have htext := congrArg Key.text hkey
    simp only [Key.text_clear] at htext
    simp only [Option.map_some, htext]

/-- Completing adds no key and takes none away. -/
theorem Completes.keys_eq (h : Completes slots R ms ms') : keys ms = keys ms' := by
  induction h with
  | nil => rfl
  | dropped _ _ ih => exact ih
  | cons hm _ ih =>
    unfold keys at ih ⊢
    rw [List.filterMap_cons, List.filterMap_cons, hm.key_text_eq, ih]

/-- Completing changes no text under a key. -/
theorem Completes.text_eq (h : Completes slots R ms ms')
    (hR : ∀ u u', R u u' → u.text? = u'.text?) (key : String) :
    (value? ms key).bind Node.text? = (value? ms' key).bind Node.text? := by
  unfold value?
  induction h with
  | nil => rfl
  | dropped _ _ ih =>
    rw [List.find?_cons, decide_eq_false nofun]
    exact ih
  | @cons m m' _ _ hm _ ih =>
    have hsame : m.Named key ↔ m'.Named key := by
      unfold Named
      rw [hm.key_text_eq]
    rw [List.find?_cons, List.find?_cons]
    by_cases hnamed : m.Named key
    · rw [decide_eq_true hnamed, decide_eq_true (hsame.mp hnamed)]
      cases hm with
      | @filled _ _ u _ _ hu =>
        have hnull : u.text? = none := by
          rw [← Node.text?_clear, hu]
          rfl
        exact hnull.symm
      | kept _ _ hu => exact hR _ _ hu
    · rw [decide_eq_false hnamed, decide_eq_false fun h => hnamed (hsame.mpr h)]
      exact ih

theorem CompletedBy.mono {m m' : Member Node} (h : CompletedBy slots R m m')
    (hslots : slots' → slots) (hRS : ∀ u, m.value = some u → ∀ u', R u u' → S u u') :
    CompletedBy slots' S m m' := by
  cases h with
  | filled hkey hhover hu => exact .filled hkey (fun hs => hhover (hslots hs)) hu
  | kept hkey hhover hu => exact .kept hkey (fun hs => hhover (hslots hs)) (hRS _ rfl _ hu)

/-- Members stay completed if fewer slots are compared, and values stay related. -/
theorem Completes.mono (h : Completes slots R ms ms') (hslots : slots' → slots)
    (hRS : ∀ m ∈ ms, ∀ u, m.value = some u → ∀ u', R u u' → S u u') :
    Completes slots' S ms ms' := by
  induction h with
  | nil => exact .nil
  | dropped hvalue _ ih =>
    exact .dropped (fun hs => hvalue (hslots hs)) (ih fun m hm => hRS m (List.mem_cons_of_mem _ hm))
  | cons hm _ ih =>
    refine .cons (hm.mono hslots (hRS _ List.mem_cons_self)) (ih fun m hm => ?_)
    exact hRS m (List.mem_cons_of_mem _ hm)

theorem CompletedBy.clear {m m' : Member Node} (h : CompletedBy slots R m m')
    (hRS : ∀ u, m.value = some u → ∀ u', R u u' → S u.clear u'.clear) :
    CompletedBy True S (Node.clearMember m) (Node.clearMember m') := by
  cases h with
  | filled hkey _ hu =>
    refine .filled (by simpa using hkey) (fun _ => rfl) ?_
    rw [Node.clear_clear, hu]
    rfl
  | kept hkey _ hu => exact .kept (by simpa using hkey) (fun _ => rfl) (hRS _ rfl _ hu)

/-- Members stay completed when their slots are emptied, and then their slots are the same. -/
theorem Completes.clear (h : Completes slots R ms ms')
    (hRS : ∀ m ∈ ms, ∀ u, m.value = some u → ∀ u', R u u' → S u.clear u'.clear) :
    Completes True S (ms.map Node.clearMember) (ms'.map Node.clearMember) := by
  induction h with
  | nil => exact .nil
  | @dropped value _ _ _ _ ih =>
    refine .dropped (fun _ => ?_) (ih fun m hm => hRS m (List.mem_cons_of_mem _ hm))
    cases value with
    | none => rfl
    | some u => exact congrArg some (Node.clear_clear u)
  | cons hm _ ih =>
    refine .cons (hm.clear (hRS _ List.mem_cons_self)) (ih fun m hm => ?_)
    exact hRS m (List.mem_cons_of_mem _ hm)

end Member

namespace Node

variable {slots slots' : Prop} {t t' : Node}

/-! ### Looking into a completed tree -/

theorem Completes.span_eq (h : t.Completes slots t') : t.span = t'.span := by
  cases h with
  | leaf _ _ hclear _ => rw [← span_clear t, hclear, span_clear]
  | array _ _ | object _ _ => rfl

theorem Completes.kind_eq (h : t.Completes slots t') : t.kind = t'.kind := by
  cases h with
  | leaf _ _ hclear _ => rw [← kind_clear t, hclear, kind_clear]
  | array _ _ | object _ _ => rfl

theorem Completes.text?_eq (h : t.Completes slots t') : t.text? = t'.text? := by
  cases h with
  | leaf _ _ hclear _ => rw [← text?_clear t, hclear, text?_clear]
  | array _ _ | object _ _ => rfl

theorem Completes.expectation_eq (h : t.Completes slots t') (hslots : slots) :
    t.expectation = t'.expectation := by
  cases h with
  | leaf _ _ _ hslot | array hslot _ | object hslot _ => exact hslot hslots

theorem Completes.labels_eq (h : t.Completes slots t') (hslots : slots) : t.labels = t'.labels := by
  unfold labels
  rw [h.expectation_eq hslots]

/-- The members of a completed object. -/
theorem Completes.members {members : List (Member Node)} (h : t.Completes slots t')
    (hmembers : t.members? = some members) :
    ∃ members', t'.members? = some members' ∧
      Member.Completes slots (Completes slots) members members' := by
  cases h with
  | leaf hnone _ _ _ =>
    rw [hmembers] at hnone
    cases hnone
  | array _ _ => cases hmembers
  | object _ h =>
    cases hmembers
    exact ⟨_, rfl, h⟩

/-- The items of an array whose items are completed. -/
theorem Completes.items {items : List Node} (h : t.Completes slots t')
    (hitems : t.items? = some items) :
    ∃ items', t'.items? = some items' ∧ List.Forall₂ (Completes slots) items items' := by
  cases h with
  | leaf _ hnone _ _ =>
    rw [hitems] at hnone
    cases hnone
  | array _ h =>
    cases hitems
    exact ⟨_, rfl, h⟩
  | object _ _ => cases hitems

/-- **Completing is not seen**: a tree and one that completes it are alike. -/
theorem Completes.alike (h : t.Completes slots t') : t.Alike t' := by
  refine .of_members h.span_eq h.kind_eq h.text?_eq fun members hmembers => ?_
  obtain ⟨members', hmembers', hcompletes⟩ := h.members hmembers
  refine ⟨members', hmembers', fun key => ?_, fun key => ?_⟩
  · exact hcompletes.text_eq (fun _ _ hu => hu.text?_eq) key
  · rw [hcompletes.keys_eq]

/-! ### Slots -/

/-- A completed tree stays one if fewer slots are compared. -/
theorem Completes.mono (h : t.Completes slots t') (hslots : slots' → slots) :
    t.Completes slots' t' := by
  induction t using Node.induction generalizing t' with
  | leaf t hmembers hitems =>
    cases h with
    | leaf _ _ hclear hslot => exact .leaf hmembers hitems hclear fun hs => hslot (hslots hs)
    | array _ _ => cases hitems
    | object _ _ => cases hmembers
  | array span expectation items ih =>
    cases h with
    | leaf _ hitems _ _ => cases hitems
    | array hslot h =>
      have hmap := forall₂_map_of_mem (S := Completes slots') (f := id) (g := id) h
        fun u hu u' hrel => ih u hu hrel
      rw [List.map_id, List.map_id] at hmap
      exact .array (fun hs => hslot (hslots hs)) hmap
  | object span expectation members ih =>
    cases h with
    | leaf hmembers _ _ _ => cases hmembers
    | object hslot h =>
      refine .object (fun hs => hslot (hslots hs)) (h.mono hslots fun m hm u hu u' hrel => ?_)
      exact ih m hm u hu hrel

/-- Emptied slots are the same. -/
theorem Completes.clear (h : t.Completes slots t') : t.clear.Completes True t'.clear := by
  induction t using Node.induction generalizing t' with
  | leaf t hmembers hitems =>
    cases h with
    | leaf _ _ hclear _ =>
      rw [← hclear]
      refine .leaf ?_ ?_ rfl fun _ => rfl
      · rw [members?_clear, hmembers, Option.map_none]
      · rw [items?_clear, hitems, Option.map_none]
    | array _ _ => cases hitems
    | object _ _ => cases hmembers
  | array span expectation items ih =>
    cases h with
    | leaf _ hitems _ _ => cases hitems
    | array _ h =>
      rw [clear_eq, clear_eq]
      exact .array (fun _ => rfl) (forall₂_map_of_mem h fun u hu u' hrel => ih u hu hrel)
  | object span expectation members ih =>
    cases h with
    | leaf hmembers _ _ _ => cases hmembers
    | object _ h =>
      rw [clear_eq, clear_eq]
      exact .object (fun _ => rfl) (h.clear fun m hm u hu u' hrel => ih m hm u hu hrel)

/-- The slots of two nodes may be filled in the same way, or in any way if slots are not
compared. -/
theorem Completes.expecting {expected expected' : List Expectation} (h : t.Completes slots t')
    (hslot : slots → expected = expected') :
    (t.expecting expected).Completes slots (t'.expecting expected') := by
  have hslot' : slots → some expected = some expected' := fun hs => congrArg some (hslot hs)
  cases h with
  | leaf hmembers hitems hclear _ =>
    refine .leaf hmembers hitems ?_ hslot'
    rw [clear_expecting, clear_expecting, hclear]
  | array _ h => exact .array hslot' h
  | object _ h => exact .object hslot' h

/-! ### The completion of a tree -/

/-- The members of a completed object complete its members. -/
theorem completes_completedMembers {members : List (Member Node)}
    (h : ∀ m ∈ members, ∀ u, m.value = some u → u.Completes False u.completed) :
    Member.Completes False (Completes False) members (completedMembers members) := by
  induction members with
  | nil =>
    rw [completedMembers]
    exact .nil
  | cons m members ih =>
    have hrest := ih fun m' hm' => h m' (List.mem_cons_of_mem _ hm')
    obtain ⟨_ | key, _ | u⟩ := m
    · rw [completedMembers]
      exact .dropped nofun hrest
    · rw [completedMembers]
      exact .dropped nofun hrest
    · rw [completedMembers]
      exact .cons (.filled rfl nofun rfl) hrest
    · rw [completedMembers]
      exact .cons (.kept rfl nofun (h _ List.mem_cons_self u rfl)) hrest

/-- Items are completed one by one. -/
theorem completedItems_eq_map (items : List Node) : completedItems items = items.map completed := by
  induction items with
  | nil => rfl
  | cons t ts ih => rw [completedItems, ih, List.map_cons]

/-- **The completion** of a tree completes it. -/
theorem completes_completed (t : Node) : t.Completes False t.completed := by
  induction t using Node.induction with
  | leaf t hmembers hitems =>
    have hsame : t.completed = t := by
      obtain ⟨span, expectation, body⟩ := t
      cases body with
      | object _ => cases hmembers
      | array _ => cases hitems
      | string _ | number _ | boolean _ | null => rfl
    rw [hsame]
    exact .leaf hmembers hitems rfl nofun
  | array span expectation items ih =>
    rw [completed, completedItems_eq_map]
    refine .array nofun ?_
    have hmap := forall₂_map_of_mem (S := Completes False) (f := id) (g := completed)
      (List.forall₂_same.mpr fun u (_ : u ∈ items) => rfl) fun u hu u' hu' => hu' ▸ ih u hu
    rwa [List.map_id] at hmap
  | object span expectation members ih =>
    rw [completed]
    exact .object nofun (completes_completedMembers ih)

end Node

end DocShape
