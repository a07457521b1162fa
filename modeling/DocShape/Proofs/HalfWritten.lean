import DocShape.Proofs.Completion
import DocShape.Proofs.Fuel

/-!
# Half-written trees

A tree is checked as if it were complete: a member without a key counts for nothing, and a key without
a value counts as if a null node stood behind it (`report_completed`). The findings are the same, in
the same order, and so are the slots of what the tree and its completion share. This needs schemas that
are `Unkeyed`: where keys have a schema of their own, a value that is not there is not checked.

One step of a check ignores what is not written yet if everything further inside does
(`Check.step_ignoresGaps`); the rest is an induction on the fuel. The law is about nodes with slots
either empty or not compared: a union tries its alternatives on a null node that keeps what each of
them expects, and on a null node that is made anew for each of them. Nothing of a trial remains but
what it expected of the node itself, and this is the same whatever it left further inside.
-/

namespace DocShape

/-! ### Schemas without schemas for keys -/

/-- A schema that uses none in which keys have a schema of their own. -/
def Schema.Unkeyed {ε : Type} (schemas : Table (Schema ε)) (s : Schema ε) : Prop :=
  ∀ keys fields, ¬ s.Uses schemas (.object (.keyed keys fields))

namespace Schema.Unkeyed

variable {ε : Type} {schemas : Table (Schema ε)} {s p : Schema ε}

theorem ne_keyed (h : s.Unkeyed schemas) (keys : Schema ε) (fields : Fields (Schema ε)) :
    s ≠ .object (.keyed keys fields) := by
  rintro rfl
  exact h keys fields (.self _)

theorem part (h : s.Unkeyed schemas) (hp : p ∈ s.parts) : p.Unkeyed schemas :=
  fun keys fields huses => h keys fields (.part hp huses)

/-- A name uses what is registered under it. -/
theorem named_iff {name : String} :
    (Schema.named name).Unkeyed schemas ↔
      ∀ p, schemas.get? name = some p → p.Unkeyed schemas := by
  constructor
  · intro h p hget keys fields huses
    exact h keys fields (.named hget huses)
  · intro h keys fields huses
    cases huses with
    | part hp _ => cases hp
    | named hget huses => exact h _ hget keys fields huses

/-- What is no name, and has no schema for keys, uses none if its parts use none. -/
theorem of_parts (hname : ∀ name, s ≠ .named name)
    (hkeyed : ∀ keys fields, s ≠ .object (.keyed keys fields))
    (hparts : ∀ p ∈ s.parts, p.Unkeyed schemas) : s.Unkeyed schemas := by
  intro keys fields huses
  cases huses with
  | self => exact hkeyed keys fields rfl
  | part hp h => exact hparts _ hp keys fields h
  | named _ _ => exact hname _ rfl

/-- What is selected uses no schemas for keys if the selector's schemas use none. -/
theorem choose {selector : Selector (Schema ε)} (h : ∀ p ∈ selector.schemas, p.Unkeyed schemas)
    (t : Node) (value : Option String) :
    (selector.choose Schema.record t value).1.Unkeyed schemas := by
  rcases selector.choose_cases Schema.record t value with hopen | ⟨r, hr, hschemas, -⟩
  · exact h _ (Selector.mem_schemas_of_mem_open hopen)
  · rw [hr]
    refine of_parts nofun nofun fun p hp => ?_
    rcases List.mem_cons.mp hp with rfl | hp
    · exact of_parts nofun nofun nofun
    · exact h p (hschemas p hp)

end Schema.Unkeyed

/-- A node is handed on from schemas without schemas for keys to such schemas. -/
theorem Check.unkeyed_of_relay {ε : Type} [CustomCheck ε] [Picking ε] {env : Environment ε}
    {sc : Scope} {t : Node} {s : Schema ε} {r : Relay ε} (hs : s.Unkeyed env.schemas)
    (h : relay? env sc t s = some r) : r.schema.Unkeyed env.schemas := by
  cases s with
  | anything | scalar _ | oneOf _ | matching _ | object _ | array _ | union _ => cases h
  | named name =>
    obtain ⟨c, hget, rfl⟩ := Option.map_eq_some_iff.mp h
    exact Schema.Unkeyed.named_iff.mp hs c hget
  | documented path c =>
    cases h
    exact hs.part (List.mem_singleton_self c)
  | switch key selector =>
    obtain ⟨members, -, rfl⟩ := Option.map_eq_some_iff.mp h
    exact .choose (fun p hp => hs.part hp) t _
  | select selector =>
    cases h
    exact .choose (fun p hp => hs.part hp) t none
  | custom custom parts =>
    obtain ⟨c, hpart, rfl⟩ := Option.map_eq_some_iff.mp h
    exact hs.part (List.mem_of_getElem? hpart)

/-! ### Runs that ignore what is not written yet -/

/-- Two outcomes of a check, on a node and on one that completes it: the logs are the same, and the
nodes still complete each other. The slots of the nodes are the same if they were before, whether or
not slots further inside are. -/
structure Outcome.Completes (slots : Prop) (t t' : Node) (o o' : Outcome) : Prop where
  log : o.log = o'.log
  node : o.node.Completes slots o'.node
  slot (h : t.expectation = t'.expectation) : o.node.expectation = o'.node.expectation

namespace Check

/-- A run that comes to the same on a node and on one that completes it. Slots are either empty or
not compared. -/
def IgnoresGaps (env : Environment Discriminator) (run : Run Discriminator) : Prop :=
  ∀ s : Schema Discriminator, s.Unkeyed env.schemas → ∀ sc t t' slots, t.Completes slots t' →
    (slots → t.clear = t ∧ t'.clear = t') →
      Outcome.Completes slots t t' (run s sc t) (run s sc t')

section Step

variable {env : Environment Discriminator} {run : Run Discriminator} (hrun : IgnoresGaps env run)
  {sc : Scope} {slots : Prop} {t t' : Node}

/-! ### Objects -/

section Members

variable (hkeeps : Keeps run) {keys : List String} {fields : Fields (Schema Discriminator)}
  (hfields : ∀ p ∈ fields.schemas, p.Unkeyed env.schemas)

include hrun hkeeps hfields

/-- A member with a key comes to the same as one that completes it. -/
theorem checkDeclared_completedBy {m m' : Member Node}
    (h : m.CompletedBy slots (Node.Completes slots) m')
    (hempty : slots → Node.clearMember m = m ∧ Node.clearMember m' = m') :
    (checkDeclared env run keys fields sc m).2 = (checkDeclared env run keys fields sc m').2 ∧
    Member.CompletedBy slots (Node.Completes slots) (checkDeclared env run keys fields sc m).1
      (checkDeclared env run keys fields sc m').1 := by
  cases h with
  | @filled key key' u hkey hhover hu =>
    obtain ⟨text, span, hover⟩ := key
    obtain ⟨text', span', hover'⟩ := key'
    cases hkey
    by_cases hmem : text ∈ keys
    · have hclear : slots → u.clear = u := fun hs =>
        Option.some.inj (congrArg Member.value (hempty hs).2)
      -- the null node that stands for the value has an empty slot
      have hnull : (Node.null (.point span.stop)).Completes slots u := by
        refine .leaf rfl rfl hu.symm fun hs => ?_
        rw [← hclear hs, hu]
      have ho := hrun (fields.property text).schema (hfields _ (fields.property_mem text))
        (propertyScope (fields.property text) text sc) _ u slots hnull fun hs => ⟨rfl, hclear hs⟩
      rw [checkDeclared_of_mem hmem, checkDeclared_of_mem hmem]
      refine ⟨congrArg (deprecationLog (fields.property text) ⟨text, span, hover⟩ ++ ·) ho.log, ?_⟩
      refine .filled rfl (fun hslots => ?_) ((hkeeps _ _ u).trans hu)
      exact congrArg (fun labels => some (env.settings.hover _ labels _)) (ho.node.labels_eq hslots)
    · rw [checkDeclared_of_not_mem hmem, checkDeclared_of_not_mem hmem]
      exact ⟨rfl, .filled rfl hhover hu⟩
  | @kept key key' u u' hkey hhover hu =>
    obtain ⟨text, span, hover⟩ := key
    obtain ⟨text', span', hover'⟩ := key'
    cases hkey
    by_cases hmem : text ∈ keys
    · have hclear : slots → u.clear = u ∧ u'.clear = u' := fun hs =>
        ⟨Option.some.inj (congrArg Member.value (hempty hs).1),
          Option.some.inj (congrArg Member.value (hempty hs).2)⟩
      have ho := hrun (fields.property text).schema (hfields _ (fields.property_mem text))
        (propertyScope (fields.property text) text sc) u u' slots hu hclear
      rw [checkDeclared_of_mem hmem, checkDeclared_of_mem hmem]
      refine ⟨congrArg (deprecationLog (fields.property text) ⟨text, span, hover⟩ ++ ·) ho.log, ?_⟩
      refine .kept rfl (fun hslots => ?_) ho.node
      exact congrArg (fun labels => some (env.settings.hover _ labels _)) (ho.node.labels_eq hslots)
    · rw [checkDeclared_of_not_mem hmem, checkDeclared_of_not_mem hmem]
      exact ⟨rfl, .kept rfl hhover hu⟩

/-- **Members that complete each other** come to the same: the logs are the same, and afterwards they
still complete each other. -/
theorem checkDeclared_completes {members members' : List (Member Node)}
    (h : Member.Completes slots (Node.Completes slots) members members')
    (hempty : slots → members.map Node.clearMember = members)
    (hempty' : slots → members'.map Node.clearMember = members') :
    Log.join ((members.map (checkDeclared env run keys fields sc)).map (·.2)) =
      Log.join ((members'.map (checkDeclared env run keys fields sc)).map (·.2)) ∧
    Member.Completes slots (Node.Completes slots)
      ((members.map (checkDeclared env run keys fields sc)).map (·.1))
      ((members'.map (checkDeclared env run keys fields sc)).map (·.1)) := by
  induction h with
  | nil => exact ⟨rfl, .nil⟩
  | dropped hvalue _ ih =>
    obtain ⟨hlog, hrest⟩ := ih (fun hs => (List.cons.inj (hempty hs)).2) hempty'
    constructor
    · rw [← hlog]
      exact Log.empty_append _
    · exact .dropped hvalue hrest
  | cons hm _ ih =>
    obtain ⟨hlog, hrest⟩ := ih (fun hs => (List.cons.inj (hempty hs)).2)
      fun hs => (List.cons.inj (hempty' hs)).2
    obtain ⟨hhead, hpair⟩ := @checkDeclared_completedBy env run hrun sc slots hkeeps keys fields
      hfields _ _ hm fun hs => ⟨(List.cons.inj (hempty hs)).1, (List.cons.inj (hempty' hs)).1⟩
    constructor
    · simp only [List.map_cons, Log.join_cons]
      rw [hhead, hlog]
    · exact .cons hpair hrest

end Members

include hrun

/-- The members of an object and of one that completes it come to the same, whatever the shape. -/
theorem checkMembers_completes (hkeeps : Keeps run) {shape : Shape (Schema Discriminator)}
    (hshape : (Schema.object shape).Unkeyed env.schemas) (span : Span)
    {members members' : List (Member Node)}
    (h : Member.Completes slots (Node.Completes slots) members members')
    (hempty : slots → members.map Node.clearMember = members)
    (hempty' : slots → members'.map Node.clearMember = members') :
    (checkMembers env run sc span members shape).2 =
      (checkMembers env run sc span members' shape).2 ∧
    Member.Completes slots (Node.Completes slots)
      (checkMembers env run sc span members shape).1
      (checkMembers env run sc span members' shape).1 := by
  cases shape with
  | free => exact ⟨rfl, h⟩
  | fixed keys fields =>
    obtain ⟨hlog, hrest⟩ := @checkDeclared_completes env run hrun sc slots hkeeps keys fields
      (fun p hp => hshape.part hp) members members' h hempty hempty'
    have hmissing : missingLog keys fields members span = missingLog keys fields members' span := by
      unfold missingLog
      rw [h.keys_eq]
    refine ⟨?_, hrest⟩
    simp only [checkMembers]
    rw [hmissing, hlog]
  | keyed keys fields => exact absurd rfl (hshape.ne_keyed keys fields)

/-- **Objects** that complete each other come to the same. -/
theorem checkObject_completes (hkeeps : Keeps run) {shape : Shape (Schema Discriminator)}
    (hshape : (Schema.object shape).Unkeyed env.schemas) (h : t.Completes slots t')
    (hempty : slots → t.clear = t ∧ t'.clear = t') :
    Outcome.Completes slots t t' (checkObject env run shape sc t)
      (checkObject env run shape sc t') := by
  cases hmembers : t.members? with
  | none =>
    have hmembers' := h.alike.members?_eq_none_iff.mp hmembers
    rw [checkObject_of_none hmembers, checkObject_of_none hmembers', ← h.alike.wrongKind,
      ← h.span_eq]
    exact ⟨rfl, h.expecting fun _ => rfl, fun _ => rfl⟩
  | some members =>
    obtain ⟨members', hmembers', hcompletes⟩ := h.members hmembers
    obtain ⟨hlog, hrest⟩ := @checkMembers_completes env run hrun sc slots hkeeps shape hshape t.span
      members members' hcompletes
      (fun hs => Node.map_clearMember_of_clear (hempty hs).1 hmembers)
      fun hs => Node.map_clearMember_of_clear (hempty hs).2 hmembers'
    rw [checkObject_of_members hmembers, checkObject_of_members hmembers', ← h.span_eq, hlog]
    exact ⟨rfl, .object (fun _ => rfl) hrest, fun _ => rfl⟩

/-! ### Arrays -/

theorem checkArray_completes {item : Schema Discriminator}
    (hitem : (Schema.array item).Unkeyed env.schemas) (h : t.Completes slots t')
    (hempty : slots → t.clear = t ∧ t'.clear = t') :
    Outcome.Completes slots t t' (checkArray env run item sc t) (checkArray env run item sc t') := by
  cases hitems : t.items? with
  | none =>
    have hitems' : t'.items? = none := by
      rw [Node.items?_eq_none_iff, ← h.kind_eq]
      exact Node.items?_eq_none_iff.mp hitems
    rw [checkArray_of_none hitems, checkArray_of_none hitems', ← h.alike.wrongKind, ← h.span_eq]
    exact ⟨rfl, h.expecting fun _ => rfl, fun _ => rfl⟩
  | some items =>
    obtain ⟨items', hitems', hrel⟩ := h.items hitems
    obtain ⟨hlength, hzip⟩ := List.forall₂_iff_zip.mp hrel
    have ho : List.Forall₂ (fun u u' => Outcome.Completes slots u u' (run item sc u)
        (run item sc u')) items items' := by
      refine List.forall₂_iff_zip.mpr ⟨hlength, fun {u u'} hmem => ?_⟩
      obtain ⟨hu, hu'⟩ := List.of_mem_zip hmem
      refine hrun item (hitem.part (List.mem_singleton_self item)) sc u u' slots (hzip hmem) ?_
      intro hslots
      exact ⟨Node.clear_of_mem_items (hempty hslots).1 hitems hu,
        Node.clear_of_mem_items (hempty hslots).2 hitems' hu'⟩
    have hlogs : (items.map (run item sc)).map (·.log) = (items'.map (run item sc)).map (·.log) := by
      rw [List.map_map, List.map_map]
      exact map_eq_map_of_forall₂ ho fun u _ u' hu => hu.log
    rw [checkArray_of_items hitems, checkArray_of_items hitems']
    refine ⟨?_, ?_, fun _ => rfl⟩
    · dsimp only
      rw [hlogs]
    · dsimp only
      rw [List.map_map, List.map_map, ← h.span_eq]
      exact .array (fun _ => rfl) (forall₂_map_of_mem ho fun u _ u' hu => hu.node)

/-! ### Alternatives -/

/-- Trials on nodes that complete each other have the same logs, whatever they leave behind. What they
expect is the same if the slots of the nodes were the same at the start. -/
theorem trials_completes {alternatives : List (Schema Discriminator)}
    (halternatives : ∀ s ∈ alternatives, s.Unkeyed env.schemas) (h : t.Completes False t') :
    List.Forall₂ (fun o o' => o.log = o'.log ∧
        (t.expectation = t'.expectation → o.node.expectation = o'.node.expectation))
      (trials run sc alternatives t) (trials run sc alternatives t') := by
  induction alternatives generalizing t t' with
  | nil => exact .nil
  | cons s rest ih =>
    have ho := hrun s (halternatives s List.mem_cons_self) sc t t' False h nofun
    have hrest := ih (fun s' hs' => halternatives s' (List.mem_cons_of_mem _ hs')) ho.node
    rw [trials, trials, ← ho.log]
    by_cases hs : (run s sc t).log.errors = 0
    · simp only [if_pos hs]
      exact .cons ⟨ho.log, ho.slot⟩ .nil
    · simp only [if_neg hs]
      refine .cons ⟨ho.log, ho.slot⟩ (hrest.imp fun o o' hsame => ?_)
      exact ⟨hsame.1, fun hslot => hsame.2 (ho.slot hslot)⟩

/-- **Unions** on nodes that complete each other have the same winner, which comes to the same. -/
theorem checkUnion_completes (hkeeps : Keeps run) {alternatives : List (Schema Discriminator)}
    (hunion : (Schema.union alternatives).Unkeyed env.schemas) (h : t.Completes slots t') :
    Outcome.Completes slots t t' (checkUnion run alternatives sc t)
      (checkUnion run alternatives sc t') := by
  have htrials := @trials_completes env run hrun sc t t' alternatives (fun p hp => hunion.part hp)
    (h.mono nofun)
  rcases checkUnion_cases hkeeps alternatives sc t with
    ⟨rfl, heq⟩ | ⟨index, best, hbest, hindex, heq⟩
  · exact ⟨rfl, h, id⟩
  rcases checkUnion_cases hkeeps alternatives sc t' with
    ⟨rfl, _⟩ | ⟨index', best', hbest', hindex', heq'⟩
  · cases hbest
  rw [heq, heq']
  have hlogs : (trials run sc alternatives t).map (·.log) =
      (trials run sc alternatives t').map (·.log) :=
    map_eq_map_of_forall₂ htrials fun o _ o' ho => ho.1
  have hcounts : errorCounts (trials run sc alternatives t) =
      errorCounts (trials run sc alternatives t') :=
    map_eq_map_of_forall₂ htrials fun o _ o' ho => congrArg Log.errors ho.1
  rw [fewest?_congr hcounts] at hindex
  cases hindex.symm.trans hindex'
  cases hbest.symm.trans hbest'
  have hchosen := hrun best (hunion.part (List.mem_of_getElem? hbest)) sc t.clear t'.clear True h.clear
    fun _ => ⟨t.clear_clear, t'.clear_clear⟩
  have hexpected : t.expectation = t'.expectation → ∀ untried,
      unionOf (trials run sc alternatives t) index (run best sc t.clear) untried =
        unionOf (trials run sc alternatives t') index (run best sc t'.clear) untried := by
    intro hslot untried
    apply unionOf_congr
    · exact map_eq_map_of_forall₂ htrials fun o _ o' ho => ho.2 hslot
    · exact hchosen.node.expectation_eq trivial
  dsimp only
  rw [hlogs, hchosen.log, htrials.length_eq]
  refine ⟨rfl, ?_, fun hslot => ?_⟩
  · refine (hchosen.node.mono fun _ => trivial).expecting fun hslots => ?_
    exact hexpected (h.expectation_eq hslots) _
  · exact congrArg some (hexpected hslot _)

/-! ### Every schema -/

/-- **One step** ignores what is not written yet if everything further inside does. -/
theorem step_ignoresGaps (hkeeps : Keeps run) : IgnoresGaps env (Check.step env run) := by
  intro s hs sc t t' slots h hempty
  cases way env sc t s with
  | @relay _ r hrelay =>
    have hrelay' : relay? env sc t' s = some r := by
      rw [← relay?_alike h.alike]
      exact hrelay
    have ho := hrun r.schema (unkeyed_of_relay hs hrelay) r.scope t t' slots h hempty
    rw [step_of_relay hrelay, step_of_relay hrelay']
    exact ⟨congrArg (r.log ++ ·) ho.log, ho.node, ho.slot⟩
  | alone hcompound hrelay =>
    have hrelay' : relay? env sc t' s = none := by
      rw [← relay?_alike h.alike]
      exact hrelay
    rw [step_of_alone hcompound hrelay, step_of_alone hcompound hrelay']
    refine ⟨log_alone_alike h.alike s, ?_, fun hslot => ?_⟩
    · exact node_alone_congr s h fun _ => h.expecting fun _ => rfl
    · exact node_alone_congr (R := fun u u' => u.expectation = u'.expectation) s hslot fun _ => rfl
  | object shape => exact checkObject_completes hrun hkeeps hs h hempty
  | array item => exact checkArray_completes hrun hs h hempty
  | union alternatives => exact checkUnion_completes hrun hkeeps hs h

end Step

/-- **Checks ignore what is not written yet**, with any fuel. -/
theorem check_ignoresGaps (env : Environment Discriminator) (fuel : Nat) :
    IgnoresGaps env (check env fuel) := by
  induction fuel with
  | zero => exact fun s _ sc t t' slots h _ => ⟨rfl, h, id⟩
  | succ fuel ih =>
    intro s hs sc t t' slots h hempty
    have ho := step_ignoresGaps ih (check_keeps env fuel) s hs sc t t' slots h hempty
    rw [check_succ, check_succ]
    exact ⟨congrArg ({ deepest := sc.depth } ++ ·) ho.log, ho.node, ho.slot⟩

end Check

/-! ### Validations -/

/-- **A half-written tree** is validated like its completion, against a schema that uses no schemas
for keys. One validation comes to its end if and only if the other one does. If they do, the reports
have the same diagnostics in the same order, and what the two trees share has the same slots; members
without a key have nothing in theirs. -/
theorem report_completed (u : Setup Discriminator) {s : Schema Discriminator}
    (hs : s.Unkeyed u.schemas) (root : String) (t : Node) :
    ((∃ o, u.Validates s root t o) ↔ ∃ o, u.Validates s root t.completed o) ∧
    ∀ o o', u.Validates s root t o → u.Validates s root t.completed o' →
      u.report o.log = u.report o'.log ∧ o.node.clear = t.clear ∧
      o'.node.clear = t.completed.clear ∧ o.node.Completes True o'.node := by
  have hlaw := fun fuel => Check.check_ignoresGaps u.toEnvironment fuel s hs { path := root } _ _
    True t.completes_completed.clear fun _ => ⟨t.clear_clear, t.completed.clear_clear⟩
  refine ⟨⟨?_, ?_⟩, ?_⟩
  · rintro ⟨o, fuel, rfl, hfinished⟩
    exact ⟨_, fuel, rfl, (hlaw fuel).log ▸ hfinished⟩
  · rintro ⟨o', fuel, rfl, hfinished⟩
    exact ⟨_, fuel, rfl, (hlaw fuel).log ▸ hfinished⟩
  · rintro o o' ⟨fuel, rfl, hfinished⟩ hends'
    have hends : u.Validates s root t.completed _ := ⟨fuel, rfl, (hlaw fuel).log ▸ hfinished⟩
    rw [hends'.unique hends]
    have hkeeps := Check.check_keeps u.toEnvironment fuel s { path := root }
    refine ⟨congrArg u.report (hlaw fuel).log, ?_, ?_, (hlaw fuel).node⟩
    · rw [hkeeps, Node.clear_clear]
    · rw [hkeeps, Node.clear_clear]

/-- A registry of numbers, alone or in arrays, and of objects whose keys have a schema. -/
def numbersOrMap : Setup Discriminator where
  schemas := ⟨[("numbers", .union [.scalar .number, .array (.scalar .number)]),
    ("map", .object (.keyed .anything ⟨[], ⟨.anything, none⟩⟩))]⟩

/-- Two keys, each of which holds numbers. -/
def numbersPair : Schema Discriminator :=
  .object (.fixed ["a", "b"] ⟨[], ⟨.named "numbers", none⟩⟩)

/-- The objects whose keys have a schema are not used. -/
theorem unkeyed_numbersPair : numbersPair.Unkeyed numbersOrMap.schemas := by
  have hscalar : (Schema.scalar .number).Unkeyed numbersOrMap.schemas :=
    .of_parts nofun nofun nofun
  have harray : (Schema.array (.scalar .number)).Unkeyed numbersOrMap.schemas := by
    refine .of_parts nofun nofun fun p hp => ?_
    rw [List.mem_singleton.mp hp]
    exact hscalar
  refine .of_parts nofun nofun fun p hp => ?_
  rw [List.mem_singleton.mp hp, Schema.Unkeyed.named_iff]
  rintro _ ⟨⟩
  refine .of_parts nofun nofun fun p hp => ?_
  rcases List.mem_cons.mp hp with rfl | hp
  · exact hscalar
  · rw [List.mem_singleton.mp hp]
    exact harray

/-- An object with a key that has no value yet, and a value that has no key yet. -/
def draftPair : Node :=
  ⟨⟨0, 20⟩, none, .object
    [⟨some ⟨"a", ⟨1, 4⟩, none⟩, none⟩, ⟨none, some (.string "x" ⟨6, 9⟩)⟩,
      ⟨some ⟨"c", ⟨10, 13⟩, none⟩, none⟩]⟩

/-- The draft lacks a key, has no number under another, and has one that is not declared; so does its
completion. -/
theorem report_completed_draftPair :
    let o := check numbersOrMap.toEnvironment 5 numbersPair { path := "" } draftPair.clear
    let o' := check numbersOrMap.toEnvironment 5 numbersPair { path := "" } draftPair.completed.clear
    numbersPair.Unkeyed numbersOrMap.schemas ∧ numbersOrMap.Validates numbersPair "" draftPair o ∧
      numbersOrMap.Validates numbersPair "" draftPair.completed o' ∧
      o.log.findings.map (·.cause.code) = ["C-1-2", "C-1-1", "C-1-3"] ∧
      numbersOrMap.report o.log = numbersOrMap.report o'.log ∧ o.node.clear = draftPair.clear ∧
      o'.node.clear = draftPair.completed.clear ∧ o.node.Completes True o'.node := by
  intro o o'
  have hends : numbersOrMap.Validates numbersPair "" draftPair o := ⟨5, rfl, by decide⟩
  have hends' : numbersOrMap.Validates numbersPair "" draftPair.completed o' := ⟨5, rfl, by decide⟩
  obtain ⟨-, hsame⟩ := report_completed numbersOrMap unkeyed_numbersPair "" draftPair
  exact ⟨unkeyed_numbersPair, hends, hends', by decide, hsame o o' hends hends'⟩

end DocShape
