import Mathlib.Data.Nat.SuccPred
import DocShape.Proofs.Entered

/-!
# How far the depth of a scope is counted

Objects and arrays describe their parts only as deep as the settings say. A union has alternatives
describe themselves at any depth, and so unions in unions go further aside one by one. On one node,
though, only so many unions can be passed before an object or an array is gone into (`Schema.Passes`): in
a guarded registry there is a greatest number of them (`exists_isGreatest_passedUnions`).

The depth of a scope and the number of unions that can still be passed are bounded together
(`Visit.Bounded`). What is entered from a bounded visit is bounded (`Visit.Bounded.enters`), and so is all
that a validation enters. A counter of 32 bits that holds the bound is therefore never too small
(`depth_never_overflows`).
-/

namespace DocShape

variable {ε : Type}

/-! ### Unions that are passed on one node -/

/-- One for a union, and nothing for any other schema. -/
def Schema.unionCount : Schema ε → Nat
  | .union _ => 1
  | .anything | .scalar _ | .oneOf _ | .matching _ | .object _ | .array _ | .named _ | .documented _ _
  | .switch _ _ | .select _ | .custom _ _ => 0

/-- So many unions are passed on a path from a schema on, to schemas that are checked on the same node: by
open parts and by registered names, no object and no array being gone into. -/
inductive Schema.Passes (schemas : Table (Schema ε)) : Schema ε → Nat → Prop
  | stop (s : Schema ε) : Passes schemas s s.unionCount
  | part {s p : Schema ε} {n : Nat} (hp : p ∈ s.openParts) (h : Passes schemas p n) :
    Passes schemas s (s.unionCount + n)
  | named {name : String} {s : Schema ε} {n : Nat} (hget : schemas.get? name = some s)
    (h : Passes schemas s n) : Passes schemas (.named name) n

/-- The numbers of unions that are passed on one node, on any path through a schema. -/
def Schema.passedUnions (schemas : Table (Schema ε)) (s : Schema ε) : Set Nat :=
  {n | ∃ q, s.Uses schemas q ∧ q.Passes schemas n}

section Passes

variable {schemas : Table (Schema ε)} {s p : Schema ε} {n levels : Nat}

theorem Schema.unionCount_le_one (s : Schema ε) : s.unionCount ≤ 1 := by
  cases s <;> simp [unionCount]

/-- A schema that is no name passes at most one union more than its open parts. -/
theorem Schema.Passes.le_add (h : s.Passes schemas n) (hname : ∀ name, s ≠ .named name) {k : Nat}
    (hparts : ∀ p ∈ s.openParts, ∀ m, p.Passes schemas m → m ≤ k) : n ≤ s.unionCount + k := by
  cases h with
  | stop s => exact Nat.le_add_right _ _
  | part hp h => exact Nat.add_le_add_left (hparts _ hp _ h) _
  | named _ _ => exact absurd rfl (hname _)

/-- No union is passed where an object is gone into. -/
theorem Schema.Passes.eq_zero_of_object {shape : Shape (Schema ε)}
    (h : (Schema.object shape).Passes schemas n) : n = 0 :=
  Nat.le_zero.mp (h.le_add (k := 0) nofun nofun)

/-- Neither is one where anything goes. -/
theorem Schema.Passes.eq_zero_of_anything (h : (Schema.anything : Schema ε).Passes schemas n) :
    n = 0 :=
  Nat.le_zero.mp (h.le_add (k := 0) nofun nofun)

/-- No more unions are passed than there are levels of schemas on a trail. -/
theorem Schema.Passes.le (hguard : Guarded schemas)
    (hregistry : ∀ name s, schemas.get? name = some s → s.height ≤ levels) {passed : List String}
    (htrail : Trail schemas passed s) (h : s.Passes schemas n) :
    n ≤ (schemas.size - passed.length) * levels + s.height := by
  induction h generalizing passed with
  | stop s =>
    have hcount := s.unionCount_le_one
    have hheight := s.one_le_height
    omega
  | @part s p n hp _ ih =>
    have hcount := s.unionCount_le_one
    have hheight := height_lt_of_mem_parts (mem_parts_of_mem_openParts hp)
    have hpart := ih (htrail.mono fun other hother => .part hp hother)
    omega
  | @named name s n hget _ ih =>
    have htrail' := htrail.named hguard hget
    have hlength := htrail'.length_le
    have hrest := ih htrail'
    have hheight := hregistry name s hget
    rw [List.length_cons] at hlength hrest
    -- the name that is passed pays for the levels of what it stands for
    have hleft : schemas.size - passed.length = (schemas.size - (passed.length + 1)) + 1 := by omega
    rw [hleft, Nat.succ_mul]
    omega

/-- What a schema uses is no higher than the schema and the registered ones. -/
theorem Schema.Uses.height_le {q : Schema ε}
    (hregistry : ∀ name s, schemas.get? name = some s → s.height ≤ levels) (h : s.Uses schemas q)
    (hs : s.height ≤ levels) : q.height ≤ levels := by
  induction h with
  | self _ => exact hs
  | part hp _ ih => exact ih (Nat.le_trans (Nat.le_of_lt (height_lt_of_mem_parts hp)) hs)
  | named hget _ ih => exact ih (hregistry _ _ hget)

/-- **There is a greatest number** of unions that are passed on one node, where circles of names pass an
object or an array. -/
theorem exists_isGreatest_passedUnions (hguard : Guarded schemas) (s : Schema ε) :
    ∃ most, IsGreatest (s.passedUnions schemas) most := by
  let levels := (schemas.entries.map (·.2.height)).foldr max s.height
  have hregistry : ∀ name s, schemas.get? name = some s → s.height ≤ levels :=
    fun _ _ hget => height_le_of_get? hget s.height
  refine BddAbove.exists_isGreatest_of_nonempty ⟨schemas.size * levels + levels, ?_⟩
    ⟨_, s, .self s, .stop s⟩
  rintro n ⟨q, huses, hpasses⟩
  have hheight := huses.height_le hregistry (le_foldr_max s.height _)
  have hle := hpasses.le hguard hregistry (Trail.nil q)
  rw [List.length_nil, Nat.sub_zero] at hle
  omega

end Passes

/-! ### What is entered stays within bounds -/

/-- The greatest depth that the settings and so many unions on one node lead to. -/
def Environment.deepestScope (env : Environment ε) (most : Nat) : Nat :=
  (env.settings.expectationDepth + 1).toNat + most

/-- A visit from which no scope too deep is entered. -/
structure Visit.Bounded (env : Environment ε) (most : Nat) (v : Visit ε) : Prop where
  /-- Whatever the schema uses, no more unions are passed on one node. -/
  passes_le {q : Schema ε} (huses : v.schema.Uses env.schemas q) {n : Nat}
    (h : q.Passes env.schemas n) : n ≤ most
  /-- Every union that is still to be passed on this node may go one scope further aside. -/
  depth_add_le {n : Nat} (h : v.schema.Passes env.schemas n) :
    v.scope.depth + n ≤ env.deepestScope most
  /-- Aside from the document there are null nodes only. -/
  null (h : v.scope.depth ≠ 0) : v.node.kind = .null

namespace Visit.Bounded

variable {env : Environment ε} {most : Nat} {s c p : Schema ε} {sc sc' : Scope} {t u : Node}

theorem depth_le {v : Visit ε} (h : v.Bounded env most) :
    v.scope.depth ≤ env.deepestScope most :=
  Nat.le_trans (Nat.le_add_right _ _) (h.depth_add_le (.stop v.schema))

/-- A part uses what the schema uses. -/
theorem passes_le_of_mem_parts (h : Bounded env most ⟨s, sc, t⟩) (hp : p ∈ s.parts) {q : Schema ε}
    (huses : p.Uses env.schemas q) {n : Nat} (hpasses : q.Passes env.schemas n) : n ≤ most :=
  h.passes_le (.part hp huses) hpasses

/-- In the document, any part may be gone into. -/
theorem lower (h : Bounded env most ⟨s, sc, t⟩) (hp : p ∈ s.parts) (hdepth : sc'.depth = 0)
    (u : Node) : Bounded env most ⟨p, sc', u⟩ where
  passes_le := h.passes_le_of_mem_parts hp
  depth_add_le hpasses := by
    have hle := h.passes_le_of_mem_parts hp (.self p) hpasses
    dsimp only
    rw [hdepth, Nat.zero_add]
    exact Nat.le_trans hle (Nat.le_add_left _ _)
  null hne := absurd hdepth hne

/-- Where parts are described, any part may be described. -/
theorem described (h : Bounded env most ⟨s, sc, t⟩) (hp : p ∈ s.parts)
    (hdescribes : sc.Describes env.settings) : Bounded env most ⟨p, sc.aside, Check.nowhere⟩ where
  passes_le := h.passes_le_of_mem_parts hp
  depth_add_le {n} hpasses := by
    have hle := h.passes_le_of_mem_parts hp (.self p) hpasses
    unfold Scope.Describes at hdescribes
    unfold Environment.deepestScope
    change sc.depth + 1 + n ≤ _
    omega
  null _ := rfl

/-- An alternative may describe itself, as the union counts for one more. -/
theorem untried {alternatives : List (Schema ε)} (h : Bounded env most ⟨.union alternatives, sc, t⟩)
    (hp : p ∈ alternatives) : Bounded env most ⟨p, sc.aside, Check.nowhere⟩ where
  passes_le := h.passes_le_of_mem_parts hp
  depth_add_le {n} hpasses := by
    have hle := h.depth_add_le (.part hp hpasses)
    change sc.depth + (1 + n) ≤ _ at hle
    change sc.depth + 1 + n ≤ _
    omega
  null _ := rfl

/-- What is checked on the same node in the same depth stays within the bounds, if it is bounded by what
it uses and passes. -/
theorem same (h : Bounded env most ⟨s, sc, t⟩) (hdepth : sc'.depth = sc.depth) (hu : u.kind = t.kind)
    (huses : ∀ q, c.Uses env.schemas q → ∀ n, q.Passes env.schemas n → n ≤ most)
    (hpasses : ∀ n, c.Passes env.schemas n → ∃ m, n ≤ m ∧ s.Passes env.schemas m) :
    Bounded env most ⟨c, sc', u⟩ where
  passes_le {q} hq {n} hn := huses q hq n hn
  depth_add_le {n} hn := by
    obtain ⟨m, hle, hm⟩ := hpasses n hn
    have := h.depth_add_le hm
    dsimp only at this ⊢
    omega
  null hne := by
    dsimp only at hne ⊢
    rw [hu]
    exact h.null (hdepth ▸ hne)

/-- An open part is checked on the same node. -/
theorem openPart (h : Bounded env most ⟨s, sc, t⟩) (hp : p ∈ s.openParts)
    (hdepth : sc'.depth = sc.depth) (hu : u.kind = t.kind) : Bounded env most ⟨p, sc', u⟩ := by
  refine h.same hdepth hu (fun q hq n => ?_) fun n hn => ?_
  · exact h.passes_le_of_mem_parts (Schema.mem_parts_of_mem_openParts hp) hq
  · exact ⟨_, Nat.le_add_left n s.unionCount, .part hp hn⟩

/-- So is a schema that a name stands for. -/
theorem named {name : String} (h : Bounded env most ⟨.named name, sc, t⟩)
    (hget : env.schemas.get? name = some c) (hdepth : sc'.depth = sc.depth) :
    Bounded env most ⟨c, sc', t⟩ := by
  refine h.same hdepth rfl (fun q hq n => ?_) fun n hn => ?_
  · exact h.passes_le (.named hget hq)
  · exact ⟨n, Nat.le_refl n, .named hget hn⟩

/-- So is an object that is made of parts. -/
theorem object {shape : Shape (Schema ε)} (h : Bounded env most ⟨s, sc, t⟩)
    (hparts : ∀ p ∈ (Schema.object shape).parts, p = .anything ∨ p ∈ s.parts)
    (hdepth : sc'.depth = sc.depth) : Bounded env most ⟨.object shape, sc', t⟩ := by
  refine h.same hdepth rfl (fun q hq n hn => ?_) fun n hn => ?_
  · cases hq with
    | self _ => exact hn.eq_zero_of_object ▸ Nat.zero_le most
    | part hp huses =>
      rcases hparts _ hp with rfl | hp
      · cases huses with
        | self _ => exact hn.eq_zero_of_anything ▸ Nat.zero_le most
        | part hp _ => cases hp
      · exact h.passes_le_of_mem_parts hp huses hn
  · exact ⟨s.unionCount, hn.eq_zero_of_object ▸ Nat.zero_le _, .stop s⟩

variable [CustomCheck ε] [Picking ε]

/-- What a node is handed on to is bounded. -/
theorem relay {r : Relay ε} (h : Bounded env most ⟨s, sc, t⟩)
    (hrelay : Check.relay? env sc t s = some r) : Bounded env most ⟨r.schema, r.scope, t⟩ := by
  obtain ⟨hhands, hdepth⟩ := Check.hands_of_relay hrelay
  rcases hhands.cases_on_parts with ⟨name, rfl, hget⟩ | ⟨hopen, -⟩ | ⟨⟨shape, hshape⟩, -, hparts⟩
  · exact h.named hget hdepth
  · exact h.openPart hopen hdepth rfl
  · rw [hshape] at hparts ⊢
    exact h.object hparts hdepth

/-- What a bounded visit leads to is bounded. -/
theorem leads {v w : Visit ε} (h : v.Bounded env most) (hleads : v.Leads env w) :
    w.Bounded env most := by
  -- what has members or items is no null node, and so it stands in the document
  have hdocument {kind : Kind} (hkind : v.node.kind = kind) (hne : kind ≠ .null) :
      v.scope.depth = 0 := by
    by_contra hdepth
    exact hne (hkind.symm.trans (h.null hdepth))
  cases hleads with
  | relay hrelay => exact h.relay hrelay
  | @property keys fields sc t members m key hmembers hm hkey hmem =>
    have hdepth := hdocument (Node.kind_of_members? hmembers) nofun
    exact h.lower (fields.property_mem key.text) ((Check.depth_propertyScope _ _).trans hdepth) _
  | key hmembers hm hkey =>
    exact h.lower List.mem_cons_self (hdocument (Node.kind_of_members? hmembers) nofun) _
  | @value keys fields sc t members m key u hmembers hm hkey hvalue =>
    exact h.lower (List.mem_cons_of_mem _ (fields.property_mem key.text))
      (hdocument (Node.kind_of_members? hmembers) nofun) _
  | item hitems hu =>
    exact h.lower List.mem_cons_self (hdocument (Node.kind_of_items? hitems) nofun) _
  | @winner alternatives sc t index best hbest _ =>
    exact h.openPart (List.mem_of_getElem? hbest) rfl t.kind_clear

/-- **What is entered** from a bounded visit is bounded. -/
theorem enters {v w : Visit ε} (h : v.Bounded env most) (henters : v.Enters env w) :
    w.Bounded env most := by
  cases henters with
  | leads hleads => exact h.leads hleads
  | part hdescribes hp => exact h.described (Shape.mem_schemas_of_mem_described hp) hdescribes
  | item hdescribes => exact h.described List.mem_cons_self hdescribes
  | @trial alternatives sc t s rest u hcomes =>
    have hkind : u.kind = t.kind := by
      rw [← u.kind_clear, Check.clear_of_comesTo hcomes, t.kind_clear]
    exact h.openPart (Check.subset_of_comesTo hcomes List.mem_cons_self) rfl hkind
  | untried hcomes _ _ hp =>
    exact h.untried (Check.subset_of_comesTo hcomes (List.mem_cons_of_mem _ hp))

/-- All that is entered after a bounded visit is bounded. -/
theorem entered {v w : Visit ε} (h : v.Bounded env most)
    (hpath : Relation.ReflTransGen (Visit.Enters env) v w) : w.Bounded env most := by
  induction hpath with
  | refl => exact h
  | tail _ henters ih => exact ih.enters henters

end Visit.Bounded

/-! ### The counter of a machine -/

namespace Scope

/-- The depth of a scope, counted in 32 bits with a sign. -/
def counter (sc : Scope) : Int32 := .ofNat sc.depth

/-- Stepping aside counts one further, round the end of the range if need be. -/
theorem counter_aside (sc : Scope) : sc.aside.counter = sc.counter + 1 := Int32.ofNat_add _ _

/-- Within the range the counter is the depth. -/
theorem toInt_counter {sc : Scope} (h : (sc.depth : Int) ≤ Int32.maxValue.toInt) :
    sc.counter.toInt = sc.depth := by
  rw [Int32.toInt_maxValue] at h
  exact Int32.toInt_ofNat_of_lt (by omega)

/-- Counting one scope further aside leaves the range of the counter. -/
def Overflows (sc : Scope) : Prop :=
  sc.counter.toBitVec.saddOverflow (1 : Int32).toBitVec = true

/-- Stepping aside to a depth within the range does not overflow. -/
theorem not_overflows {sc : Scope} (h : (sc.aside.depth : Int) ≤ Int32.maxValue.toInt) :
    ¬ sc.Overflows := by
  have hle : (sc.depth : Int) + 1 ≤ Int32.maxValue.toInt := h
  have hcounter : sc.counter.toInt = sc.depth := toInt_counter (by omega)
  have hone : (1 : Int32).toInt = 1 := rfl
  rw [Int32.toInt_maxValue] at hle
  simp only [Overflows, BitVec.saddOverflow, Int32.toInt_toBitVec, hcounter, hone, Bool.or_eq_true,
    decide_eq_true_eq]
  omega

end Scope

section Setups

variable [CustomCheck ε] [Picking ε]

/-- What is entered is entered in the same depth, or one scope aside. -/
theorem Visit.Enters.depth_eq_or_aside {env : Environment ε} {v w : Visit ε} (h : v.Enters env w) :
    w.scope.depth = v.scope.depth ∨ w.scope = v.scope.aside := by
  cases h with
  | leads hleads =>
    left
    cases hleads with
    | relay hrelay => exact (Check.hands_of_relay hrelay).2
    | property _ _ _ _ => exact Check.depth_propertyScope _ _
    | key _ _ _ | value _ _ _ _ | item _ _ | winner _ _ => rfl
  | trial _ => exact Or.inl rfl
  | part _ _ | item _ | untried _ _ _ _ => exact Or.inr rfl

omit [CustomCheck ε] [Picking ε] in
/-- A validation starts within the bounds. -/
theorem bounded_start {env : Environment ε} {s : Schema ε} {most : Nat}
    (hmost : most ∈ upperBounds (s.passedUnions env.schemas)) (root : String) (t : Node) :
    Visit.Bounded env most ⟨s, { path := root }, t⟩ where
  passes_le {q} huses n h := hmost ⟨q, huses, h⟩
  depth_add_le {n} h := by
    have hle : n ≤ most := hmost ⟨s, .self s, h⟩
    change 0 + n ≤ _
    unfold Environment.deepestScope
    omega
  null hne := absurd rfl hne

end Setups

/-- **The depth counter does not overflow.** Where each circle of names passes through an object or an
array, there is a greatest number of unions that are passed on one node. A validation then comes to its
end, it has recorded the depth of the deepest scope that it has entered, and it enters no scope that is
deeper than the settings and so many unions lead to. So where a counter of 32 bits holds this limit, it is
the depth of every scope that is entered, and counting one further never overflows. -/
theorem depth_never_overflows (u : Setup Picker) (hguard : Guarded u.schemas) (s : Schema Picker) :
    ∃ most, IsGreatest (s.passedUnions u.schemas) most ∧ ∀ (root : String) (t : Node),
      let start : Visit Picker := ⟨s, { path := root }, t.clear⟩
      let limit : Int := max 0 (u.settings.expectationDepth + 1) + most
      (u.validate s root t).log.finished = true ∧
      (∀ depth, (u.validate s root t).log.deepest ≤ depth ↔
        ∀ v, Relation.ReflTransGen (Visit.Enters u.toEnvironment) start v → v.scope.depth ≤ depth) ∧
      ∀ v, Relation.ReflTransGen (Visit.Enters u.toEnvironment) start v →
        (v.scope.depth : Int) ≤ limit ∧
        (limit ≤ Int32.maxValue.toInt →
          v.scope.counter.toInt = v.scope.depth ∧
          ∀ w, v.Enters u.toEnvironment w →
            w.scope.depth = v.scope.depth ∨
              w.scope = v.scope.aside ∧ w.scope.counter = v.scope.counter + 1 ∧
                ¬ v.scope.Overflows) := by
  obtain ⟨most, hgreatest⟩ := exists_isGreatest_passedUnions hguard s
  refine ⟨most, hgreatest, fun root t => ?_⟩
  intro start limit
  have hfinished : (u.validate s root t).log.finished = true :=
    finished_check hguard s { path := root } t.clear _ (Nat.le_refl _)
  have hlimit : (u.deepestScope most : Int) = limit := by
    change (((u.settings.expectationDepth + 1).toNat + most : Nat) : Int) = max 0 _ + most
    omega
  have hdepth : ∀ v, Relation.ReflTransGen (Visit.Enters u.toEnvironment) start v →
      (v.scope.depth : Int) ≤ limit := by
    intro v hpath
    have hbounded : v.Bounded u.toEnvironment most :=
      (bounded_start hgreatest.2 root t.clear).entered hpath
    rw [← hlimit]
    exact Int.ofNat_le.mpr hbounded.depth_le
  refine ⟨hfinished, deepest_le_iff u.toEnvironment _ start hfinished, fun v hpath => ?_⟩
  refine ⟨hdepth v hpath, fun hrange => ⟨?_, fun w henters => ?_⟩⟩
  · exact Scope.toInt_counter (Int.le_trans (hdepth v hpath) hrange)
  · refine henters.depth_eq_or_aside.imp id fun haside => ⟨haside, ?_, ?_⟩
    · rw [haside, Scope.counter_aside]
    · apply Scope.not_overflows
      rw [← haside]
      exact Int.le_trans (hdepth w (hpath.tail henters)) hrange

/-- Anything, or anything, or an array of the same: a union in a union. -/
def nestedUnions : Setup Picker where
  schemas := ⟨[("tree", .union [.anything, .union [.anything, .array (.named "tree")]])]⟩

theorem guarded_nestedUnions : Guarded nestedUnions.schemas := by
  apply guarded_of_sealed
  have hanything : (Schema.anything : Schema Picker).Sealed := .of_openParts nofun nofun
  -- the only name stands in an array
  have hinner : (Schema.union [.anything, .array (.named "tree")] : Schema Picker).Sealed :=
    .of_openParts nofun (List.forall_mem_cons.mpr
      ⟨hanything, List.forall_mem_singleton.mpr (Schema.sealed_array _)⟩)
  exact List.forall_mem_singleton.mpr (.of_openParts nofun
    (List.forall_mem_cons.mpr ⟨hanything, List.forall_mem_singleton.mpr hinner⟩))

/-- Two unions are passed before an array is gone into. -/
theorem isGreatest_nestedUnions :
    IsGreatest ((Schema.array (.named "tree")).passedUnions nestedUnions.schemas) 2 := by
  let array : Schema Picker := .array (.named "tree")
  let inner : Schema Picker := .union [.anything, array]
  let outer : Schema Picker := .union [.anything, inner]
  have hget : nestedUnions.schemas.get? "tree" = some outer := rfl
  constructor
  · refine ⟨.named "tree", .part List.mem_cons_self (.self _), .named hget ?_⟩
    exact .part (List.mem_cons_of_mem _ List.mem_cons_self) (.stop inner)
  · have hanything : ∀ n, (Schema.anything : Schema Picker).Passes nestedUnions.schemas n → n ≤ 0 :=
      fun n h => Nat.le_of_eq h.eq_zero_of_anything
    have harray : ∀ n, array.Passes nestedUnions.schemas n → n ≤ 0 :=
      fun n h => h.le_add (k := 0) nofun nofun
    have hinner : ∀ n, inner.Passes nestedUnions.schemas n → n ≤ 1 :=
      fun n h => h.le_add (k := 0) nofun
        (List.forall_mem_cons.mpr ⟨hanything, List.forall_mem_singleton.mpr harray⟩)
    have houter : ∀ n, outer.Passes nestedUnions.schemas n → n ≤ 2 :=
      fun n h => h.le_add (k := 1) nofun (List.forall_mem_cons.mpr
        ⟨fun m hm => Nat.le_succ_of_le (hanything m hm), List.forall_mem_singleton.mpr hinner⟩)
    have htree : ∀ n, (Schema.named "tree" : Schema Picker).Passes nestedUnions.schemas n → n ≤ 2 := by
      intro n h
      cases h with
      | stop _ => exact Nat.zero_le 2
      | part hp _ => cases hp
      | named hget' h =>
        cases hget.symm.trans hget'
        exact houter n h
    rintro n ⟨q, huses, hpasses⟩
    have hmem : q ∈ [array, .named "tree", outer, .anything, inner] := by
      refine huses.mem_of_closed ?_ ?_ List.mem_cons_self
      · simp [Schema.parts, array, inner, outer]
      · simp [array, inner, outer, nestedUnions, Table.get?]
    simp only [List.mem_cons, List.not_mem_nil, or_false] at hmem
    rcases hmem with rfl | rfl | rfl | rfl | rfl
    · exact Nat.le_trans (harray n hpasses) (Nat.zero_le 2)
    · exact htree n hpasses
    · exact houter n hpasses
    · exact Nat.le_trans (hanything n hpasses) (Nat.zero_le 2)
    · exact Nat.le_succ_of_le (hinner n hpasses)

/-- The array describes its items one scope aside, and each of the two unions has what it does not try
describe itself one scope further: the limit is reached. -/
theorem deepest_nestedUnions :
    let s : Schema Picker := .array (.named "tree")
    let t := Node.null ⟨0, 4⟩
    let start : Visit Picker := ⟨s, { path := "" }, t.clear⟩
    Guarded nestedUnions.schemas ∧ IsGreatest (s.passedUnions nestedUnions.schemas) 2 ∧
      (nestedUnions.validate s "" t).log.finished = true ∧
      (nestedUnions.validate s "" t).log.deepest = 3 ∧
      max 0 (nestedUnions.settings.expectationDepth + 1) + 2 = 3 ∧
      ∀ v, Relation.ReflTransGen (Visit.Enters nestedUnions.toEnvironment) start v →
        v.scope.depth ≤ 3 ∧ v.scope.counter.toInt = v.scope.depth ∧
        ∀ w, v.Enters nestedUnions.toEnvironment w →
          w.scope.depth = v.scope.depth ∨
            w.scope = v.scope.aside ∧ w.scope.counter = v.scope.counter + 1 ∧
              ¬ v.scope.Overflows := by
  intro s t start
  obtain ⟨most, hgreatest, hvalidate⟩ := depth_never_overflows nestedUnions guarded_nestedUnions s
  obtain rfl : most = 2 := hgreatest.unique isGreatest_nestedUnions
  obtain ⟨hfinished, -, hentered⟩ := hvalidate "" t
  have hends := nestedUnions.validates_validate s "" t hfinished
  have hends' : nestedUnions.Validates s "" t (check nestedUnions.toEnvironment 8 s {} t.clear) :=
    ⟨8, rfl, by decide⟩
  refine ⟨guarded_nestedUnions, hgreatest, hfinished, ?_, rfl, fun v hpath => ?_⟩
  · rw [hends.unique hends']
    decide
  · obtain ⟨hdepth, hcounter⟩ := hentered v hpath
    obtain ⟨hvalue, hnext⟩ := hcounter (by decide)
    exact ⟨Int.ofNat_le.mp hdepth, hvalue, hnext⟩

end DocShape
