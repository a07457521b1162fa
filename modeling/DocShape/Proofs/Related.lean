import Mathlib.Data.List.Forall2
import DocShape.Proofs.Selection

/-!
# Schemas that differ in their marks and paths

Two schemas are related if they are put together in the same way and differ only in the paths under
which they are documented and in the marks of their properties, which have to be related by some
relation `M`. Each kind of data that schemas are made of has a relation of its own, over any
relation `R` of the schemas inside, and `Schema.Related` ties the knot.

Selections respect all this: from related selectors, the same node selects related schemas and gives
the same log (`Selector.choose_rel`).
-/

namespace DocShape

/-! ### The relations -/

section Relations

variable {σ : Type} (M : Option Marks → Option Marks → Prop) (R : σ → σ → Prop)

/-- Two rows with the same key and related values. -/
inductive SameKey {κ α : Type} (S : α → α → Prop) : κ × α → κ × α → Prop
  | mk (key : κ) {a b : α} (h : S a b) : SameKey S (key, a) (key, b)

/-- Two tables with the same keys in the same order and related rows. -/
inductive Table.Rel {α : Type} (S : α → α → Prop) : Table α → Table α → Prop
  | mk {rows rows' : List (String × α)} (h : List.Forall₂ (SameKey S) rows rows') :
    Rel S ⟨rows⟩ ⟨rows'⟩

/-- Two properties with related schemas and related marks. -/
inductive Property.Rel : Property σ → Property σ → Prop
  | mk {s s' : σ} {marks marks' : Option Marks} (hs : R s s') (hmarks : M marks marks') :
    Rel ⟨s, marks⟩ ⟨s', marks'⟩

/-- Two families of properties that are related key by key. -/
inductive Fields.Rel : Fields σ → Fields σ → Prop
  | mk {rows rows' : List (String × Property σ)} {p p' : Property σ}
    (hrows : List.Forall₂ (SameKey (Property.Rel M R)) rows rows') (hp : Property.Rel M R p p') :
    Rel ⟨rows, p⟩ ⟨rows', p'⟩

/-- Two shapes of the same form. -/
inductive Shape.Rel : Shape σ → Shape σ → Prop
  | free : Rel .free .free
  | fixed (keys : List String) {f g : Fields σ} (h : Fields.Rel M R f g) :
    Rel (.fixed keys f) (.fixed keys g)
  | keyed {keys keys' : σ} {f g : Fields σ} (hkeys : R keys keys') (h : Fields.Rel M R f g) :
    Rel (.keyed keys f) (.keyed keys' g)

/-- Two marker rows with related records, of which both are made when asked for, or neither is. -/
inductive MarkerRow.Rel : MarkerRow σ → MarkerRow σ → Prop
  | mk (deferred : Bool) {r r' : Table (Property σ)} (h : Table.Rel (Property.Rel M R) r r') :
    Rel ⟨r, deferred⟩ ⟨r', deferred⟩

/-- Two open records of the same form. -/
inductive OpenRecord.Rel : OpenRecord σ → OpenRecord σ → Prop
  | fixed {r r' : Table (Property σ)} (h : Table.Rel (Property.Rel M R) r r') :
    Rel (.fixed r) (.fixed r')
  | merged {a a' b b' : OpenRecord σ} (ha : Rel a a') (hb : Rel b b') :
    Rel (.merged a b) (.merged a' b')
  | byCase (space : Option String) {records records' : Table (Table (Property σ))}
    (h : Table.Rel (Table.Rel (Property.Rel M R)) records records') :
    Rel (.byCase ⟨space, records⟩) (.byCase ⟨space, records'⟩)
  | ifAmong (allowed : List String) {a a' b b' : OpenRecord σ} (ha : Rel a a') (hb : Rel b b') :
    Rel (.ifAmong allowed a b) (.ifAmong allowed a' b')
  | byMarker {markers markers' : Table (MarkerRow σ)}
    (h : Table.Rel (MarkerRow.Rel M R) markers markers') :
    Rel (.byMarker markers) (.byMarker markers')
  | marked {m m' : Mark} {a a' : OpenRecord σ}
    (hm : ∀ marks marks', M marks marks' →
      M (some (m.apply (marks.getD {}))) (some (m'.apply (marks'.getD {})))) (ha : Rel a a') :
    Rel (.marked m a) (.marked m' a')

/-- Two selectors of the same form. -/
inductive Selector.Rel : Selector σ → Selector σ → Prop
  | record {p p' : OpenRecord σ} (h : OpenRecord.Rel M R p p') : Rel (.record p) (.record p')
  | byValue {rows rows' : List (String × σ)} {a a' b b' : σ}
    (h : List.Forall₂ (SameKey R) rows rows') (ha : R a a') (hb : R b b') :
    Rel (.byValue rows a b) (.byValue rows' a' b')
  | byKind {rows rows' : List (Kind × σ)} {b b' : σ} (h : List.Forall₂ (SameKey R) rows rows')
    (hb : R b b') : Rel (.byKind rows b) (.byKind rows' b')
  | sibling (key : String) {next next' : Selector σ} (h : Rel next next') :
    Rel (.sibling key next) (.sibling key next')

end Relations

/-- Two schemas of the same form. The paths under which they are documented make no difference. -/
inductive Schema.Related {ε : Type} (M : Option Marks → Option Marks → Prop) :
    Schema ε → Schema ε → Prop
  | anything : Related M .anything .anything
  | scalar (scalar : Scalar) : Related M (.scalar scalar) (.scalar scalar)
  | oneOf (pool : List String) : Related M (.oneOf pool) (.oneOf pool)
  | matching (pattern : Pattern) : Related M (.matching pattern) (.matching pattern)
  | object {shape shape' : Shape (Schema ε)} (h : Shape.Rel M (Related M) shape shape') :
    Related M (.object shape) (.object shape')
  | array {item item' : Schema ε} (h : Related M item item') :
    Related M (.array item) (.array item')
  | union {ss ss' : List (Schema ε)} (h : List.Forall₂ (Related M) ss ss') :
    Related M (.union ss) (.union ss')
  | named (name : String) : Related M (.named name) (.named name)
  | documented (path path' : String) {s s' : Schema ε} (h : Related M s s') :
    Related M (.documented path s) (.documented path' s')
  | switch (key : String) {sel sel' : Selector (Schema ε)}
    (h : Selector.Rel M (Related M) sel sel') : Related M (.switch key sel) (.switch key sel')
  | select {sel sel' : Selector (Schema ε)} (h : Selector.Rel M (Related M) sel sel') :
    Related M (.select sel) (.select sel')
  | custom (custom : ε) {ss ss' : List (Schema ε)} (h : List.Forall₂ (Related M) ss ss') :
    Related M (.custom custom ss) (.custom custom ss')

/-! ### Tables -/

section Tables

variable {κ α β : Type} {S : α → α → Prop} {T : β → β → Prop}

/-- Related rows have the same keys. -/
theorem map_fst_eq_of_rel {rows rows' : List (κ × α)} (h : List.Forall₂ (SameKey S) rows rows') :
    rows.map (·.1) = rows'.map (·.1) := by
  induction h with
  | nil => rfl
  | cons hrow _ ih =>
    obtain ⟨key, _⟩ := hrow
    rw [List.map_cons, List.map_cons, ih]

/-- Looking up a key gives related values. -/
theorem lookup_rel [BEq κ] {rows rows' : List (κ × α)} (h : List.Forall₂ (SameKey S) rows rows')
    (key : κ) : Option.Rel S (rows.lookup key) (rows'.lookup key) := by
  induction h with
  | nil => exact .none
  | cons hrow _ ih =>
    obtain ⟨key', hvalue⟩ := hrow
    rw [List.lookup_cons, List.lookup_cons]
    cases key == key' with
    | true => exact .some hvalue
    | false => exact ih

/-- Two related values, or else two related defaults. -/
theorem getD_rel {a b : Option α} {x y : α} (h : Option.Rel S a b) (hxy : S x y) :
    S (a.getD x) (b.getD y) := by
  cases h with
  | some h => exact h
  | none => exact hxy

/-- What is related to a value is a value. -/
theorem exists_of_rel_some {a : Option α} {y : α} (h : Option.Rel S a (some y)) :
    ∃ x, a = some x ∧ S x y := by
  cases h with
  | some h => exact ⟨_, rfl, h⟩

/-- The elements at the same index are related, if there are any. -/
theorem getElem?_rel {xs ys : List α} (h : List.Forall₂ S xs ys) (i : Nat) :
    Option.Rel S xs[i]? ys[i]? := by
  induction h generalizing i with
  | nil => exact .none
  | cons hxy _ ih =>
    cases i with
    | zero => exact .some hxy
    | succ i => exact ih i

/-- Changing two related values, if there are any, in related ways. -/
theorem map_rel {a b : Option α} {f g : α → β} (h : Option.Rel S a b)
    (hfg : ∀ x y, S x y → T (f x) (g y)) : Option.Rel T (a.map f) (b.map g) := by
  cases h with
  | some h => exact .some (hfg _ _ h)
  | none => exact .none

/-- Going on from two related values, if there are any, in related ways. -/
theorem bind_rel {a b : Option α} {f g : α → Option β} (h : Option.Rel S a b)
    (hfg : ∀ x y, S x y → Option.Rel T (f x) (g y)) : Option.Rel T (a.bind f) (b.bind g) := by
  cases h with
  | some h => exact hfg _ _ h
  | none => exact .none

/-- The first rows whose keys pass a test are related. -/
theorem find?_rel {rows rows' : List (κ × α)} (h : List.Forall₂ (SameKey S) rows rows')
    (test : κ → Bool) :
    Option.Rel (SameKey S) (rows.find? (test ·.1)) (rows'.find? (test ·.1)) := by
  induction h with
  | nil => exact .none
  | cons hrow _ ih =>
    obtain ⟨key, hvalue⟩ := hrow
    cases hkey : test key with
    | true =>
      simp only [List.find?_cons, hkey]
      exact .some ⟨key, hvalue⟩
    | false =>
      simp only [List.find?_cons, hkey]
      exact ih

/-- Writing related rows into related rows. -/
theorem insertRow_rel {rows rows' : List (String × α)} (h : List.Forall₂ (SameKey S) rows rows')
    (key : String) {a b : α} (hab : S a b) :
    List.Forall₂ (SameKey S) (Table.insertRow key a rows) (Table.insertRow key b rows') := by
  induction h with
  | nil => exact .cons ⟨key, hab⟩ .nil
  | cons hrow hrest ih =>
    obtain ⟨key', hvalue⟩ := hrow
    rw [Table.insertRow, Table.insertRow]
    by_cases hkey : key' = key
    · rw [if_pos hkey, if_pos hkey]
      exact .cons ⟨key', hab⟩ hrest
    · rw [if_neg hkey, if_neg hkey]
      exact .cons ⟨key', hvalue⟩ ih

namespace Table.Rel

variable {t u t' u' : Table α}

theorem keys_eq (h : Table.Rel S t u) : t.keys = u.keys := by
  obtain ⟨hrows⟩ := h
  exact map_fst_eq_of_rel hrows

/-- Reading a name gives related rows. -/
theorem get? (h : Table.Rel S t u) (key : String) : Option.Rel S (t.get? key) (u.get? key) := by
  obtain ⟨hrows⟩ := h
  refine map_rel (find?_rel hrows (· == key)) ?_
  rintro _ _ ⟨_, hvalue⟩
  exact hvalue

/-- Changing every row in related ways. -/
theorem map {f g : α → β} (h : Table.Rel S t u) (hfg : ∀ a b, S a b → T (f a) (g b)) :
    Table.Rel T (t.map f) (u.map g) := by
  obtain ⟨hrows⟩ := h
  refine ⟨?_⟩
  rw [List.forall₂_map_left_iff, List.forall₂_map_right_iff]
  refine hrows.imp ?_
  rintro _ _ ⟨key, hvalue⟩
  exact ⟨key, hfg _ _ hvalue⟩

/-- Writing related rows one after the other. -/
theorem insertAll (h : Table.Rel S t u) {rows rows' : List (String × α)}
    (hrows : List.Forall₂ (SameKey S) rows rows') :
    Table.Rel S (t.insertAll rows) (u.insertAll rows') := by
  induction hrows generalizing t u with
  | nil => exact h
  | cons hrow _ ih =>
    obtain ⟨key, hvalue⟩ := hrow
    obtain ⟨hentries⟩ := h
    exact ih ⟨insertRow_rel hentries key hvalue⟩

/-- Two related tables in one. -/
theorem merge (h : Table.Rel S t u) (h' : Table.Rel S t' u') :
    Table.Rel S (t.merge t') (u.merge u') := by
  obtain ⟨hrows⟩ := h'
  exact h.insertAll hrows

end Table.Rel

end Tables

/-! ### Selections -/

/-- A relation of marks that holds where there are none, and goes on to hold when both sides are
changed in the same way. -/
structure MarksRelation (M : Option Marks → Option Marks → Prop) : Prop where
  none : M none none
  apply (m : Mark) {marks marks' : Option Marks} (h : M marks marks') :
    M (some (m.apply (marks.getD {}))) (some (m.apply (marks'.getD {})))

section Selections

variable {σ : Type} {M : Option Marks → Option Marks → Prop} {R : σ → σ → Prop}

theorem Property.Rel.schema {p q : Property σ} (h : Property.Rel M R p q) :
    R p.schema q.schema := by
  obtain ⟨hs, _⟩ := h
  exact hs

/-- Related properties stay related under related changes of their marks. -/
theorem Property.Rel.mark {p q : Property σ} {m m' : Mark} (h : Property.Rel M R p q)
    (hm : ∀ marks marks', M marks marks' →
      M (some (m.apply (marks.getD {}))) (some (m'.apply (marks'.getD {})))) :
    Property.Rel M R (p.mark m) (q.mark m') := by
  obtain ⟨hs, hmarks⟩ := h
  exact ⟨hs, hm _ _ hmarks⟩

/-- The property of a key. -/
theorem Fields.Rel.property {f g : Fields σ} (h : Fields.Rel M R f g) (key : String) :
    Property.Rel M R (f.property key) (g.property key) := by
  obtain ⟨hrows, hp⟩ := h
  exact getD_rel (lookup_rel hrows key) hp

variable (hM : MarksRelation M)

include hM

/-- The record of the case of a value. -/
theorem recordFor_rel (space : Option String) {records records' : Table (Table (Property σ))}
    (h : Table.Rel (Table.Rel (Property.Rel M R)) records records') (value : Option String) :
    Table.Rel (Property.Rel M R) (CaseTable.recordFor ⟨space, records⟩ value)
      (CaseTable.recordFor ⟨space, records'⟩ value) := by
  cases value with
  | none => exact ⟨.nil⟩
  | some value =>
    have hget := h.get? (space.elim value (dropNamespace value))
    simp only [CaseTable.recordFor, CaseTable.find?, CaseTable.normalize, Option.bind_some]
    generalize records.get? _ = record at hget ⊢
    generalize records'.get? _ = record' at hget ⊢
    cases hget with
    | none => exact ⟨.nil⟩
    | some hrecord => exact hrecord.map fun p q hpq => hpq.mark fun _ _ => hM.apply _

omit hM in
/-- The record chosen by whether the value is among some. -/
theorem recordAmong_rel {a a' b b' : Record σ} (ha : Table.Rel (Property.Rel M R) a a')
    (hb : Table.Rel (Property.Rel M R) b b') (value : Option String) (allowed : List String) :
    Table.Rel (Property.Rel M R) (recordAmong value allowed a b)
      (recordAmong value allowed a' b') := by
  unfold recordAmong
  cases value with
  | none => exact ⟨.nil⟩
  | some value =>
    dsimp only
    split
    · exact ha
    · exact hb

/-- The properties that markers offer instead. -/
theorem fallback_rel {markers markers' : Table (MarkerRow σ)}
    (h : Table.Rel (MarkerRow.Rel M R) markers markers') :
    Table.Rel (Property.Rel M R) (MarkerTable.fallback markers)
      (MarkerTable.fallback markers') := by
  obtain ⟨hrows⟩ := h
  refine Table.Rel.insertAll ⟨.nil⟩ ?_
  refine List.rel_filterMap (P := SameKey (Property.Rel M R)) ?_ hrows
  rintro _ _ ⟨key, hvalue⟩
  obtain ⟨deferred, hrecord⟩ := hvalue
  exact map_rel (hrecord.get? key) fun p q hpq => ⟨key, hpq.mark fun _ _ => hM.apply .optional⟩

omit hM in
/-- Asking for the records of related markers gives the same log. -/
theorem ask_rel {marker : String} {row row' : MarkerRow σ} (h : MarkerRow.Rel M R row row') :
    MarkerTable.ask marker row = MarkerTable.ask marker row' := by
  obtain ⟨deferred, _⟩ := h
  rfl

/-- The record of the marker that the node has. -/
theorem MarkerTable.settle_rel {markers markers' : Table (MarkerRow σ)}
    (h : Table.Rel (MarkerRow.Rel M R) markers markers') (t : Node) :
    Table.Rel (Property.Rel M R) (MarkerTable.settle markers t).1
        (MarkerTable.settle markers' t).1 ∧
      (MarkerTable.settle markers t).2 = (MarkerTable.settle markers' t).2 := by
  have hfallback := fallback_rel hM h
  have hkeys := h.keys_eq
  obtain @⟨rows, rows', hrows⟩ := h
  have hasked : Log.join (rows.map fun entry => ask entry.1 entry.2) =
      Log.join (rows'.map fun entry => ask entry.1 entry.2) := by
    refine congrArg Log.join (List.forall₂_eq_eq_eq ▸ ?_)
    rw [List.forall₂_map_left_iff, List.forall₂_map_right_iff]
    refine hrows.imp ?_
    rintro _ _ ⟨key, hrow⟩
    exact ask_rel hrow
  unfold MarkerTable.settle
  cases t.members? with
  | none => exact ⟨hfallback, hasked⟩
  | some members =>
    have hpresent := find?_rel hrows ((Member.keys members).contains ·)
    unfold MarkerTable.present?
    dsimp only
    generalize List.find? _ rows = entry at hpresent ⊢
    generalize List.find? _ rows' = entry' at hpresent ⊢
    cases hpresent with
    | none => exact ⟨hfallback, by rw [hkeys, hasked]⟩
    | some hrow =>
      obtain ⟨key, hrow⟩ := hrow
      refine ⟨?_, ask_rel hrow⟩
      obtain ⟨deferred, hrecord⟩ := hrow
      exact hrecord

/-- What an open record comes to, and what is found on the way. -/
theorem OpenRecord.settle_rel {p p' : OpenRecord σ} (h : OpenRecord.Rel M R p p')
    (value : Option String) (t : Node) :
    Table.Rel (Property.Rel M R) (p.settle value t).1 (p'.settle value t).1 ∧
      (p.settle value t).2 = (p'.settle value t).2 := by
  induction h with
  | fixed h => exact ⟨h, rfl⟩
  | merged _ _ iha ihb =>
    rw [settle, settle]
    exact ⟨iha.1.merge ihb.1, congrArg₂ (· ++ ·) iha.2 ihb.2⟩
  | byCase space h => exact ⟨recordFor_rel hM space h value, rfl⟩
  | ifAmong allowed _ _ iha ihb =>
    rw [settle, settle]
    exact ⟨recordAmong_rel iha.1 ihb.1 value allowed, congrArg₂ (· ++ ·) iha.2 ihb.2⟩
  | byMarker h => exact MarkerTable.settle_rel hM h t
  | marked hm _ iha =>
    rw [settle, settle]
    exact ⟨iha.1.map fun p q hpq => hpq.mark hm, iha.2⟩

/-- **The same node selects related schemas**, with the same log. -/
theorem Selector.choose_rel {ofRecord : Record σ → σ}
    (hrecord : ∀ r r', Table.Rel (Property.Rel M R) r r' → R (ofRecord r) (ofRecord r'))
    {sel sel' : Selector σ} (h : Selector.Rel M R sel sel') (value : Option String) (t : Node) :
    R (sel.choose ofRecord t value).1 (sel'.choose ofRecord t value).1 ∧
      (sel.choose ofRecord t value).2 = (sel'.choose ofRecord t value).2 := by
  induction h generalizing value with
  | record h =>
    have hsettle := OpenRecord.settle_rel hM h value t
    cases value <;> exact ⟨hrecord _ _ hsettle.1, hsettle.2⟩
  | byValue h ha hb =>
    cases value with
    | none => exact ⟨ha, rfl⟩
    | some value => exact ⟨getD_rel (lookup_rel h value) hb, rfl⟩
  | byKind h hb => cases value <;> exact ⟨getD_rel (lookup_rel h t.kind) hb, rfl⟩
  | sibling key _ ih => cases value <;> exact ih (t.textUnder? key)

/-- Objects with the properties of related records are related. -/
theorem record_rel {ε : Type} {r r' : Record (Schema ε)}
    (h : Table.Rel (Property.Rel M (Schema.Related M)) r r') :
    Schema.Related M (Schema.record r) (Schema.record r') := by
  have hkeys := h.keys_eq
  obtain ⟨hrows⟩ := h
  unfold Schema.record
  rw [hkeys]
  exact .object (.fixed _ ⟨hrows, ⟨.anything, hM.none⟩⟩)

end Selections

end DocShape
