import Mathlib.Data.List.Induction
import Mathlib.Data.List.Nodup
import DocShape.Problem
import DocShape.Schema.Record

/-!
# Records and the declarations that made them

A record is built by writing properties under their keys, by declaring new ones, by merging, by
collecting rows and by going through all properties (`Recipe`). Each of these accepts some
declarations, one after the other (`Recipe.accepted`), and the record that comes out reflects them
(`Table.Reflects`): its keys are those declared, in order of first declaration, and under each of them
stands what was declared last. So no key stands twice in it (`Recipe.properties`).

A table is known by the declarations that it reflects (`Table.Reflects.unique`), and those of two
merged tables follow one another (`Table.Reflects.merge`). So the laws of merging are laws of lists
that are put together (`record_laws`).
-/

namespace DocShape

/-! ### Lists without their repetitions -/

section Repetitions

variable {α : Type} [DecidableEq α]

/-- One more element is left out if it is there already. -/
theorem eraseDups_concat (as : List α) (a : α) :
    (as ++ [a]).eraseDups = if a ∈ as then as.eraseDups else as.eraseDups ++ [a] := by
  rw [List.eraseDups_append, List.removeAll]
  by_cases h : a ∈ as
  · simp [h]
  · simp [h, List.eraseDups_cons]

/-- What is left has no repetitions. -/
theorem nodup_eraseDups (as : List α) : as.eraseDups.Nodup := by
  induction as using List.reverseRecOn with
  | nil => exact List.nodup_nil
  | append_singleton as a ih =>
    rw [eraseDups_concat]
    split
    · exact ih
    · next h =>
      rw [List.nodup_append_comm, List.singleton_append, List.nodup_cons, List.mem_eraseDups]
      exact ⟨h, ih⟩

/-- A list without repetitions stays as it is. -/
theorem eraseDups_eq_self {as : List α} (h : as.Nodup) : as.eraseDups = as := by
  induction as using List.reverseRecOn with
  | nil => rfl
  | append_singleton as a ih =>
    rw [List.nodup_append_comm, List.singleton_append, List.nodup_cons] at h
    rw [eraseDups_concat, if_neg h.1, ih h.2]

/-- Of a second list, those elements are left that the first one has not, each where it comes first. -/
theorem eraseDups_append (as bs : List α) :
    (as ++ bs).eraseDups = as.eraseDups ++ bs.eraseDups.filter (· ∉ as) := by
  induction bs using List.reverseRecOn with
  | nil => simp
  | append_singleton bs b ih =>
    rw [← List.append_assoc, eraseDups_concat, eraseDups_concat, ih]
    by_cases has : b ∈ as
    · by_cases hbs : b ∈ bs <;> simp [has, hbs]
    · by_cases hbs : b ∈ bs <;> simp [has, hbs]

end Repetitions

namespace Table

variable {α β : Type}

/-! ### What a table reflects -/

/-- The names in some declarations, in order of first declaration. -/
def firstNames (log : List (String × α)) : List String := (log.map (·.1)).eraseDups

/-- What was declared last under a name. -/
def lastRow? (log : List (String × α)) (name : String) : Option α := log.reverse.lookup name

/-- What was declared last under each name, in order of first declaration. -/
def settled (log : List (String × α)) : List (String × α) :=
  (firstNames log).filterMap fun name => (lastRow? log name).map (name, ·)

/-- A table has the names that were declared, in order of first declaration, and under each of them
what was declared last. -/
structure Reflects (t : Table α) (log : List (String × α)) : Prop where
  keys_eq : t.keys = firstNames log
  get?_eq (name : String) : t.get? name = lastRow? log name

/-- One more declaration adds its name if it is new. -/
theorem firstNames_concat (log : List (String × α)) (name : String) (row : α) :
    firstNames (log ++ [(name, row)]) =
      if name ∈ firstNames log then firstNames log else firstNames log ++ [name] := by
  simp only [firstNames, List.map_append, List.map_singleton, eraseDups_concat, List.mem_eraseDups]

/-- One more declaration is the last one under its name. -/
theorem lastRow?_concat (log : List (String × α)) (name other : String) (row : α) :
    lastRow? (log ++ [(name, row)]) other = if other = name then some row else lastRow? log other := by
  rw [lastRow?, List.reverse_append, List.reverse_singleton, List.singleton_append, List.lookup_cons]
  by_cases h : other = name
  · simp [h]
  · simp [h, beq_false_of_ne h, lastRow?]

/-- Changing every row changes what is read. -/
theorem get?_map (f : α → β) (t : Table α) (name : String) :
    (t.map f).get? name = (t.get? name).map f := by
  simp [get?, Table.map, List.find?_map, Function.comp_def]

/-- Names that are declared later on follow if they are new. -/
theorem firstNames_append (log log' : List (String × α)) :
    firstNames (log ++ log') = firstNames log ++ (firstNames log').filter (· ∉ firstNames log) := by
  simp only [firstNames, List.map_append, eraseDups_append, List.mem_eraseDups]

/-- What is declared later on counts. -/
theorem lastRow?_append (log log' : List (String × α)) (name : String) :
    lastRow? (log ++ log') name = (lastRow? log' name).or (lastRow? log name) := by
  rw [lastRow?, List.reverse_append, List.lookup_append]
  rfl

/-- Looking a name up in some rows is reading them as a table. -/
theorem lookup_eq_get? (rows : List (String × α)) (name : String) :
    rows.lookup name = (⟨rows⟩ : Table α).get? name := by
  induction rows with
  | nil => rfl
  | cons row rows ih =>
    obtain ⟨name', row⟩ := row
    rw [get?] at ih ⊢
    rw [List.lookup_cons, List.find?_cons, BEq.comm]
    cases name' == name with
    | true => rfl
    | false => exact ih

/-- Nothing is found under names that a table does not have. -/
theorem get?_eq_none_iff {t : Table α} {name : String} : t.get? name = none ↔ name ∉ t.keys := by
  rw [← Option.not_isSome_iff_eq_none, ← contains_eq_isSome_get?, contains, keys]
  simp

/-- Where names are distinct, a row is read under its name. -/
theorem get?_eq_some_iff {t : Table α} (h : t.keys.Nodup) {name : String} {row : α} :
    t.get? name = some row ↔ (name, row) ∈ t.entries := by
  constructor
  · exact mem_entries_of_get?
  · intro hmem
    cases hget : t.get? name with
    | none => exact absurd (List.mem_map_of_mem hmem) (get?_eq_none_iff.mp hget)
    | some row' =>
      have hsame := List.inj_on_of_nodup_map h (mem_entries_of_get? hget) hmem rfl
      rw [(Prod.mk.inj hsame).2]

/-- Nothing was declared last under a name that was never declared. -/
theorem lastRow?_eq_none_iff {log : List (String × α)} {name : String} :
    lastRow? log name = none ↔ name ∉ firstNames log := by
  rw [lastRow?, lookup_eq_get?, get?_eq_none_iff, keys, List.map_reverse, List.mem_reverse,
    firstNames, List.mem_eraseDups]

/-- A table with distinct names reflects its own rows. -/
theorem reflects_entries {t : Table α} (h : t.keys.Nodup) : t.Reflects t.entries := by
  refine ⟨(eraseDups_eq_self h).symm, fun name => ?_⟩
  have hreverse : (⟨t.entries.reverse⟩ : Table α).keys.Nodup := by
    rw [keys, List.map_reverse, List.nodup_reverse]
    exact h
  apply Option.ext
  intro row
  rw [lastRow?, lookup_eq_get?, get?_eq_some_iff h, get?_eq_some_iff hreverse, List.mem_reverse]

/-! ### Going through the rows -/

/-- Changes some rows in order by a function that may remember those it was given before. -/
def changes (f : List α → α → β) (given : List α) : List (String × α) → List (String × β)
  | [] => []
  | (name, row) :: rows => (name, f given row) :: changes f (given ++ [row]) rows

/-- Changes every row in order by a function that may remember those it was given before, and collects
what comes out. -/
def mapAfter (f : List α → α → β) (t : Table α) : Table β := ofList (changes f [] t.entries)

/-- A change of rows leaves their names alone. -/
theorem map_fst_changes (f : List α → α → β) (given : List α) (rows : List (String × α)) :
    (changes f given rows).map (·.1) = rows.map (·.1) := by
  induction rows generalizing given with
  | nil => rfl
  | cons row rows ih => rw [changes, List.map_cons, List.map_cons, ih]

section Distinct

variable {t : Table α} (h : t.keys.Nodup)

include h

/-- Rows under distinct names are collected as they come out. -/
theorem entries_mapAfter (f : List α → α → β) :
    (t.mapAfter f).entries = changes f [] t.entries := by
  apply entries_ofList
  rw [map_fst_changes]
  exact h

/-- Names and their order stay as they are. -/
theorem keys_mapAfter (f : List α → α → β) : (t.mapAfter f).keys = t.keys := by
  rw [keys, entries_mapAfter h, map_fst_changes, keys]

/-- A function of the row alone changes each row by itself. -/
theorem mapAfter_eq_map (f : α → β) : t.mapAfter (fun _ => f) = t.map f := by
  have hrows : ∀ (given : List α) (rows : List (String × α)),
      changes (fun _ => f) given rows = rows.map fun row => (row.1, f row.2) := by
    intro given rows
    induction rows generalizing given with
    | nil => rfl
    | cons row rows ih => rw [changes, ih, List.map_cons]
  have hentries := entries_mapAfter h fun _ => f
  rw [hrows] at hentries
  exact congrArg Table.mk hentries

end Distinct

namespace Reflects

variable {t u : Table α} {log log' : List (String × α)}

/-- Without declarations there are no rows. -/
theorem nil : (⟨[]⟩ : Table α).Reflects [] := ⟨rfl, fun _ => rfl⟩

/-- A table that reflects some declarations has distinct names. -/
theorem nodup (h : t.Reflects log) : t.keys.Nodup := h.keys_eq ▸ nodup_eraseDups _

/-- The rows of a table are what was declared last under each name. -/
theorem entries_eq (h : t.Reflects log) : t.entries = settled log := by
  have hrow : ∀ row ∈ t.entries, (lastRow? log row.1).map (row.1, ·) = some row := by
    intro row hrow
    rw [← h.get?_eq, (get?_eq_some_iff h.nodup).mpr hrow]
    rfl
  rw [settled, ← h.keys_eq, keys, List.filterMap_map]
  calc t.entries = t.entries.filterMap some := List.filterMap_some.symm
    _ = _ := (List.filterMap_congr hrow).symm

/-- **Declarations make the table**: no two tables reflect the same ones. -/
theorem unique (h : t.Reflects log) (h' : u.Reflects log) : t = u := by
  have hrows : t.entries = u.entries := h.entries_eq.trans h'.entries_eq.symm
  cases t
  exact congrArg Table.mk hrows

/-- One more declaration is one more write. -/
theorem insert (h : t.Reflects log) (name : String) (row : α) :
    (t.insert name row).Reflects (log ++ [(name, row)]) := by
  constructor
  · rw [keys_insert, h.keys_eq, firstNames_concat]
  · intro other
    rw [get?_insert, h.get?_eq, lastRow?_concat]

/-- Some declarations are as many writes. -/
theorem insertAll (h : t.Reflects log) (rows : List (String × α)) :
    (t.insertAll rows).Reflects (log ++ rows) := by
  induction rows generalizing t log with
  | nil => rwa [List.append_nil]
  | cons row rows ih =>
    have hrest := ih (h.insert row.1 row.2)
    rwa [List.append_assoc, List.singleton_append] at hrest

/-- A table that reflects some declarations reflects others of the same names that leave the same
behind. -/
theorem congr (h : t.Reflects log) (hnames : firstNames log = firstNames log')
    (hrows : ∀ name, lastRow? log name = lastRow? log' name) : t.Reflects log' :=
  ⟨h.keys_eq.trans hnames, fun name => (h.get?_eq name).trans (hrows name)⟩

/-- **Merging declares what the second table reflects after what the first one does.** -/
theorem merge (h : t.Reflects log) (h' : u.Reflects log') : (t.merge u).Reflects (log ++ log') := by
  have hrows : u.Reflects u.entries := reflects_entries h'.nodup
  refine (h.insertAll u.entries).congr ?_ fun name => ?_
  · rw [firstNames_append, firstNames_append, ← hrows.keys_eq, h'.keys_eq]
  · rw [lastRow?_append, lastRow?_append, ← hrows.get?_eq, h'.get?_eq]

/-- Changing every row changes every declaration. -/
theorem map (h : t.Reflects log) (f : α → β) :
    (t.map f).Reflects (log.map fun row => (row.1, f row.2)) := by
  constructor
  · have hkeys : (t.map f).keys = t.keys := by simp [keys, Table.map]
    rw [hkeys, h.keys_eq, firstNames, firstNames, List.map_map]
    rfl
  · intro name
    rw [get?_map, h.get?_eq, lastRow?, lastRow?, ← List.map_reverse, lookup_eq_get?, lookup_eq_get?,
      ← get?_map]
    rfl

/-- **Going through the rows of a table** declares every name once more, in order, with what the row
is changed into. -/
theorem mapAfter (h : t.Reflects log) (f : List α → α → α) :
    (t.mapAfter f).Reflects (log ++ changes f [] (settled log)) := by
  have hentries : (t.mapAfter f).entries = changes f [] (settled log) := by
    rw [← h.entries_eq]
    exact entries_mapAfter h.nodup f
  have hkeys : (t.mapAfter f).keys = firstNames log := (keys_mapAfter h.nodup f).trans h.keys_eq
  have hrows : (t.mapAfter f).Reflects (changes f [] (settled log)) := by
    rw [← hentries]
    exact reflects_entries (by rw [hkeys]; exact nodup_eraseDups _)
  have hnames := hrows.keys_eq
  rw [hkeys] at hnames
  refine hrows.congr ?_ fun name => ?_
  · rw [firstNames_append, ← hnames]
    simp
  · rw [lastRow?_append]
    cases hlast : lastRow? (changes f [] (settled log)) name with
    | some row => rfl
    | none =>
      rw [lastRow?_eq_none_iff, ← hnames, ← lastRow?_eq_none_iff] at hlast
      exact hlast.symm

end Reflects

end Table

/-! ### Building records -/

/-- Declares a property under a new key; a key that is declared already is refused, and the record
stays as it is. -/
def Record.declare {σ : Type} (r : Record σ) (key : String) (p : Property σ) :
    Record σ × Except Problem Unit :=
  match r.insertNew? key p with
  | some new => (new, .ok ())
  | none => (r, .error (.duplicateProperty key))

namespace Record

variable {σ : Type} {r : Record σ} {key : String}

/-- A key that is declared is refused, and the record stays as it is. -/
theorem declare_of_mem (h : key ∈ r.keys) (p : Property σ) :
    Record.declare r key p = (r, .error (.duplicateProperty key)) := by
  have hcontains : r.contains key = true := by
    rw [Table.contains_eq_isSome_get?, Option.isSome_iff_ne_none, Ne, Table.get?_eq_none_iff]
    exact not_not_intro h
  rw [declare, Table.insertNew?, if_pos hcontains]

/-- A new key is taken. -/
theorem declare_of_not_mem (h : key ∉ r.keys) (p : Property σ) :
    Record.declare r key p = (r.insert key p, .ok ()) := by
  have hcontains : ¬ r.contains key = true := by
    rw [Table.contains_eq_isSome_get?, Option.isSome_iff_ne_none, Ne, Table.get?_eq_none_iff]
    exact not_not_intro h
  rw [declare, Table.insertNew?, if_neg hcontains]

end Record

/-- A way to build a record. -/
inductive Recipe (σ : Type) where
  /-- Starts without properties. -/
  | empty
  /-- Writes a property under a key, in place of one that is there. -/
  | write (recipe : Recipe σ) (key : String) (p : Property σ)
  /-- Declares a property under a key, if that is new. -/
  | declare (recipe : Recipe σ) (key : String) (p : Property σ)
  /-- Merges two records. -/
  | merge (first second : Recipe σ)
  /-- Goes through all properties with a function that may remember those it was given before. -/
  | revise (recipe : Recipe σ) (change : List (Property σ) → Property σ → Property σ)
  /-- Collects some rows. -/
  | collect (rows : List (String × Property σ))

namespace Recipe

variable {σ : Type}

/-- The record that comes out. -/
def record : Recipe σ → Record σ
  | .empty => ⟨[]⟩
  | .write recipe key p => recipe.record.insert key p
  | .declare recipe key p => (Record.declare recipe.record key p).1
  | .merge first second => first.record.merge second.record
  | .revise recipe change => recipe.record.mapAfter change
  | .collect rows => .ofList rows

/-- The declarations that are accepted on the way, one after the other. -/
def accepted : Recipe σ → List (String × Property σ)
  | .empty => []
  | .write recipe key p => recipe.accepted ++ [(key, p)]
  | .declare recipe key p =>
    if key ∈ Table.firstNames recipe.accepted then recipe.accepted
    else recipe.accepted ++ [(key, p)]
  | .merge first second => first.accepted ++ second.accepted
  | .revise recipe change =>
    recipe.accepted ++ Table.changes change [] (Table.settled recipe.accepted)
  | .collect rows => rows

/-- **A record reflects the declarations that its recipe accepts.** -/
theorem reflects_record (recipe : Recipe σ) : recipe.record.Reflects recipe.accepted := by
  induction recipe with
  | empty => exact .nil
  | write recipe key p ih => exact ih.insert key p
  | declare recipe key p ih =>
    rw [record, accepted, ← ih.keys_eq]
    by_cases h : key ∈ recipe.record.keys
    · rw [Record.declare_of_mem h, if_pos h]
      exact ih
    · rw [Record.declare_of_not_mem h, if_neg h]
      exact ih.insert key p
  | merge first second ih₁ ih₂ => exact ih₁.merge ih₂
  | revise recipe change ih => exact ih.mapAfter change
  | collect rows => exact Table.Reflects.nil.insertAll rows

/-- The record that comes out, which has distinct keys whatever the recipe. -/
def properties (recipe : Recipe σ) : Properties σ := ⟨recipe.record, recipe.reflects_record.nodup⟩

end Recipe

/-- **The laws of records.** However a record is built, its keys are distinct and in order of first
declaration, and under each stands the property that was accepted last. A key is refused if and only
if it is declared already, and then the record stays as it is. Merging is associative and has the
empty record as its unit; it puts the new keys of the second record behind those of the first, and
the properties of the second before those of the first. Collecting rows is writing them one by one.
Changing every property leaves keys and order alone, and may be done before or after merging if what
each one is changed into hangs on nothing but itself. -/
theorem record_laws {σ : Type} :
    (∀ recipe : Recipe σ, recipe.record.keys.Nodup ∧
      recipe.record.keys = Table.firstNames recipe.accepted ∧
      ∀ key, recipe.record.get? key = Table.lastRow? recipe.accepted key) ∧
    (∀ (recipe : Recipe σ) (key : String) (p : Property σ),
      Record.declare recipe.record key p =
        if key ∈ recipe.record.keys then (recipe.record, .error (.duplicateProperty key))
        else (recipe.record.insert key p, .ok ())) ∧
    (∀ a b c : Recipe σ, (a.record.merge b.record).merge c.record =
      a.record.merge (b.record.merge c.record)) ∧
    (∀ a : Recipe σ, Table.merge ⟨[]⟩ a.record = a.record ∧ a.record.merge ⟨[]⟩ = a.record) ∧
    (∀ a b : Recipe σ,
      (a.record.merge b.record).keys = a.record.keys ++ b.record.keys.filter (· ∉ a.record.keys) ∧
      ∀ key, (a.record.merge b.record).get? key = (b.record.get? key).or (a.record.get? key)) ∧
    (∀ rows : List (String × Property σ),
      Table.ofList rows = rows.foldl (fun r row => r.insert row.1 row.2) ⟨[]⟩) ∧
    (∀ (a : Recipe σ) (change : List (Property σ) → Property σ → Property σ),
      (a.record.mapAfter change).keys = a.record.keys) ∧
    ∀ (a b : Recipe σ) (change : Property σ → Property σ),
      a.record.mapAfter (fun _ => change) = a.record.map change ∧
      (a.record.merge b.record).map change = (a.record.map change).merge (b.record.map change) := by
  have hreflects := Recipe.reflects_record (σ := σ)
  refine ⟨?_, ?_, ?_, ?_, ?_, fun _ => rfl, ?_, ?_⟩
  · intro recipe
    exact ⟨(hreflects recipe).nodup, (hreflects recipe).keys_eq, (hreflects recipe).get?_eq⟩
  · intro recipe key p
    split
    · next h => exact Record.declare_of_mem h p
    · next h => exact Record.declare_of_not_mem h p
  · intro a b c
    have hleft := ((hreflects a).merge (hreflects b)).merge (hreflects c)
    rw [List.append_assoc] at hleft
    exact hleft.unique ((hreflects a).merge ((hreflects b).merge (hreflects c)))
  · intro a
    refine ⟨(Table.Reflects.nil.merge (hreflects a)).unique (hreflects a), ?_⟩
    have hright := (hreflects a).merge .nil
    rw [List.append_nil] at hright
    exact hright.unique (hreflects a)
  · intro a b
    have hmerged := (hreflects a).merge (hreflects b)
    constructor
    · rw [hmerged.keys_eq, Table.firstNames_append, (hreflects a).keys_eq, (hreflects b).keys_eq]
    · intro key
      rw [hmerged.get?_eq, Table.lastRow?_append, (hreflects a).get?_eq, (hreflects b).get?_eq]
  · intro a change
    exact Table.keys_mapAfter (hreflects a).nodup change
  · intro a b change
    refine ⟨Table.mapAfter_eq_map (hreflects a).nodup change, ?_⟩
    have hmapped := ((hreflects a).merge (hreflects b)).map change
    rw [List.map_append] at hmapped
    exact hmapped.unique (((hreflects a).map change).merge ((hreflects b).map change))

end DocShape
