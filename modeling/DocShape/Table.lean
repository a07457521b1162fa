/-!
# Tables with named rows

A `Table` keeps its rows in the order in which their names came up first. Writing under a known name
replaces the row where it stands; a new name goes to the end. Every table is built from the empty
one by `insert`, which never lets a name appear twice (`keys_insert`).
-/

namespace DocShape

/-- Rows by name, in order of first appearance. -/
structure Table (α : Type) where
  /-- The rows with their names. -/
  entries : List (String × α) := []

namespace Table

variable {α β : Type}

/-- The names, in order. -/
def keys (t : Table α) : List String := t.entries.map (·.1)

/-- The number of rows. -/
def size (t : Table α) : Nat := t.entries.length

/-- Whether there are no rows. -/
def isEmpty (t : Table α) : Bool := t.entries.isEmpty

/-- The row under a name. -/
def get? (t : Table α) (key : String) : Option α :=
  (t.entries.find? (·.1 == key)).map (·.2)

/-- Whether a name has a row. -/
def contains (t : Table α) (key : String) : Bool := t.entries.any (·.1 == key)

/-- Writes a row into a list of rows: in place under a known name, at the end under a new one. -/
def insertRow (key : String) (row : α) : List (String × α) → List (String × α)
  | [] => [(key, row)]
  | (key', row') :: rest =>
    if key' = key then (key', row) :: rest else (key', row') :: insertRow key row rest

/-- Writes a row under a name. -/
def insert (t : Table α) (key : String) (row : α) : Table α := ⟨insertRow key row t.entries⟩

/-- Writes a row under a name that has none yet, and refuses a name that has one. -/
def insertNew? (t : Table α) (key : String) (row : α) : Option (Table α) :=
  if t.contains key then none else some (t.insert key row)

/-- Writes some rows one after the other. -/
def insertAll (t : Table α) (rows : List (String × α)) : Table α :=
  rows.foldl (fun t (key, row) => t.insert key row) t

/-- The table of some rows: a repeated name stands where it came up first, with the row it came up
with last. -/
def ofList (rows : List (String × α)) : Table α := (⟨[]⟩ : Table α).insertAll rows

/-- Two tables in one: the rows of the second win under common names, and its new names follow. -/
def merge (t u : Table α) : Table α := t.insertAll u.entries

/-- Changes every row and keeps names and order. -/
def map (f : α → β) (t : Table α) : Table β := ⟨t.entries.map fun (key, row) => (key, f row)⟩

/-- The names in alphabetical order. -/
def sortedKeys (t : Table α) : List String := t.keys.mergeSort

/-! ### The names after a write -/

/-- A write keeps the names if it finds its own, and appends it if not. -/
theorem map_fst_insertRow (key : String) (row : α) (rows : List (String × α)) :
    (insertRow key row rows).map (·.1) =
      if key ∈ rows.map (·.1) then rows.map (·.1) else rows.map (·.1) ++ [key] := by
  induction rows with
  | nil => simp [insertRow]
  | cons r rows ih =>
    by_cases h : r.1 = key
    · simp [insertRow, h]
    · by_cases hm : key ∈ rows.map (·.1)
      · rw [if_pos hm] at ih
        rw [if_pos (by simp only [List.map_cons]; exact List.mem_cons_of_mem _ hm)]
        simp [insertRow, h, ih]
      · rw [if_neg hm] at ih
        rw [if_neg (by simp only [List.map_cons, List.mem_cons]; grind)]
        simp [insertRow, h, ih]

/-- The names after a write. -/
theorem keys_insert (t : Table α) (key : String) (row : α) :
    (t.insert key row).keys = if key ∈ t.keys then t.keys else t.keys ++ [key] :=
  map_fst_insertRow key row t.entries

/-! ### The rows after a write -/

/-- A write into rows is read back under its own name and under no other. -/
theorem find?_insertRow (key other : String) (row : α) (rows : List (String × α)) :
    ((insertRow key row rows).find? (·.1 == other)).map (·.2) =
      if other = key then some row else (rows.find? (·.1 == other)).map (·.2) := by
  induction rows with
  | nil => grind [insertRow]
  | cons r rows ih => grind [insertRow]

/-- A write is read back under its own name and under no other. -/
theorem get?_insert (t : Table α) (key other : String) (row : α) :
    (t.insert key row).get? other = if other = key then some row else t.get? other :=
  find?_insertRow key other row t.entries

/-- A name has a row if and only if one is found under it. -/
theorem contains_eq_isSome_get? (t : Table α) (key : String) :
    t.contains key = (t.get? key).isSome := by
  rw [get?, Option.isSome_map, List.isSome_find?]
  rfl

/-! ### Rows under new names -/

/-- A row under a new name goes to the end. -/
theorem insertRow_of_not_mem {key : String} {row : α} {rows : List (String × α)}
    (h : key ∉ rows.map (·.1)) : insertRow key row rows = rows ++ [(key, row)] := by
  induction rows with
  | nil => rfl
  | cons r rows ih =>
    rw [List.map_cons, List.mem_cons, not_or] at h
    rw [insertRow, if_neg (Ne.symm h.1), ih h.2, List.cons_append]

/-- Rows under names that are new and distinct go to the end as they are. -/
theorem entries_insertAll_of_nodup {rows : List (String × α)} {t : Table α}
    (h : (t.keys ++ rows.map (·.1)).Nodup) : (t.insertAll rows).entries = t.entries ++ rows := by
  induction rows generalizing t with
  | nil => exact (List.append_nil _).symm
  | cons r rows ih =>
    have hnew : r.1 ∉ t.entries.map (·.1) := by
      intro hmem
      exact (List.nodup_append.mp h).2.2 _ hmem r.1 (by simp) rfl
    have hentries : (t.insert r.1 r.2).entries = t.entries ++ [r] := insertRow_of_not_mem hnew
    have hkeys : (t.insert r.1 r.2).keys = t.keys ++ [r.1] := by
      rw [keys, hentries, List.map_append]
      rfl
    show ((t.insert r.1 r.2).insertAll rows).entries = _
    rw [ih (by rw [hkeys, List.append_assoc]; exact h), hentries, List.append_assoc]
    rfl

/-- Rows under distinct names are kept as they are. -/
theorem entries_ofList {rows : List (String × α)} (h : (rows.map (·.1)).Nodup) :
    (ofList rows).entries = rows :=
  entries_insertAll_of_nodup h

/-! ### Where rows come from -/

/-- A row that is read is one of the table's. -/
theorem mem_entries_of_get? {t : Table α} {key : String} {row : α} (h : t.get? key = some row) :
    (key, row) ∈ t.entries := by
  obtain ⟨⟨key', row'⟩, hfind, rfl⟩ := Option.map_eq_some_iff.mp h
  have hkey : key' = key := by simpa using List.find?_some hfind
  exact hkey ▸ List.mem_of_find?_eq_some hfind

/-- After a write into rows, a row is the written one or was there before. -/
theorem mem_insertRow {key : String} {row : α} {rows : List (String × α)} {r : String × α}
    (h : r ∈ insertRow key row rows) : r = (key, row) ∨ r ∈ rows := by
  induction rows with
  | nil => exact Or.inl (List.mem_singleton.mp h)
  | cons r' rows ih =>
    by_cases hkey : r'.1 = key
    · rw [insertRow, if_pos hkey, List.mem_cons, hkey] at h
      exact h.imp id (List.mem_cons_of_mem _)
    · rw [insertRow, if_neg hkey, List.mem_cons] at h
      rcases h with rfl | h
      · exact Or.inr List.mem_cons_self
      · exact (ih h).imp id (List.mem_cons_of_mem _)

/-- After some writes, a row is one of the written ones or was there before. -/
theorem mem_entries_insertAll {rows : List (String × α)} {t : Table α} {r : String × α}
    (h : r ∈ (t.insertAll rows).entries) : r ∈ rows ∨ r ∈ t.entries := by
  induction rows generalizing t with
  | nil => exact Or.inr h
  | cons r' rows ih =>
    rcases ih (t := t.insert r'.1 r'.2) h with h | h
    · exact Or.inl (List.mem_cons_of_mem _ h)
    · rcases mem_insertRow h with rfl | h
      · exact Or.inl List.mem_cons_self
      · exact Or.inr h

end Table

end DocShape
