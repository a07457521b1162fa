import Mathlib.Data.List.Induction
import DocShape.Text.LineTable

/-!
# Places of offsets

The table of a text answers for every offset, and answers right (`locate_ofText`): an offset that falls
between two characters has the row and the column that the characters before it give, every other
offset has none, and no lookup ends with a fault. So rows stay below the number of lines, and places
come in the order of their offsets.

The proof follows a lookup. The characters before an offset are whole lines and then a part of one more
(`Source.exists_wholeLines`). The starts of lines ascend (`LineTable.ascending_lineStarts`), so that the
search comes to the last one that is not behind the offset (`LineTable.exists_row_search`). That is the
one where the whole lines end (`LineTable.onRow_lineStarts`), and what is counted then is the part.
-/

namespace DocShape

namespace Source

/-! ### Characters before an offset -/

/-- The number of bytes of some characters. -/
def bytes (cs : List Char) : Nat := (String.ofList cs).utf8ByteSize

@[simp] theorem bytes_nil : bytes [] = 0 := by simp [bytes]

@[simp] theorem bytes_cons (c : Char) (cs : List Char) : bytes (c :: cs) = c.utf8Size + bytes cs := by
  simp [bytes]

@[simp] theorem bytes_append (cs ds : List Char) : bytes (cs ++ ds) = bytes cs + bytes ds := by
  simp [bytes]

@[simp] theorem bytes_toList (text : String) : bytes text.toList = text.utf8ByteSize := by
  rw [bytes, String.ofList_toList]

theorem bytes_eq_zero_iff {cs : List Char} : bytes cs = 0 ↔ cs = [] := by
  rw [bytes, String.utf8ByteSize_eq_zero_iff, String.ofList_eq_empty_iff]

/-- The characters before an offset are those at the front that take up as many bytes. -/
theorem before?_eq_some_iff {cs front : List Char} {offset : Nat} :
    before? cs offset = some front ↔ front <+: cs ∧ bytes front = offset := by
  fun_induction before? cs offset generalizing front with
  | case1 cs =>
    rw [bytes_eq_zero_iff, Option.some.injEq]
    constructor
    · rintro rfl
      exact ⟨List.nil_prefix, rfl⟩
    · rintro ⟨-, rfl⟩
      rfl
  | case2 offset =>
    refine iff_of_false (fun h => nomatch h) ?_
    rintro ⟨hfront, hbytes⟩
    rw [List.prefix_nil.mp hfront] at hbytes
    simp at hbytes
  | case3 c cs offset hle ih =>
    rw [Option.map_eq_some_iff]
    constructor
    · rintro ⟨rest, hrest, rfl⟩
      obtain ⟨hrest, hbytes⟩ := ih.mp hrest
      refine ⟨(List.prefix_cons_inj c).mpr hrest, ?_⟩
      rw [bytes_cons]
      omega
    · rintro ⟨hfront, hbytes⟩
      cases front with
      | nil => simp at hbytes
      | cons d rest =>
        obtain ⟨rfl, hrest⟩ := List.cons_prefix_cons.mp hfront
        rw [bytes_cons] at hbytes
        exact ⟨rest, ih.mpr ⟨hrest, by omega⟩, rfl⟩
  | case4 c cs offset hle =>
    refine iff_of_false (fun h => nomatch h) ?_
    rintro ⟨hfront, hbytes⟩
    cases front with
    | nil => simp at hbytes
    | cons d rest =>
      obtain ⟨rfl, -⟩ := List.cons_prefix_cons.mp hfront
      rw [bytes_cons] at hbytes
      omega

/-- The characters before the end of some of them. -/
theorem before?_append (front back : List Char) : before? (front ++ back) (bytes front) = some front :=
  before?_eq_some_iff.mpr ⟨List.prefix_append front back, rfl⟩

/-- An offset falls between two characters where there are characters before it. -/
theorem isValid_iff {text : String} {offset : Nat} :
    (String.Pos.Raw.mk offset).IsValid text ↔ ∃ front, before? text.toList offset = some front := by
  rw [String.Pos.Raw.isValid_iff_exists_append]
  constructor
  · rintro ⟨front, back, rfl, hoffset⟩
    have hbytes : bytes front.toList = offset := by
      rw [bytes_toList]
      exact (congrArg String.Pos.Raw.byteIdx hoffset).symm
    rw [String.toList_append, ← hbytes]
    exact ⟨_, before?_append _ _⟩
  · rintro ⟨front, hfront⟩
    obtain ⟨⟨back, hback⟩, rfl⟩ := before?_eq_some_iff.mp hfront
    refine ⟨String.ofList front, String.ofList back, ?_, rfl⟩
    rw [← String.ofList_append, hback, String.ofList_toList]

/-- The characters between two ends. -/
theorem piece?_append (front cs back : List Char) :
    piece? (front ++ cs ++ back) (bytes front) (bytes front + bytes cs) = some cs := by
  rw [piece?, if_pos (Nat.le_add_right _ _), List.append_assoc, before?_append, Option.bind_some,
    List.drop_left, Nat.add_sub_cancel_left, before?_append]

/-! ### Lines -/

/-- Characters that are lines up to the line break of the last one. -/
def WholeLines (cs : List Char) : Prop := cs = [] ∨ ∃ rest, cs = rest ++ ['\n']

/-- Characters are whole lines and then a part of one more. -/
theorem exists_wholeLines (cs : List Char) :
    ∃ lines current, cs = lines ++ current ∧ WholeLines lines ∧ '\n' ∉ current := by
  induction cs using List.reverseRecOn with
  | nil => exact ⟨[], [], rfl, Or.inl rfl, List.not_mem_nil⟩
  | append_singleton cs c ih =>
    obtain ⟨lines, current, rfl, hlines, hcurrent⟩ := ih
    by_cases hc : c = '\n'
    · subst hc
      exact ⟨lines ++ current ++ ['\n'], [], by simp, Or.inr ⟨_, rfl⟩, List.not_mem_nil⟩
    · refine ⟨lines, current ++ [c], by simp, hlines, ?_⟩
      simp [hcurrent, Ne.symm hc]

end Source

namespace Position

/-- Behind characters without a line break, the row is the same and the column has moved on. -/
theorem after_append {cs : List Char} (front : List Char) (h : '\n' ∉ cs) :
    after (front ++ cs) = ⟨(after front).row, (after front).column + cs.length⟩ := by
  have hplain : ∀ c ∈ cs.reverse, (c != '\n') = true := by
    intro c hc
    rw [List.mem_reverse] at hc
    have hne : c ≠ '\n' := fun heq => h (heq ▸ hc)
    simpa using hne
  unfold after
  rw [List.count_append, List.count_eq_zero_of_not_mem h, List.reverse_append,
    List.takeWhile_append_of_pos hplain, List.length_append, List.length_reverse, Nat.add_comm cs.length]
  rfl

/-- Behind whole lines and a part of one more, the row is their number and the column the length of the
part. -/
theorem after_wholeLines {lines current : List Char} (hlines : Source.WholeLines lines)
    (hcurrent : '\n' ∉ current) : after (lines ++ current) = ⟨lines.count '\n', current.length⟩ := by
  rw [after_append lines hcurrent]
  obtain rfl | ⟨rest, rfl⟩ := hlines <;> simp [after]

/-- The position moves on with every character. -/
theorem before_after_append {front cs : List Char} (h : cs ≠ []) :
    (after front).Before (after (front ++ cs)) := by
  by_cases hbreak : '\n' ∈ cs
  · left
    have hcount := List.count_pos_iff.mpr hbreak
    simp only [after, List.count_append]
    omega
  · right
    rw [after_append front hbreak]
    exact ⟨rfl, Nat.lt_add_of_pos_right (List.length_pos_iff.mpr h)⟩

theorem not_before_self (p : Position) : ¬ p.Before p := by
  unfold Before
  omega

theorem Before.asymm {p q : Position} (h : p.Before q) : ¬ q.Before p := by
  unfold Before at *
  omega

end Position

namespace LineTable

open Source

/-! ### Starts of lines -/

theorem breaks_append (offset : Nat) (cs ds : List Char) :
    breaks offset (cs ++ ds) = breaks offset cs ++ breaks (offset + bytes cs) ds := by
  induction cs generalizing offset with
  | nil => simp [breaks]
  | cons c cs ih => simp [breaks, ih, Nat.add_assoc]

@[simp] theorem length_breaks (offset : Nat) (cs : List Char) :
    (breaks offset cs).length = cs.count '\n' := by
  induction cs generalizing offset with
  | nil => rfl
  | cons c cs ih =>
    rw [breaks, List.length_append, ih, List.count_cons]
    by_cases hc : c = '\n' <;> simp [hc, Nat.add_comm]

/-- Line breaks stand among the characters. -/
theorem bounds_of_mem_breaks {offset x : Nat} {cs : List Char} (h : x ∈ breaks offset cs) :
    offset ≤ x ∧ x < offset + bytes cs := by
  induction cs generalizing offset with
  | nil => cases h
  | cons c cs ih =>
    have hpos := c.utf8Size_pos
    rw [bytes_cons]
    rcases List.mem_append.mp h with h | h
    · by_cases hc : c = '\n'
      · rw [if_pos hc, List.mem_singleton] at h
        omega
      · rw [if_neg hc] at h
        cases h
    · have := ih h
      omega

/-- Line breaks stand one behind the other. -/
theorem pairwise_breaks (offset : Nat) (cs : List Char) : (breaks offset cs).Pairwise (· < ·) := by
  induction cs generalizing offset with
  | nil => exact .nil
  | cons c cs ih =>
    refine List.pairwise_append.mpr ⟨?_, ih _, ?_⟩
    · split_ifs <;> simp
    · intro x hx y hy
      have hpos := c.utf8Size_pos
      have hbound := bounds_of_mem_breaks hy
      by_cases hc : c = '\n'
      · rw [if_pos hc, List.mem_singleton] at hx
        omega
      · rw [if_neg hc] at hx
        cases hx

/-- Each entry of a table is smaller than those that follow. -/
def Ascending (starts : Array Nat) : Prop :=
  ∀ i j x y : Nat, i < j → starts[i]? = some x → starts[j]? = some y → x < y

/-- The starts of lines ascend. -/
theorem ascending_lineStarts (cs : List Char) : Ascending (lineStarts cs).toArray := by
  have hpairwise : (lineStarts cs).Pairwise (· < ·) := by
    rw [lineStarts, List.pairwise_cons, List.pairwise_map]
    refine ⟨by simp, (pairwise_breaks 0 cs).imp ?_⟩
    intro x y hxy
    exact Nat.succ_lt_succ hxy
  intro i j x y hij hx hy
  rw [List.getElem?_toArray, List.getElem?_eq_some_iff] at hx hy
  obtain ⟨hi, rfl⟩ := hx
  obtain ⟨hj, rfl⟩ := hy
  exact List.pairwise_iff_getElem.mp hpairwise i j hi hj hij

/-! ### The search -/

/-- What a hit says of the entries around it: either the offset is one of them, or those before are
smaller and those from there on greater. -/
def Hit.Fits (starts : Array Nat) (offset : Nat) : Hit → Prop
  | .found row => starts[row]? = some offset
  | .missing row => row ≤ starts.size ∧ (∀ i x, i < row → starts[i]? = some x → x < offset) ∧
    ∀ i x, row ≤ i → starts[i]? = some x → offset < x

/-- **The search** keeps to the part of the table where the offset belongs: what it leaves behind is
smaller, and what it leaves ahead is greater. -/
theorem fits_search {starts : Array Nat} (hstarts : Ascending starts) (offset low high : Nat)
    (hhigh : high ≤ starts.size) (hle : low ≤ high)
    (hbelow : ∀ i x, i < low → starts[i]? = some x → x < offset)
    (habove : ∀ i x, high ≤ i → starts[i]? = some x → offset < x) :
    (search starts offset low high hhigh).Fits starts offset := by
  fun_induction search starts offset low high hhigh with
  | case1 low high hhigh hlow middle hmiddle heq =>
    exact Array.getElem?_eq_some_iff.mpr ⟨hmiddle, heq⟩
  | case2 low high hhigh hlow middle hmiddle hne hlt ih =>
    refine ih (by omega) ?_ habove
    intro i x hi hx
    rcases Nat.lt_or_eq_of_le (Nat.le_of_lt_succ hi) with hi | rfl
    · exact Nat.lt_trans (hstarts i middle x _ hi hx (Array.getElem?_eq_getElem hmiddle)) hlt
    · obtain ⟨_, rfl⟩ := Array.getElem?_eq_some_iff.mp hx
      exact hlt
  | case3 low high hhigh hlow middle hmiddle hne hlt ih =>
    refine ih (by omega) hbelow ?_
    intro i x hi hx
    have hgt : offset < starts[middle] := by omega
    rcases Nat.lt_or_eq_of_le hi with hi | rfl
    · exact Nat.lt_trans hgt (hstarts middle i _ x hi (Array.getElem?_eq_getElem hmiddle) hx)
    · obtain ⟨_, rfl⟩ := Array.getElem?_eq_some_iff.mp hx
      exact hgt
  | case4 low high hhigh hlow =>
    have heq : low = high := by omega
    subst heq
    exact ⟨hhigh, hbelow, habove⟩

/-- A row is the last one whose line does not start behind an offset. -/
def OnRow (starts : Array Nat) (offset row : Nat) : Prop :=
  (∃ start, starts[row]? = some start ∧ start ≤ offset) ∧
    ∀ i x, row < i → starts[i]? = some x → offset < x

/-- There is one such row only. -/
theorem OnRow.unique {starts : Array Nat} {offset row row' : Nat} (h : OnRow starts offset row)
    (h' : OnRow starts offset row') : row = row' := by
  obtain ⟨⟨start, hstart, hle⟩, hlater⟩ := h
  obtain ⟨⟨start', hstart', hle'⟩, hlater'⟩ := h'
  rcases Nat.lt_trichotomy row row' with hlt | heq | hgt
  · have := hlater row' start' hlt hstart'
    omega
  · exact heq
  · have := hlater' row start hgt hstart
    omega

/-- In a table that starts at zero, the search comes to a row, and it is that one. -/
theorem exists_row_search {starts : Array Nat} (hstarts : Ascending starts)
    (hzero : starts[0]? = some 0) (offset : Nat) :
    ∃ row, (search starts offset 0 starts.size (Nat.le_refl _)).row = .ok row ∧
      OnRow starts offset row := by
  have hfits : (search starts offset 0 starts.size (Nat.le_refl _)).Fits starts offset := by
    apply fits_search hstarts offset 0 starts.size _ (Nat.zero_le _)
    · intro i x hi
      cases hi
    · intro i x hi hx
      rw [Array.getElem?_eq_none hi] at hx
      cases hx
  cases hhit : search starts offset 0 starts.size (Nat.le_refl _) with
  | found row =>
    rw [hhit] at hfits
    refine ⟨row, rfl, ⟨offset, hfits, Nat.le_refl _⟩, ?_⟩
    intro i x hi hx
    exact hstarts row i offset x hi hfits hx
  | missing row =>
    rw [hhit] at hfits
    obtain ⟨hsize, hbelow, habove⟩ := hfits
    cases row with
    | zero =>
      -- the first line starts at zero, so that nothing comes before it
      have hlt := habove 0 0 (Nat.le_refl 0) hzero
      cases hlt
    | succ row =>
      have hrow : starts[row]? = some starts[row] := Array.getElem?_eq_getElem hsize
      have hlt := hbelow row starts[row] (Nat.lt_succ_self row) hrow
      exact ⟨row, rfl, ⟨starts[row], hrow, Nat.le_of_lt hlt⟩, habove⟩

/-! ### A lookup -/

/-- Behind whole lines, a line starts; the part of the next line adds no start. -/
theorem lineStarts_append {lines current : List Char} (hcurrent : '\n' ∉ current) (back : List Char) :
    lineStarts (lines ++ current ++ back) =
      lineStarts lines ++ (breaks (bytes (lines ++ current)) back).map (· + 1) := by
  have hnone : breaks (bytes lines) current = [] := by
    rw [← List.length_eq_zero_iff, length_breaks, List.count_eq_zero]
    exact hcurrent
  rw [lineStarts, breaks_append, breaks_append, Nat.zero_add, Nat.zero_add, hnone, List.append_nil,
    List.map_append]
  rfl

/-- The last line that starts in whole lines starts at their end. -/
theorem getElem?_lineStarts {lines : List Char} (hlines : WholeLines lines) :
    (lineStarts lines)[lines.count '\n']? = some (bytes lines) := by
  obtain rfl | ⟨rest, rfl⟩ := hlines
  · rfl
  · have hlast : breaks (bytes rest) ['\n'] = [bytes rest] := rfl
    have hbreak : '\n'.utf8Size = 1 := rfl
    rw [lineStarts, breaks_append, Nat.zero_add, hlast, List.count_append, List.count_singleton_self,
      List.getElem?_cons_succ, List.map_append, List.getElem?_append_right (by simp)]
    simp [hbreak]

/-- Behind whole lines and a part of one more, that line is the row. -/
theorem onRow_lineStarts {lines current : List Char} (hlines : WholeLines lines)
    (hcurrent : '\n' ∉ current) (back : List Char) :
    OnRow (lineStarts (lines ++ current ++ back)).toArray (bytes (lines ++ current))
      (lines.count '\n') := by
  have hlength : (lineStarts lines).length = lines.count '\n' + 1 := by simp [lineStarts]
  unfold OnRow
  simp only [List.getElem?_toArray, lineStarts_append hcurrent]
  constructor
  · refine ⟨bytes lines, ?_, by simp⟩
    rw [List.getElem?_append_left (by omega)]
    exact getElem?_lineStarts hlines
  · intro i x hi hx
    rw [List.getElem?_append_right (by omega)] at hx
    obtain ⟨y, hy, rfl⟩ := List.mem_map.mp (List.mem_of_getElem? hx)
    exact Nat.lt_succ_of_le (bounds_of_mem_breaks hy).1

section Steps

variable {table : LineTable} {offset : Nat}

/-- An offset that does not fall between two characters has no place. -/
theorem locate_of_not_isValid (h : ¬ (String.Pos.Raw.mk offset).IsValid table.text) :
    table.locate offset = .ok none :=
  if_pos (Or.inr h)

/-- Any other offset has one, if each step of the lookup can be done. -/
theorem locate_of_steps {row start : Nat} {piece : List Char}
    (hvalid : (String.Pos.Raw.mk offset).IsValid table.text) (hrow : table.row offset = .ok row)
    (hstart : table.start row = .ok start) (hpiece : table.piece start offset = .ok piece) :
    table.locate offset = .ok (some ⟨⟨row, piece.length⟩, offset⟩) := by
  have hguard : ¬ (table.text.utf8ByteSize < offset ∨
      ¬ (String.Pos.Raw.mk offset).IsValid table.text) := by
    rintro (hlt | hnot)
    · exact Nat.not_lt_of_le hvalid.le_utf8ByteSize hlt
    · exact hnot hvalid
  rw [locate, if_neg hguard]
  simp only [bind, Except.bind, hrow, hstart, hpiece]
  rfl

end Steps

section Lookup

variable {text : String} {lines current back : List Char} (htext : lines ++ current ++ back = text.toList)
  (hlines : WholeLines lines) (hcurrent : '\n' ∉ current)

include htext hlines hcurrent

theorem row_ofText : (ofText text).row (bytes (lines ++ current)) = .ok (lines.count '\n') := by
  obtain ⟨row, hrow, honRow⟩ := exists_row_search (ascending_lineStarts text.toList) rfl
    (bytes (lines ++ current))
  rw [← htext] at honRow
  rw [← honRow.unique (onRow_lineStarts hlines hcurrent back)]
  exact hrow

theorem start_ofText : (ofText text).start (lines.count '\n') = .ok (bytes lines) := by
  rw [start, ofText, List.getElem?_toArray, ← htext, lineStarts_append hcurrent,
    List.getElem?_append_left (by simp [lineStarts]), getElem?_lineStarts hlines]

omit hlines hcurrent in
theorem piece_ofText :
    (ofText text).piece (bytes lines) (bytes (lines ++ current)) = .ok current := by
  rw [piece, ofText, ← htext, bytes_append, piece?_append]

end Lookup

/-- **A lookup** comes to the place that the characters before the offset give, or to none where the
offset does not fall between two characters. It never ends with a fault. -/
theorem locate_eq (text : String) (offset : Nat) :
    (ofText text).locate offset =
      .ok ((before? text.toList offset).map fun front => ⟨Position.after front, offset⟩) := by
  cases hfront : before? text.toList offset with
  | none =>
    apply locate_of_not_isValid
    show ¬ (String.Pos.Raw.mk offset).IsValid text
    simp [isValid_iff, hfront]
  | some front =>
    have hvalid : (String.Pos.Raw.mk offset).IsValid text := isValid_iff.mpr ⟨front, hfront⟩
    obtain ⟨⟨back, htext⟩, rfl⟩ := before?_eq_some_iff.mp hfront
    obtain ⟨lines, current, rfl, hlines, hcurrent⟩ := exists_wholeLines front
    rw [Option.map_some, Position.after_wholeLines hlines hcurrent]
    exact locate_of_steps hvalid (row_ofText htext hlines hcurrent)
      (start_ofText htext hlines hcurrent) (piece_ofText htext)

/-- A lookup comes to a place where there are characters before the offset. -/
theorem locate_eq_some_iff {text : String} {offset : Nat} {l : Location} :
    (ofText text).locate offset = .ok (some l) ↔
      ∃ front, before? text.toList offset = some front ∧ l = ⟨Position.after front, offset⟩ := by
  rw [locate_eq, Except.ok.injEq, Option.map_eq_some_iff]
  exact exists_congr fun front => and_congr_right' eq_comm

/-- There is a line for every row. -/
theorem row_lt_lineCount {text : String} {front : List Char} (h : front <+: text.toList) :
    (Position.after front).row < (ofText text).lineCount := by
  have hle : front.count '\n' ≤ text.toList.count '\n' := h.sublist.count_le _
  have hcount : (ofText text).lineCount = text.toList.count '\n' + 1 := by
    simp [lineCount, ofText, lineStarts]
  rw [hcount]
  exact Nat.lt_succ_of_le hle

/-- An earlier offset has an earlier place. -/
theorem before_of_lt {text : String} {a b : Nat} {l l' : Location}
    (hl : (ofText text).locate a = .ok (some l)) (hl' : (ofText text).locate b = .ok (some l'))
    (hlt : a < b) : l.toPosition.Before l'.toPosition := by
  obtain ⟨front, hfront, rfl⟩ := locate_eq_some_iff.mp hl
  obtain ⟨front', hfront', rfl⟩ := locate_eq_some_iff.mp hl'
  obtain ⟨hpre, rfl⟩ := before?_eq_some_iff.mp hfront
  obtain ⟨hpre', rfl⟩ := before?_eq_some_iff.mp hfront'
  have hlonger : front <+: front' := by
    refine (List.prefix_or_prefix_of_prefix hpre hpre').resolve_right ?_
    rintro ⟨cs, rfl⟩
    rw [bytes_append] at hlt
    omega
  obtain ⟨cs, rfl⟩ := hlonger
  apply Position.before_after_append
  rintro rfl
  rw [List.append_nil] at hlt
  exact Nat.lt_irrefl _ hlt

/-- **Places of offsets**: the table of a text answers for every offset, without a fault. An offset has
a place exactly if it is at most the length of the text and falls between two characters. The text
before the offset is then whole lines and a part of one more: the row is the number of line breaks in
it, which is less than the number of lines, and the column is the number of characters in the part.
Places come in the order of their offsets, and no two offsets share one. -/
theorem locate_ofText (text : String) :
    (∀ offset, ∃ place, (ofText text).locate offset = .ok place ∧
      (place.isSome ↔ offset ≤ text.utf8ByteSize ∧ (String.Pos.Raw.mk offset).IsValid text)) ∧
    (∀ offset l, (ofText text).locate offset = .ok (some l) → l.offset = offset ∧
      l.row < (ofText text).lineCount ∧
      ∃ lines current back : String, text = lines ++ current ++ back ∧
        (lines ++ current).utf8ByteSize = offset ∧
        (lines = "" ∨ lines.toList.getLast? = some '\n') ∧ '\n' ∉ current.toList ∧
        l.row = (lines ++ current).toList.count '\n' ∧ l.column = current.length) ∧
    ∀ a b l l', (ofText text).locate a = .ok (some l) → (ofText text).locate b = .ok (some l') →
      (a < b ↔ l.toPosition.Before l'.toPosition) ∧ (l.toPosition = l'.toPosition → a = b) := by
  refine ⟨?_, ?_, ?_⟩
  · intro offset
    refine ⟨_, locate_eq text offset, ?_⟩
    rw [Option.isSome_map, Option.isSome_iff_exists, ← isValid_iff]
    exact ⟨fun hvalid => ⟨hvalid.le_utf8ByteSize, hvalid⟩, And.right⟩
  · intro offset l hl
    obtain ⟨front, hfront, rfl⟩ := locate_eq_some_iff.mp hl
    obtain ⟨⟨back, htext⟩, hbytes⟩ := before?_eq_some_iff.mp hfront
    have hrow := row_lt_lineCount ⟨back, htext⟩
    obtain ⟨lines, current, rfl, hlines, hcurrent⟩ := exists_wholeLines front
    refine ⟨rfl, hrow, String.ofList lines, String.ofList current, String.ofList back,
      ?_, ?_, ?_, ?_, ?_, ?_⟩
    · rw [← String.ofList_append, ← String.ofList_append, htext, String.ofList_toList]
    · rw [← String.ofList_append]
      exact hbytes
    · obtain rfl | ⟨rest, rfl⟩ := hlines
      · exact Or.inl rfl
      · exact Or.inr (by simp)
    · rwa [String.toList_ofList]
    · rw [← String.ofList_append, String.toList_ofList]
      rfl
    · rw [String.length_ofList, Position.after_wholeLines hlines hcurrent]
  · intro a b l l' hl hl'
    rcases Nat.lt_trichotomy a b with hlt | rfl | hgt
    · have hbefore := before_of_lt hl hl' hlt
      refine ⟨iff_of_true hlt hbefore, fun heq => ?_⟩
      exact absurd (heq ▸ hbefore) (Position.not_before_self _)
    · cases hl.symm.trans hl'
      exact ⟨iff_of_false (Nat.lt_irrefl a) (Position.not_before_self _), fun _ => rfl⟩
    · have hbefore := before_of_lt hl' hl hgt
      refine ⟨iff_of_false (Nat.lt_asymm hgt) hbefore.asymm, fun heq => ?_⟩
      exact absurd (heq ▸ hbefore) (Position.not_before_self _)

/-- The second line starts behind a character of two bytes and a line break; there is no place inside
the character. -/
example : Source.locate? "é\nx" 4 = some ⟨1, 1⟩ ∧ Source.locate? "é\nx" 1 = none := by cbv

end LineTable

end DocShape
