import Mathlib.Data.Nat.Digits.Defs
import Mathlib.Data.List.Forall2
import DocShape.Message.Phrasebook

/-!
# The cutting of a template

`Cuts count text pieces` says, without any scanner, which pieces are the leftmost cutting of a text
for `count` arguments. A percent sign opens a reference exactly if some number below `count` stands
between it and the next percent sign, and then both signs belong to the reference. Otherwise it
stands for itself and the text right behind it is cut on its own, so that the sign that would have
closed the reference may open one.

The cutting exists and is unique (`cuts_iff`), and it is the one that `Template.cut` makes. It is
fixed before any argument is seen. A message is its pieces in order, with an argument's text where
the reference to it stood (`forall₂_becomes_fill`).
-/

namespace DocShape.Template

variable {count i : Nat} {cs digits rest : List Char} {pieces : List Piece}

/-! ### Numbers in a template -/

/-- The number that some decimal digits write. -/
def decimal (digits : List Char) : Nat :=
  Nat.ofDigits 10 (digits.reverse.map fun d => d.toNat - '0'.toNat)

/-- The characters are decimal digits, at least one, and write the number `i`, which fits 64 bits. -/
def Numeral (digits : List Char) (i : Nat) : Prop :=
  digits ≠ [] ∧ (∀ d ∈ digits, d.isDigit = true) ∧ i = decimal digits ∧ i < UInt64.size

/-- The characters write the number `i`: a numeral, perhaps behind one plus sign. -/
def Reads (cs : List Char) (i : Nat) : Prop :=
  ∃ digits, (cs = digits ∨ cs = '+' :: digits) ∧ Numeral digits i

/-- Reading digits from the front gives their decimal value. -/
theorem foldl_digits (digits : List Char) :
    digits.foldl (fun n d => 10 * n + (d.toNat - '0'.toNat)) 0 = decimal digits := by
  unfold decimal
  rw [Nat.ofDigits_eq_foldr, List.foldr_map, List.foldr_reverse]
  simp only [Nat.cast_id, Nat.add_comm]

/-- A numeral begins with no plus sign. -/
theorem not_numeral_plus : ¬ Numeral ('+' :: digits) i := by
  rintro ⟨-, hall, -⟩
  exact absurd (hall '+' List.mem_cons_self) (by decide)

/-- `index?` gives the number that the characters write, if they write one. -/
theorem index?_eq_some_iff : index? cs = some i ↔ Reads cs i := by
  have hnumeral : ∀ digits : List Char,
      (if !digits.isEmpty && digits.all Char.isDigit && decimal digits < UInt64.size
        then some (decimal digits) else none) = some i ↔ Numeral digits i := by
    intro digits
    simp only [Option.ite_none_right_eq_some, Bool.and_eq_true, Bool.not_eq_true',
      List.isEmpty_eq_false_iff, List.all_eq_true, decide_eq_true_eq, Option.some.injEq, Numeral]
    grind
  unfold index? Reads
  simp only [foldl_digits]
  split
  · next tail =>
    rw [hnumeral]
    constructor
    · intro h
      exact ⟨tail, .inr rfl, h⟩
    · rintro ⟨ds, rfl | hds, h⟩
      · exact absurd h not_numeral_plus
      · rwa [(List.cons.inj hds).2]
  · next hplus =>
    rw [hnumeral]
    constructor
    · intro h
      exact ⟨cs, .inl rfl, h⟩
    · rintro ⟨ds, rfl | rfl, h⟩
      · exact h
      · exact absurd rfl (hplus ds)

/-! ### References -/

/-- What stands before the first percent sign. -/
theorem takeWhile_append_percent (hdigits : '%' ∉ digits) :
    (digits ++ '%' :: rest).takeWhile (· != '%') = digits := by
  rw [List.takeWhile_append_of_pos (fun d hd => by simpa using fun h : d = '%' => hdigits (h ▸ hd))]
  simp

/-- A text with a percent sign falls apart at the first one. -/
theorem exists_append_percent (h : (cs.takeWhile (· != '%')).length < cs.length) :
    ∃ rest, cs = cs.takeWhile (· != '%') ++ '%' :: rest ∧ '%' ∉ cs.takeWhile (· != '%') := by
  have happend := List.takeWhile_append_dropWhile (p := (· != '%')) (l := cs)
  cases hdrop : cs.dropWhile (· != '%') with
  | nil =>
    rw [hdrop, List.append_nil] at happend
    rw [happend] at h
    omega
  | cons c rest =>
    have hc : c = '%' := by
      have hhead := List.head_dropWhile_not (p := (· != '%')) (l := cs) (by simp [hdrop])
      simpa [hdrop] using hhead
    rw [hdrop, hc] at happend
    refine ⟨rest, happend.symm, fun hmem => ?_⟩
    simpa using List.all_eq_true.mp List.all_takeWhile _ hmem

/-- `reference?` finds the reference that the text begins with, if it begins with one. -/
theorem reference?_eq_some_iff : reference? count cs = some (digits, i) ↔
    ∃ rest, cs = digits ++ '%' :: rest ∧ '%' ∉ digits ∧ Reads digits i ∧ i < count := by
  unfold reference?
  constructor
  · intro h
    simp only [Option.ite_none_right_eq_some] at h
    obtain ⟨hlength, h⟩ := h
    split at h
    · next n hn =>
      simp only [Option.ite_none_right_eq_some, Option.some.injEq, Prod.mk.injEq] at h
      obtain ⟨hlt, rfl, rfl⟩ := h
      obtain ⟨rest, hcs, hno⟩ := exists_append_percent hlength
      exact ⟨rest, hcs, hno, index?_eq_some_iff.mp hn, hlt⟩
    · exact absurd h (by simp)
  · rintro ⟨rest, rfl, hno, hreads, hlt⟩
    simp [takeWhile_append_percent hno, index?_eq_some_iff.mpr hreads, hlt]

/-! ### The leftmost cutting -/

/-- The leftmost cutting of a text for `count` arguments. -/
inductive Cuts (count : Nat) : List Char → List Piece → Prop
  /-- An empty text has no pieces. -/
  | done : Cuts count [] []
  /-- Any other character than a percent sign stands for itself. -/
  | plain {c : Char} {cs : List Char} {pieces : List Piece} (hc : c ≠ '%')
      (tail : Cuts count cs pieces) : Cuts count (c :: cs) (.literal c :: pieces)
  /-- The text up to the next percent sign is the number of an argument: both signs belong to the
  reference. -/
  | reference {digits rest : List Char} {i : Nat} {pieces : List Piece} (hno : '%' ∉ digits)
      (hreads : Reads digits i) (hlt : i < count) (tail : Cuts count rest pieces) :
      Cuts count ('%' :: (digits ++ '%' :: rest)) (.argument digits i :: pieces)
  /-- No other percent sign follows, or the text up to the next one is not the number of an argument:
  only this sign is read, as itself. -/
  | stray {cs : List Char} {pieces : List Piece}
      (hnone : ∀ digits rest i, cs = digits ++ '%' :: rest → '%' ∉ digits → Reads digits i →
        count ≤ i)
      (tail : Cuts count cs pieces) : Cuts count ('%' :: cs) (.literal '%' :: pieces)

/-- What was read as part of a reference is left out. -/
theorem cutFrom_eq (skip : Nat) (cs : List Char) :
    cutFrom count skip cs = cutFrom count 0 (cs.drop skip) := by
  induction cs generalizing skip with
  | nil => simp [cutFrom]
  | cons c cs ih =>
    cases skip with
    | zero => rfl
    | succ skip =>
      show cutFrom count skip cs = _
      rw [ih, List.drop_succ_cons]

theorem cutFrom_plain {c : Char} (hc : c ≠ '%') :
    cutFrom count 0 (c :: cs) = .literal c :: cutFrom count 0 cs := by
  simp only [cutFrom, if_neg hc]

theorem cutFrom_reference (hno : '%' ∉ digits) (hreads : Reads digits i) (hlt : i < count) :
    cutFrom count 0 ('%' :: (digits ++ '%' :: rest)) =
      .argument digits i :: cutFrom count 0 rest := by
  have href : reference? count (digits ++ '%' :: rest) = some (digits, i) :=
    reference?_eq_some_iff.mpr ⟨rest, rfl, hno, hreads, hlt⟩
  simp only [cutFrom, if_true, href]
  rw [cutFrom_eq, List.drop_append, List.drop_of_length_le (by omega)]
  simp

theorem cutFrom_stray (hnone : reference? count cs = none) :
    cutFrom count 0 ('%' :: cs) = .literal '%' :: cutFrom count 0 cs := by
  simp only [cutFrom, if_true, hnone]

theorem reference?_eq_none_iff : reference? count cs = none ↔
    ∀ digits rest i, cs = digits ++ '%' :: rest → '%' ∉ digits → Reads digits i → count ≤ i := by
  rw [Option.eq_none_iff_forall_ne_some]
  constructor
  · intro h digits rest i hcs hno hreads
    by_contra hlt
    exact h (digits, i) (reference?_eq_some_iff.mpr ⟨rest, hcs, hno, hreads, by omega⟩)
  · rintro h ⟨digits, i⟩ href
    obtain ⟨rest, hcs, hno, hreads, hlt⟩ := reference?_eq_some_iff.mp href
    exact absurd (h digits rest i hcs hno hreads) (by omega)

/-- The scanner makes a leftmost cutting. -/
theorem cuts_cutFrom (cs : List Char) : Cuts count cs (cutFrom count 0 cs) := by
  -- a reference jumps ahead, so that the induction is on the length
  induction hn : cs.length using Nat.strong_induction_on generalizing cs with
  | _ n ih =>
    cases cs with
    | nil => exact .done
    | cons c cs =>
      have htail : ∀ rest : List Char, rest.length < n → Cuts count rest (cutFrom count 0 rest) :=
        fun rest hlt => ih _ hlt rest rfl
      rw [List.length_cons] at hn
      by_cases hc : c = '%'
      · subst hc
        cases href : reference? count cs with
        | none =>
          rw [cutFrom_stray href]
          exact .stray (reference?_eq_none_iff.mp href) (htail cs (by omega))
        | some found =>
          obtain ⟨rest, rfl, hno, hreads, hlt⟩ := reference?_eq_some_iff.mp href
          rw [cutFrom_reference hno hreads hlt]
          rw [List.length_append, List.length_cons] at hn
          exact .reference hno hreads hlt (htail rest (by omega))
      · rw [cutFrom_plain hc]
        exact .plain hc (htail cs (by omega))

/-- There is exactly one leftmost cutting, the scanner's. -/
theorem cuts_iff : Cuts count cs pieces ↔ pieces = cutFrom count 0 cs := by
  constructor
  · intro h
    induction h with
    | done => rfl
    | plain hc _ ih => rw [cutFrom_plain hc, ih]
    | reference hno hreads hlt _ ih => rw [cutFrom_reference hno hreads hlt, ih]
    | stray hnone _ ih => rw [cutFrom_stray (reference?_eq_none_iff.mpr hnone), ih]
  · rintro rfl
    exact cuts_cutFrom cs

/-! ### What the pieces are -/

/-- A piece as it stands in the template. -/
def Piece.written : Piece → List Char
  | .literal c => [c]
  | .argument digits _ => '%' :: (digits ++ ['%'])

/-- Writing the pieces back as they stood gives the text again. -/
theorem Cuts.flatMap_written (h : Cuts count cs pieces) : pieces.flatMap Piece.written = cs := by
  induction h with
  | done => rfl
  | plain _ _ ih => rw [List.flatMap_cons, ih]; rfl
  | reference _ _ _ _ ih =>
    rw [List.flatMap_cons, ih, Piece.written, List.cons_append, List.append_assoc]
    rfl
  | stray _ _ ih => rw [List.flatMap_cons, ih]; rfl

/-- What a piece becomes when the arguments are put in: a character stays, a reference becomes its
argument as it is. -/
inductive Piece.Becomes (arguments : List String) : Piece → List Char → Prop
  | literal (c : Char) : Becomes arguments (.literal c) [c]
  | argument {digits : List Char} {i : Nat} {text : String} (h : arguments[i]? = some text) :
      Becomes arguments (.argument digits i) text.toList

/-- Every piece of a cutting becomes what `fill` makes of it: every reference has its argument. -/
theorem Cuts.forall₂_becomes_fill {arguments : List String} (h : Cuts arguments.length cs pieces) :
    List.Forall₂ (Piece.Becomes arguments) pieces (pieces.map (Piece.fill arguments)) := by
  induction h with
  | done => exact .nil
  | plain _ _ ih => exact .cons (.literal _) ih
  | @reference _ _ i _ _ _ hlt _ ih =>
    refine .cons ?_ ih
    have hargument : arguments[i]? = some (arguments.getD i "") := by
      simp [hlt]
    exact .argument hargument
  | stray _ _ ih => exact .cons (.literal _) ih

/-- Without arguments every piece is a character of the template. -/
theorem Cuts.flatMap_fill_nil (h : Cuts 0 cs pieces) :
    pieces.flatMap (Piece.fill []) = pieces.flatMap Piece.written := by
  induction h with
  | done => rfl
  | plain _ _ ih => rw [List.flatMap_cons, List.flatMap_cons, ih]; rfl
  | reference _ _ hlt _ _ => exact absurd hlt (by omega)
  | stray _ _ ih => rw [List.flatMap_cons, List.flatMap_cons, ih]; rfl

/-! ### Messages -/

/-- **A message is cut before its arguments are read.** A template has exactly one leftmost cutting
for a number of arguments, and the pieces written back as they stood are the template. Whatever the
arguments, as long as there are that many, every message made from the template is these pieces in
order, each reference replaced by its argument as it is. Without arguments the message is the
template. -/
theorem message_pieces (template : String) (count : Nat) :
    ∃ pieces : List Piece, (∀ pieces', Cuts count template.toList pieces' ↔ pieces' = pieces) ∧
      pieces.flatMap Piece.written = template.toList ∧
      ∀ (book : Phrasebook) (name : String), book.template? name = some template →
        ∀ arguments : List String, arguments.length = count →
          (∃ texts, List.Forall₂ (Piece.Becomes arguments) pieces texts ∧
            (book.message name arguments).toList = texts.flatten) ∧
          (arguments = [] → book.message name arguments = template) := by
  have hcuts : Cuts count template.toList (cut count template) := cuts_cutFrom _
  refine ⟨cut count template, fun _ => cuts_iff, hcuts.flatMap_written, ?_⟩
  rintro book name hname arguments rfl
  have hmessage : (book.message name arguments).toList =
      (cut arguments.length template).flatMap (Piece.fill arguments) := by
    simp only [Phrasebook.message, hname, fill, String.toList_ofList]
  constructor
  · exact ⟨_, hcuts.forall₂_becomes_fill, by rw [hmessage, List.flatMap_def]⟩
  · rintro rfl
    apply String.toList_injective
    rw [hmessage, hcuts.flatMap_fill_nil, hcuts.flatMap_written]

/-- A template with a stray sign in front of a reference, a reference out of range and one that is
no number. -/
def progress : String := "100% of %0% done, %2% left, %x%"

/-- A phrasebook with this template. -/
def progressBook : Phrasebook := Phrasebook.empty.insert "progress" progress

/-- The stray sign of `100%` is passed over, and signs inside an argument are not read. -/
theorem message_progress :
    progressBook.template? "progress" = some progress ∧
    progressBook.message "progress" ["%1%"] = "100% of %1% done, %2% left, %x%" ∧
    (∃ pieces texts, Cuts 1 progress.toList pieces ∧
      List.Forall₂ (Piece.Becomes ["%1%"]) pieces texts ∧
      (progressBook.message "progress" ["%1%"]).toList = texts.flatten) ∧
    progressBook.message "progress" [] = progress := by
  have hname : progressBook.template? "progress" = some progress := rfl
  obtain ⟨pieces, hcuts, -, hone⟩ := message_pieces progress 1
  obtain ⟨⟨texts, hbecomes, hmessage⟩, -⟩ := hone progressBook "progress" hname ["%1%"] rfl
  obtain ⟨_, -, -, hnone⟩ := message_pieces progress 0
  obtain ⟨-, hsame⟩ := hnone progressBook "progress" hname [] rfl
  exact ⟨hname, by decide +kernel, ⟨pieces, texts, (hcuts pieces).mpr rfl, hbecomes, hmessage⟩,
    hsame rfl⟩

end DocShape.Template
