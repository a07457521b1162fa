import Mathlib.Data.List.GetD
import DocShape.Proofs.OwnTexts

/-!
# Diagnostics on one line

A message puts quotes around the keys and values that it shows, and shows what is between them as it
is. So a text of the document takes its line breaks with it: in the built-in words a diagnostic is one
line if and only if the text that it quotes is (`oneLine_iff_written`), whatever the source that its
place is counted in. Kinds, and the keys, pools, patterns and names of the schema, are shown by the same
templates and have to be on one line as well (`Finding.oneLine_line_iff`).
-/

namespace DocShape

/-- A text without a line break. -/
def OneLine (text : String) : Prop := '\n' ∉ text.toList

instance (text : String) : Decidable (OneLine text) := inferInstanceAs (Decidable (_ ∉ _))

namespace OneLine

variable {a b text : String}

@[simp] theorem append_iff : OneLine (a ++ b) ↔ OneLine a ∧ OneLine b := by
  simp [OneLine]

@[simp] theorem quoted_iff : OneLine (quoted text) ↔ OneLine text := by
  have hquote : OneLine "\"" := by decide
  simp [quoted, hquote]

/-- Numbers are written on one line. -/
@[simp] theorem repr_nat (n : Nat) : OneLine n.repr := by
  intro h
  rw [Nat.repr, String.toList_ofList] at h
  have hdigit := Nat.isDigit_of_mem_toDigits (by decide) (by decide) h
  exact absurd hdigit (by decide)

end OneLine

/-! ### Messages -/

namespace Template

/-- The number of the argument that a piece refers to. -/
def Piece.index? : Piece → Option Nat
  | .literal _ => none
  | .argument _ i => some i

/-- A template shows all of its arguments, and breaks no line by itself. -/
def Shows (template : String) (count : Nat) : Prop :=
  .literal '\n' ∉ cut count template ∧ ∀ i < count, i ∈ (cut count template).filterMap (·.index?)

instance (template : String) (count : Nat) : Decidable (Shows template count) :=
  inferInstanceAs (Decidable (_ ∧ _))

/-- A template with its arguments put in is one line if and only if they are. -/
theorem oneLine_fill_iff {template : String} {arguments : List String}
    (h : Shows template arguments.length) :
    OneLine (fill template arguments) ↔ ∀ argument ∈ arguments, OneLine argument := by
  rw [OneLine, fill, String.toList_ofList, List.mem_flatMap]
  constructor
  · intro hone argument hargument hbreak
    obtain ⟨i, hi, rfl⟩ := List.getElem_of_mem hargument
    obtain ⟨piece, hpiece, hindex⟩ := List.mem_filterMap.mp (h.2 i hi)
    cases piece with
    | literal c => cases hindex
    | argument digits j =>
      cases hindex
      refine hone ⟨_, hpiece, ?_⟩
      rw [Piece.fill, List.getD_eq_getElem _ _ hi]
      exact hbreak
  · rintro hall ⟨piece, hpiece, hbreak⟩
    cases piece with
    | literal c =>
      rw [Piece.fill, List.mem_singleton] at hbreak
      exact h.1 (hbreak ▸ hpiece)
    | argument digits i =>
      rw [Piece.fill] at hbreak
      by_cases hi : i < arguments.length
      · rw [List.getD_eq_getElem _ _ hi] at hbreak
        exact hall _ (List.getElem_mem hi) hbreak
      · rw [List.getD_eq_default _ _ (Nat.le_of_not_lt hi)] at hbreak
        cases hbreak

end Template

namespace Phrasebook

/-- A message is one line if and only if its arguments are, where its template shows them. -/
theorem oneLine_message_iff {book : Phrasebook} {name template : String} {arguments : List String}
    {count : Nat} (htemplate : book.template? name = some template)
    (h : Template.Shows template count) (hcount : arguments.length = count) :
    OneLine (book.message name arguments) ↔ ∀ argument ∈ arguments, OneLine argument := by
  rw [message, htemplate]
  exact Template.oneLine_fill_iff (hcount ▸ h)

/-- Items in a row, with words on one line between them, are one line if and only if each item is. -/
theorem oneLine_intercalate_iff {separator : String} (hseparator : OneLine separator)
    (items : List String) :
    OneLine (separator.intercalate items) ↔ ∀ item ∈ items, OneLine item := by
  induction items with
  | nil => exact ⟨fun _ => nofun, fun _ => nofun⟩
  | cons item items ih =>
    cases items with
    | nil => simp
    | cons next rest =>
      rw [String.intercalate_cons_cons, OneLine.append_iff, OneLine.append_iff, ih,
        List.forall_mem_cons]
      simp [hseparator]

/-- Alternatives in the built-in words are one line if and only if each of them is. -/
theorem oneLine_alternatives_iff (items : List String) :
    OneLine (builtin.alternatives items) ↔ ∀ item ∈ items, OneLine item := by
  have hseparator : OneLine ((builtin.template? "conjunction.separator").getD ", ") := by decide
  have hlast : OneLine ((builtin.template? "conjunction.or").getD " or ") := by decide
  rcases items with _ | ⟨first, _ | ⟨second, rest⟩⟩
  · exact ⟨fun _ => nofun, fun _ => nofun⟩
  · simp [alternatives]
  -- The last of several stands behind the word for `or`, and all others in a row before it.
  · obtain ⟨front, back, hsplit⟩ : ∃ front back, first :: second :: rest = front ++ [back] :=
      ⟨_, _, (List.dropLast_concat_getLast (List.cons_ne_nil _ _)).symm⟩
    have hrow : builtin.alternatives (first :: second :: rest) =
        ((builtin.template? "conjunction.separator").getD ", ").intercalate
            (first :: second :: rest).dropLast ++
          (builtin.template? "conjunction.or").getD " or " ++
          (first :: second :: rest).getLast?.getD "" := rfl
    rw [hrow, hsplit, List.dropLast_concat, List.getLast?_concat, Option.getD_some,
      OneLine.append_iff, OneLine.append_iff, oneLine_intercalate_iff hseparator]
    simp [hlast, or_imp, forall_and]

end Phrasebook

/-- A cause in the built-in words is one line if and only if what is said in it and what is quoted
are. -/
theorem Cause.oneLine_message_iff (cause : Cause) :
    OneLine (cause.message .builtin) ↔
      (∀ text ∈ cause.said, OneLine text) ∧ ∀ text ∈ cause.written, OneLine text := by
  -- Whether a template shows its arguments is decided by cutting it.
  cases cause with
  | typeMismatch expected got =>
    rw [message, Phrasebook.oneLine_message_iff rfl (show Template.Shows _ 2 by decide) (by rfl)]
    simp [said, written]
  | missingProperty _ | unknownProperty _ | deprecatedProperty _ | unresolvedReference _ =>
    rw [message, Phrasebook.oneLine_message_iff rfl (show Template.Shows _ 1 by decide) (by rfl)]
    simp [said, written]
  | missingDiscriminant candidates =>
    rw [message, Phrasebook.oneLine_message_iff rfl (show Template.Shows _ 1 by decide) (by rfl)]
    simp [said, written, Phrasebook.oneLine_alternatives_iff]
  | unexpectedValue value allowed =>
    rw [message, Phrasebook.oneLine_message_iff rfl (show Template.Shows _ 2 by decide) (by rfl)]
    simp [said, written, Phrasebook.oneLine_alternatives_iff]
  | patternMismatch value pattern =>
    rw [message, Phrasebook.oneLine_message_iff rfl (show Template.Shows _ 2 by decide) (by rfl)]
    simp [said, written, and_comm]

/-! ### Lines -/

/-- The place of a diagnostic is one line, whatever the source. -/
theorem Diagnostic.oneLine_place (d : Diagnostic) (source : Option String) :
    OneLine (d.place source) := by
  have hcolon : OneLine ":" := by decide
  have hdots : OneLine ".." := by decide
  unfold place
  cases source.bind (Source.locate? · d.span.start) with
  | none => simp [hdots]
  | some p => simp [hcolon]

/-- A finding in the built-in words is one line if and only if what is said in it and what is quoted
are. -/
theorem Finding.oneLine_line_iff (f : Finding) (source : Option String) :
    OneLine ((f.render .builtin).line source) ↔
      (∀ text ∈ f.cause.said, OneLine text) ∧ ∀ text ∈ f.cause.written, OneLine text := by
  have hseverity : OneLine f.cause.severity.name := by
    cases f.cause.severity <;> decide
  have hcode : OneLine f.cause.code := by
    cases f.cause <;> (simp only [Cause.code]; decide)
  have hopen : OneLine "[" := by decide
  have hclose : OneLine "]" := by decide
  have hspace : OneLine " " := by decide
  have hcolon : OneLine ": " := by decide
  rw [Diagnostic.line, OneLine.append_iff, render, Cause.oneLine_message_iff]
  simp [hseverity, hcode, hopen, hclose, hspace, hcolon, Diagnostic.oneLine_place]

/-! ### Validations -/

/-- The diagnostics of a report as text. -/
def Report.lines (r : Report) (source : Option String) : List String := r.map (·.line source)

/-- Texts of one line each are read back from their lines. -/
theorem lines_of_oneLine {texts : List String} (hone : ∀ text ∈ texts, OneLine text)
    (hne : texts ≠ []) :
    (("\n".intercalate texts).split '\n').toList.map (·.copy) = texts := by
  have hbreak : "\n" = String.singleton '\n' := by decide
  rw [hbreak, String.toList_split_intercalate hone, if_neg hne]

/-- **When diagnostics are one line.** Let the words be the built-in ones, and let each text of the
schema be one line. Then a diagnostic, with any source or none, is one line if and only if the text of
the document that it quotes is one, and that text is a key or a string of the tree. So where no key and
no string of the tree has a line break, the diagnostics can be written line by line and read back. -/
theorem oneLine_iff_written (u : Setup Picker) (hmessages : u.messages = .builtin) {s : Schema Picker}
    {root : String} {t : Node} {o : Outcome} (hs : s.SaysOnly u.schemas OneLine)
    (h : u.Validates s root t o) (source : Option String) :
    (∀ f ∈ o.log.findings,
      (OneLine ((f.render u.messages).line source) ↔ ∀ text ∈ f.cause.written, OneLine text) ∧
        ∀ text ∈ f.cause.written, t.Writes text) ∧
    ((∀ text, t.Writes text → OneLine text) →
      (∀ d ∈ u.report o.log, OneLine (d.line source)) ∧
        let lines := (u.report o.log).lines source
        (lines ≠ [] → (("\n".intercalate lines).split '\n').toList.map (·.copy) = lines)) := by
  obtain ⟨fuel, rfl, hfinished⟩ := h
  let start : Visit Picker := ⟨s, { path := root }, t.clear⟩
  have hfound := mem_findings_iff u.toEnvironment fuel start hfinished
  have hkinds : ∀ kind : Kind, OneLine kind.name := by
    intro kind
    cases kind <;> decide
  have hfinding : ∀ f ∈ (start.outcome (check u.toEnvironment fuel)).log.findings,
      (OneLine ((f.render u.messages).line source) ↔ ∀ text ∈ f.cause.written, OneLine text) ∧
        ∀ text ∈ f.cause.written, t.Writes text := by
    intro f hf
    obtain ⟨v, hpath, hreports⟩ := (hfound f).mp hf
    have hown := (Visit.saysOnly_of_leads (v := start) hpath hs).own
    have hsaid : ∀ text ∈ f.cause.said, OneLine text := by
      intro text htext
      rcases hreports.said text htext with htext | ⟨kind, rfl⟩
      · exact hown text htext
      · exact hkinds kind
    have hstart : t.Offers start.node := .held (Node.Holds.refl t) (Node.clear_clear t)
    constructor
    · rw [hmessages, f.oneLine_line_iff]
      exact and_iff_right hsaid
    · exact hreports.written (Visit.offers_of_leads hpath hstart)
  refine ⟨hfinding, fun hwritten => ?_⟩
  have hreport : ∀ d ∈ u.report (start.outcome (check u.toEnvironment fuel)).log,
      OneLine (d.line source) := by
    intro d hd
    obtain ⟨f, hf, rfl⟩ := List.mem_map.mp hd
    obtain ⟨hone, hwrites⟩ := hfinding f hf
    exact hone.mpr fun text htext => hwritten text (hwrites text htext)
  exact ⟨hreport, lines_of_oneLine (List.forall_mem_map.mpr hreport)⟩

/-- The text of a string is all that is written in it. -/
theorem Node.writes_string {text text' : String} {span : Span} :
    (Node.string text span).Writes text' ↔ text' = text := by
  constructor
  · rintro (⟨m, -, hm, -⟩ | ⟨u, hu, htext⟩)
    · exact absurd hm (not_holdsMember rfl rfl m)
    · rcases holds_iff.mp hu with rfl | ⟨step, v, hv, -⟩
      · exact (Option.some.inj htext).symm
      · cases step <;> cases hv
  · rintro rfl
    exact Or.inr ⟨_, .refl _, rfl⟩

/-- Two words. -/
def twoSizes : Schema Picker := .oneOf ["small", "large"]

theorem saysOnly_twoSizes : twoSizes.SaysOnly ⟨[]⟩ OneLine := by
  intro q huses
  cases huses with
  | self _ => decide
  | part hp _ => cases hp

/-- Another word is quoted on one line, and two lines of text are quoted on two. -/
theorem oneLine_twoSizes :
    let u : Setup Picker := {}
    let source := "[\n\"huge\"]"
    let huge := Node.string "huge" ⟨2, 8⟩
    let tall := Node.string "very\nlarge" ⟨0, 13⟩
    let o := check u.toEnvironment 1 twoSizes { path := "" } huge
    let o' := check u.toEnvironment 1 twoSizes { path := "" } tall
    u.messages = .builtin ∧ twoSizes.SaysOnly u.schemas OneLine ∧
      u.Validates twoSizes "" huge o ∧ u.Validates twoSizes "" tall o' ∧
      (u.report o.log ≠ [] ∧ ∀ d ∈ u.report o.log, OneLine (d.line source)) ∧
      u.report o'.log ≠ [] ∧ ∀ d ∈ u.report o'.log, ¬ OneLine (d.line none) := by
  intro u source huge tall o o'
  have hends : u.Validates twoSizes "" huge o := ⟨1, rfl, by decide⟩
  have hends' : u.Validates twoSizes "" tall o' := ⟨1, rfl, by decide⟩
  have hfound : o'.log.findings =
      [⟨.unexpectedValue "very\nlarge" ["small", "large"], ⟨0, 13⟩⟩] := by decide
  obtain ⟨-, hlines⟩ := oneLine_iff_written u rfl saysOnly_twoSizes hends source
  obtain ⟨hfindings, -⟩ := oneLine_iff_written u rfl saysOnly_twoSizes hends' none
  have hhuge : ∀ d ∈ u.report o.log, OneLine (d.line source) := by
    refine (hlines fun text htext => ?_).1
    rw [Node.writes_string.mp htext]
    decide
  have htall : ∀ d ∈ u.report o'.log, ¬ OneLine (d.line none) := by
    intro d hd hone
    obtain ⟨f, hf, rfl⟩ := List.mem_map.mp hd
    have hwritten := (hfindings f hf).1.mp hone
    rw [hfound, List.mem_singleton] at hf
    rw [hf] at hwritten
    exact absurd (hwritten _ List.mem_cons_self) (by decide)
  exact ⟨rfl, saysOnly_twoSizes, hends, hends', ⟨nofun, hhuge⟩, nofun, htall⟩

/-- An object without declared keys. -/
def noKeys : Schema Picker := .object (.fixed [] ⟨[], ⟨.anything, none⟩⟩)

/-- A key with a line break in it is unknown, and the warning about it takes two lines. -/
theorem broken_line_noKeys :
    let u : Setup Picker := {}
    let t : Node := ⟨⟨0, 13⟩, none, .object [⟨some ⟨"a\nb", ⟨1, 7⟩, none⟩, some (.null ⟨8, 12⟩)⟩]⟩
    let o := check u.toEnvironment 2 noKeys { path := "" } t
    noKeys.SaysOnly u.schemas OneLine ∧ u.Validates noKeys "" t o ∧
      ∃ d ∈ u.report o.log, ∀ source, '\n' ∈ (d.line source).toList := by
  intro u t o
  have hs : noKeys.SaysOnly u.schemas OneLine := by
    intro q huses
    cases huses with
    | self _ => exact nofun
    | part hp huses =>
      rw [List.mem_singleton.mp hp] at huses
      exact Schema.SaysOnly.anything q huses
  refine ⟨hs, ⟨2, rfl, by decide⟩, _, List.mem_cons_self, ?_⟩
  intro source
  by_contra hone
  have hwritten := ((Finding.oneLine_line_iff _ source).mp hone).2
  exact absurd (hwritten _ List.mem_cons_self) (by decide)

end DocShape
