import DocShape.Finding

/-!
# What a check leaves behind besides the tree

A `Log` collects findings in order, the deferred records that were asked for, the deepest scope that
was entered, and whether the check came to its end. Logs are put together with `++`.
-/

namespace DocShape

/-- The record of a check. -/
@[ext]
structure Log where
  /-- What was found, in order. -/
  findings : List Finding := []
  /-- The markers whose deferred records were asked for, in order. -/
  forced : List String := []
  /-- The depth of the deepest scope that was entered. -/
  deepest : Nat := 0
  /-- Whether the check came to its end. -/
  finished : Bool := true
  deriving DecidableEq, Repr

namespace Log

/-- The log of one check and then another. -/
def append (a b : Log) : Log where
  findings := a.findings ++ b.findings
  forced := a.forced ++ b.forced
  deepest := max a.deepest b.deepest
  finished := a.finished && b.finished

instance : Append Log := ⟨append⟩

/-- The log of some checks, one after the other. -/
def join (logs : List Log) : Log := logs.foldr (· ++ ·) {}

/-- The log of one finding. -/
def report (cause : Cause) (span : Span) : Log where
  findings := [⟨cause, span⟩]

/-- The log without its findings, for checks that only describe or try out. -/
def silenced (a : Log) : Log := { a with findings := [] }

/-- The number of errors found. -/
def errors (a : Log) : Nat := a.findings.countP (·.isError)

/-! ### What is in a log that was put together -/

section Append

variable (a b c : Log)

@[simp] theorem findings_append : (a ++ b).findings = a.findings ++ b.findings := rfl

@[simp] theorem forced_append : (a ++ b).forced = a.forced ++ b.forced := rfl

@[simp] theorem deepest_append : (a ++ b).deepest = max a.deepest b.deepest := rfl

@[simp] theorem finished_append : (a ++ b).finished = (a.finished && b.finished) := rfl

@[simp] theorem errors_append : (a ++ b).errors = a.errors + b.errors := List.countP_append

/-- The empty log adds nothing in front. -/
@[simp] theorem empty_append : ({} : Log) ++ a = a := by
  ext : 1 <;> simp

/-- The empty log adds nothing behind. -/
@[simp] theorem append_empty : a ++ ({} : Log) = a := by
  ext : 1 <;> simp

/-- Three logs are put together in one way only. -/
theorem append_assoc : a ++ b ++ c = a ++ (b ++ c) := by
  ext : 1 <;> simp [Nat.max_assoc, Bool.and_assoc]

end Append

@[simp] theorem join_nil : join [] = {} := rfl

@[simp] theorem join_cons (a : Log) (logs : List Log) : join (a :: logs) = a ++ join logs := rfl

/-- The findings of some logs in a row. -/
theorem findings_join (logs : List Log) : (join logs).findings = logs.flatMap (·.findings) := by
  induction logs with
  | nil => rfl
  | cons a logs ih => simp [ih]

/-- Logs without findings give a log without findings. -/
theorem findings_join_eq_nil {logs : List Log} (h : ∀ log ∈ logs, log.findings = []) :
    (join logs).findings = [] := by
  rw [findings_join, List.flatMap_eq_nil_iff]
  exact h

@[simp] theorem findings_silenced (a : Log) : a.silenced.findings = [] := rfl

@[simp] theorem errors_silenced (a : Log) : a.silenced.errors = 0 := rfl

@[simp] theorem finished_silenced (a : Log) : a.silenced.finished = a.finished := rfl

/-- A check that comes to its end comes to the end of its first part. -/
theorem finished_left {a b : Log} (h : (a ++ b).finished = true) : a.finished = true :=
  (Bool.and_eq_true_iff.mp h).1

/-- A check that comes to its end comes to the end of its last part. -/
theorem finished_right {a b : Log} (h : (a ++ b).finished = true) : b.finished = true :=
  (Bool.and_eq_true_iff.mp h).2

/-! ### Properties of all that a log is put together from -/

/-- A property that a log has if and only if all that it is put together from has it, and that no
finding is contrary to unless it is an error. -/
structure Joint (Q : Log → Prop) : Prop where
  empty : Q {}
  append_iff (a b : Log) : Q (a ++ b) ↔ Q a ∧ Q b
  report {cause : Cause} (h : cause.severity ≠ .error) (span : Span) : Q (.report cause span)

/-- Some logs in a row have a joint property if and only if each of them has it. -/
theorem Joint.join_iff {Q : Log → Prop} (hQ : Joint Q) (logs : List Log) :
    Q (join logs) ↔ ∀ a ∈ logs, Q a := by
  induction logs with
  | nil => exact ⟨fun _ _ h => absurd h List.not_mem_nil, fun _ => hQ.empty⟩
  | cons a logs ih => rw [join_cons, hQ.append_iff, ih, List.forall_mem_cons]

/-- There is no error if and only if there is none anywhere. -/
theorem joint_errors : Joint (·.errors = 0) where
  empty := rfl
  append_iff a b := by rw [errors_append, Nat.add_eq_zero_iff]
  report h span := by simp [errors, Log.report, Finding.isError, h]

/-- A check comes to its end if and only if every part of it does. -/
theorem joint_finished : Joint (·.finished = true) where
  empty := rfl
  append_iff a b := by rw [finished_append, Bool.and_eq_true]
  report _ _ := rfl

/-- A joint property that hangs on the course of a check alone: on the deepest scope that was entered,
and on whether the check came to its end. -/
structure Course (Q : Log → Prop) : Prop extends Joint Q where
  congr {a b : Log} (hdeepest : a.deepest = b.deepest) (hfinished : a.finished = b.finished) :
    Q a ↔ Q b

namespace Course

variable {Q : Log → Prop} (hQ : Course Q)

include hQ

/-- A log of nothing that was run has every property of the course. -/
theorem of_idle {a : Log} (hdeepest : a.deepest = 0) (hfinished : a.finished = true) : Q a :=
  (hQ.congr (b := {}) hdeepest hfinished).mpr hQ.empty

/-- Findings may be dropped. -/
theorem silenced_iff (a : Log) : Q a.silenced ↔ Q a := hQ.congr rfl rfl

end Course

/-- That a check comes to its end is a matter of its course. -/
theorem course_finished : Course (·.finished = true) where
  toJoint := joint_finished
  congr _ hfinished := by rw [hfinished]

/-- So is that it enters no scope deeper than some depth. -/
theorem course_deepest (depth : Nat) : Course (·.deepest ≤ depth) where
  empty := Nat.zero_le depth
  append_iff a b := by rw [deepest_append, Nat.max_le]
  report _ _ := Nat.zero_le depth
  congr hdeepest _ := by rw [hdeepest]

end Log

end DocShape
