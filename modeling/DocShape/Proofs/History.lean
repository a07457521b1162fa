import DocShape.Session
import DocShape.Proofs.Blind

/-!
# A session has no memory

Whatever has been done in a session, its tree still holds what it held at the start, and what comes
next goes as it would have gone first. One operation keeps the content (`Session.clear_run`) and
adds to the report what it would add on the tree with its slots emptied (`Session.report_run`); a
series of operations does the same by induction. `Session.history_independent` puts this together
for all schemas whose custom checks only choose.
-/

namespace DocShape

variable {ε : Type}

/-- Fuel is reckoned from the content. -/
@[simp] theorem Environment.budget_clear (env : Environment ε) (s : Schema ε) (sc : Scope)
    (t : Node) : env.budget s sc t.clear = env.budget s sc t := by
  unfold budget
  rw [Node.height_clear]

variable [CustomCheck ε]

namespace Setup

variable (u : Setup ε) (s : Schema ε)

/-- Validating reads the content of the tree only. -/
theorem validate_congr (root : String) {t v : Node} (h : t.clear = v.clear) :
    u.validate s root t = u.validate s root v := by
  unfold validate
  rw [h]

variable [Choosing ε]

/-- A check keeps the content of its node. -/
theorem clear_check (sc : Scope) (t : Node) : (u.check s sc t).node.clear = t.clear :=
  (Check.check_blind u.toEnvironment _).clear_node s sc t

/-- Nodes of the same content have the same log. -/
theorem log_check_congr (sc : Scope) {t v : Node} (h : t.clear = v.clear) :
    (u.check s sc t).log = (u.check s sc v).log := by
  have hbudget : u.budget s sc t = u.budget s sc v := by
    rw [← Environment.budget_clear, h, Environment.budget_clear]
  unfold check
  rw [hbudget]
  exact (Check.check_blind u.toEnvironment _).log_congr s sc h

/-- Validating keeps the content of the tree. -/
theorem clear_validate (root : String) (t : Node) : (u.validate s root t).node.clear = t.clear := by
  unfold validate
  rw [clear_check, Node.clear_clear]

end Setup

/-- What an operation on a tree adds to the session's report: a check adds what it finds about its
node, and nothing else adds anything. -/
def Operation.added (u : Setup ε) (t : Node) : Operation ε → Report
  | .check schema root target =>
    (t.find? target).elim [] fun v => u.report (u.check schema { path := root } v).log
  | _ => []

namespace Session

/-- Changing a node to one of the same content keeps the content of the tree. -/
theorem clear_modify (s : Session) (target : Path) {f : Node → Node} (answer : Node → Answer)
    (hf : ∀ t, (f t).clear = t.clear) : (s.modify target f answer).1.tree.clear = s.tree.clear := by
  unfold modify
  cases s.tree.find? target with
  | none => rfl
  | some t => exact Node.clear_modifyAt fun t _ => hf t

/-- Changing a node adds nothing to the report. -/
theorem report_modify (s : Session) (target : Path) (f : Node → Node) (answer : Node → Answer) :
    (s.modify target f answer).1.report = s.report := by
  unfold modify
  cases s.tree.find? target <;> rfl

variable [Choosing ε] (u : Setup ε)

/-- What a check answers can be told from the content of the tree. -/
theorem answer_check (s : Session) (schema : Schema ε) (root : String) (target : Path) :
    (s.run u (.check schema root target)).2 =
      (s.tree.clear.find? target).elim .nowhere fun t =>
        let added := u.report (u.check schema { path := root } t).log
        .checked added (s.report ++ added) := by
  rw [Node.find?_clear, run]
  cases s.tree.find? target with
  | none => rfl
  | some t =>
    have hlog := u.log_check_congr schema { path := root } (Node.clear_clear t)
    simp only [Option.map_some, Option.elim_some, hlog]

/-! ### One operation and a series of them -/

/-- An operation keeps the content of the tree. -/
theorem clear_run (s : Session) (op : Operation ε) :
    (s.run u op).1.tree.clear = s.tree.clear := by
  cases op with
  | validate schema root => exact u.clear_validate schema root s.tree
  | check schema root target =>
    rw [run]
    cases h : s.tree.find? target with
    | none => rfl
    | some t =>
      refine Node.clear_modifyAt fun v hv => ?_
      rw [h] at hv
      cases hv
      exact u.clear_check schema _ t
  | describe schema root => rfl
  | clear target => exact s.clear_modify target _ Node.clear_clear
  | read target => exact s.clear_modify target _ fun _ => rfl
  | expect target expected => exact s.clear_modify target _ fun t => t.clear_expecting expected
  | «show» target index hover => exact s.clear_modify target _ fun t => t.clear_setHover index hover
  | query offsets => rfl

/-- An operation adds to the report what it would add on the tree with its slots emptied. -/
theorem report_run (s : Session) (op : Operation ε) :
    (s.run u op).1.report = s.report ++ op.added u s.tree.clear := by
  cases op with
  | check schema root target =>
    rw [run, Operation.added, Node.find?_clear]
    cases s.tree.find? target with
    | none => exact (List.append_nil _).symm
    | some t =>
      have hlog := u.log_check_congr schema { path := root } (Node.clear_clear t)
      simp only [Option.map_some, Option.elim_some, hlog]
  | validate _ _ | describe _ _ | query _ => exact (List.append_nil _).symm
  | clear _ | read _ | expect _ _ | «show» _ _ _ =>
    exact (s.report_modify _ _ _).trans (List.append_nil _).symm

/-- A series of operations keeps the content of the tree. -/
theorem clear_runAll (s : Session) (ops : List (Operation ε)) :
    (s.runAll u ops).1.tree.clear = s.tree.clear := by
  induction ops generalizing s with
  | nil => rfl
  | cons op ops ih =>
    rw [runAll]
    exact (ih (s.run u op).1).trans (s.clear_run u op)

/-- A series of operations adds to the report what each would add on the tree as it was at the
start, with its slots emptied. -/
theorem report_runAll (s : Session) (ops : List (Operation ε)) :
    (s.runAll u ops).1.report = s.report ++ ops.flatMap (·.added u s.tree.clear) := by
  induction ops generalizing s with
  | nil => exact (List.append_nil _).symm
  | cons op ops ih =>
    rw [runAll]
    dsimp only
    rw [ih, report_run, clear_run, List.flatMap_cons, List.append_assoc]

/-! ### Any history -/

/-- **History makes no difference**: after any operations the tree holds what it held, the report
has grown by what each check finds on the tree without annotations, and the next check does the
same. The next validation reports and leaves behind what a validation of the tree without
annotations does, and so does one more after it. -/
theorem history_independent (u : Setup Chooser) (start : Session)
    (ops : List (Operation Chooser)) :
    let last := (start.runAll u ops).1
    let plain := start.tree.clear
    last.tree.clear = plain ∧
    last.report = start.report ++ ops.flatMap (·.added u plain) ∧
    (∀ schema root target, (last.run u (.check schema root target)).2 =
      (plain.find? target).elim .nowhere fun t =>
        let added := u.report (u.check schema { path := root } t).log
        .checked added (last.report ++ added)) ∧
    (∀ schema root,
      let once := last.run u (.validate schema root)
      let twice := once.1.run u (.validate schema root)
      once.2 = .validated (u.report (u.validate schema root plain).log) ∧
      once.1.tree = (u.validate schema root plain).node ∧
      twice.2 = once.2 ∧ twice.1.tree = once.1.tree) := by
  intro last plain
  have hcontent : last.tree.clear = plain := clear_runAll u start ops
  refine ⟨hcontent, report_runAll u start ops, fun schema root target => ?_, fun schema root => ?_⟩
  · rw [← hcontent]
    exact answer_check u last schema root target
  · have hplain : plain.clear = plain := Node.clear_clear start.tree
    have honce : u.validate schema root last.tree = u.validate schema root plain :=
      u.validate_congr schema root (hcontent.trans hplain.symm)
    have htwice : u.validate schema root (u.validate schema root last.tree).node =
        u.validate schema root last.tree :=
      u.validate_congr schema root (u.clear_validate schema root last.tree)
    exact ⟨congrArg (fun o : Outcome => Answer.validated (u.report o.log)) honce,
      congrArg Outcome.node honce,
      congrArg (fun o : Outcome => Answer.validated (u.report o.log)) htwice,
      congrArg Outcome.node htwice⟩

end Session

end DocShape
