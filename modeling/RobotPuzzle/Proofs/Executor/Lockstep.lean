import RobotPuzzle.Executor.Run

/-! What single actions keep, whole runs keep. Two runs of one script go in step as long as
their worlds agree, whoever watches them; and parts of a script are run one after the other.
-/

namespace RobotPuzzle

variable {Left Right : Type}

/-- The relation is kept when both runs do the same action, and related runs have the same
world, so the same conditions hold in them, and have been stopped by the same refused move.
-/
structure Run.Lockstep (left : Observer Left) (right : Observer Right)
    (related : Run Left → Run Right → Prop)
    : Prop where
  world : ∀ {l r}, related l r → l.executor.world = r.executor.world
  halted : ∀ {l r}, related l r → l.halted = r.halted
  act
    : ∀ {l r} (action : Action),
        related l r → l.halted = none → related (l.act left action) (r.act right action)

namespace Run.Lockstep

variable {left : Observer Left} {right : Observer Right}
variable {related : Run Left → Run Right → Prop}

/-- Related parts of runs, that is to say what keeps runs related that have not been stopped. -/
def Keeps (related : Run Left → Run Right → Prop) (next : Run Left → Run Left)
    (next' : Run Right → Run Right)
    : Prop :=
  ∀ {l r}, related l r → l.halted = none → related (next l) (next' r)

theorem andThen (step : Run.Lockstep left right related) {l : Run Left} {r : Run Right}
    {next : Run Left → Run Left} {next' : Run Right → Run Right} (h : related l r)
    (keeps : Keeps related next next')
    : related (l.andThen next) (r.andThen next') := by
  have same := step.halted h
  cases stopped : l.halted with
  | some error =>
      rw [Run.andThen_of_stopped stopped, Run.andThen_of_stopped (same ▸ stopped)]
      exact h
  | none =>
      rw [Run.andThen_of_going stopped, Run.andThen_of_going (same ▸ stopped)]
      exact keeps h stopped

/-- Rounds keep runs related if one round does, by induction over their number. -/
theorem times (step : Run.Lockstep left right related) {body : Run Left → Run Left}
    {body' : Run Right → Run Right} (keeps : Keeps related body body') (count : Nat)
    : Keeps related (Run.times body count) (Run.times body' count) := by
  intro l r h going
  induction count generalizing l r with
  | zero => exact h
  | succ count ih => exact step.andThen (keeps h going) ih

/-- Guarded rounds keep runs related if one round does, by induction over the rounds that are
left: the guard is checked in the same world.
-/
theorem loop (step : Run.Lockstep left right related) {body : Run Left → Run Left}
    {body' : Run Right → Run Right} (keeps : Keeps related body body') (condition : String)
    (cap : Nat)
    : Keeps related (Run.loop condition body cap) (Run.loop condition body' cap) := by
  intro l r h going
  induction cap generalizing l r with
  | zero => exact h
  | succ cap ih =>
      have same : l.holds condition = r.holds condition := by
        rw [Run.holds, Run.holds, step.world h]
      cases holds : r.holds condition with
      | false => simpa [Run.loop, same, holds] using h
      | true => simpa [Run.loop, same, holds] using step.andThen (keeps h going) ih

mutual

/-- A statement keeps runs related, by recursion on the statement. -/
theorem statement (step : Run.Lockstep left right related) (cap : Nat)
    (statement : Statement)
    : Keeps related (statement.run left cap) (statement.run right cap) := by
  intro l r h going
  match statement with
  | .act action => exact step.act action h going
  | .times count body => exact step.times (step.script cap body) count.toNat h going
  | .when condition body =>
      have same : l.holds condition = r.holds condition := by
        rw [Run.holds, Run.holds, step.world h]
      cases holds : r.holds condition with
      | false => simpa [Statement.run, same, holds] using h
      | true => simpa [Statement.run, same, holds] using step.script cap body h going
  | .loop condition body => exact step.loop (step.script cap body) condition cap h going

/-- A script keeps runs related, by recursion on its statements. -/
theorem script (step : Run.Lockstep left right related) (cap : Nat) (script : Script)
    : Keeps related (runAll left cap script) (runAll right cap script) := by
  intro l r h going
  match script with
  | [] => exact h
  | head :: tail => exact step.andThen (step.statement cap head h going) (step.script cap tail)

end

end Run.Lockstep

/-- What every action keeps of a run, a whole script keeps: a run goes in step with itself. -/
theorem runAll_keeps {Memory : Type} {observer : Observer Memory} {kept : Run Memory → Prop}
    (act
      : ∀ {run} (action : Action),
          kept run → run.halted = none → kept (run.act observer action))
    (cap : Nat) (script : Script) {run : Run Memory} (h : kept run) (going : run.halted = none)
    : kept (runAll observer cap script run) := by
  -- The relation is equality, with the property of both runs beside it.
  have step : Run.Lockstep observer observer fun l r => l = r ∧ kept l := {
    world := fun ⟨same, _⟩ => same ▸ rfl
    halted := fun ⟨same, _⟩ => same ▸ rfl
    act := fun action ⟨same, h⟩ going => ⟨same ▸ rfl, act action h going⟩
  }
  exact (step.script cap script ⟨rfl, h⟩ going).2

-----------------------------------------------------------------------------------------
-- Scripts one after the other
-----------------------------------------------------------------------------------------

variable {Memory : Type} {observer : Observer Memory}

/-- A run goes in step with itself. -/
theorem Run.Lockstep.equal (observer : Observer Memory)
    : Run.Lockstep observer observer Eq where
  world h := h ▸ rfl
  halted h := h ▸ rfl
  act _ h _ := h ▸ rfl

/-- A script of one statement is run as that statement: nothing comes behind it. -/
theorem runAll_singleton (cap : Nat) (statement : Statement) (run : Run Memory)
    : runAll observer cap [statement] run = statement.run observer cap run := by
  rw [runAll, Run.andThen]
  split <;> rfl

/-- Two parts of a script are run one after the other, unless the first stops the run. By
induction over the statements of the first.
-/
theorem runAll_append (cap : Nat) (first second : Script) {run : Run Memory}
    (going : run.halted = none)
    : runAll observer cap (first ++ second) run
      = (runAll observer cap first run).andThen (runAll observer cap second) := by
  induction first generalizing run with
  | nil => rw [List.nil_append, runAll, Run.andThen_of_going going]
  | cons statement first ih =>
      rw [List.cons_append, runAll, runAll]
      cases stopped : (statement.run observer cap run).halted with
      | some error => simp only [Run.andThen_of_stopped stopped]
      | none => simpa only [Run.andThen_of_going stopped] using ih stopped

end RobotPuzzle
