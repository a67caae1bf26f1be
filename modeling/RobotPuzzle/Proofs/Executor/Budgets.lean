import RobotPuzzle.Proofs.Executor.Conduct
import RobotPuzzle.Proofs.Executor.Stages
import RobotPuzzle.Proofs.Script.Conditions

/-! How many actions a run comes to. A budget is read off the script and the cap: no run tells its
observer of more actions, and one that asks for nothing and is not stopped tells it of as many.
-/

namespace RobotPuzzle

variable {Memory : Type}

-----------------------------------------------------------------------------------------
-- Counting the actions of a script
-----------------------------------------------------------------------------------------

mutual

/-- How many actions a statement comes to at most, where a guarded loop goes round no more than
`cap` times.
-/
def Statement.budget (cap : Nat) : Statement → Nat
  | .act _ => 1
  | .times count body => count.toNat * Script.budget cap body
  | .when _ body => Script.budget cap body
  | .loop _ body => cap * Script.budget cap body

def Script.budget (cap : Nat) : Script → Nat
  | [] => 0
  | statement :: script => statement.budget cap + Script.budget cap script

end

mutual

/-- How many actions a statement comes to at least, whatever its conditions say. -/
def Statement.unguarded : Statement → Nat
  | .act _ => 1
  | .times count body => count.toNat * Script.unguarded body
  | .when _ _ => 0
  | .loop _ _ => 0

def Script.unguarded : Script → Nat
  | [] => 0
  | statement :: script => statement.unguarded + Script.unguarded script

end

mutual

/-- Where nothing is asked, all that can be done is done, by recursion on the statement. -/
theorem Statement.unguarded_eq_budget (cap : Nat) (statement : Statement)
    (plain : statement.conditions = [])
    : statement.unguarded = statement.budget cap := by
  match statement with
  | .act action => rfl
  | .times count body =>
      rw [Statement.unguarded, Statement.budget, Script.unguarded_eq_budget cap body plain]

theorem Script.unguarded_eq_budget (cap : Nat) (script : Script)
    (plain : script.conditions = [])
    : script.unguarded = script.budget cap := by
  match script with
  | [] => rfl
  | statement :: script =>
      obtain ⟨head, tail⟩ := List.append_eq_nil_iff.mp plain
      rw [Script.unguarded, Script.budget, Statement.unguarded_eq_budget cap statement head,
        Script.unguarded_eq_budget cap script tail]

end

-----------------------------------------------------------------------------------------
-- Counting the snapshots of a run
-----------------------------------------------------------------------------------------

/-- This part of a run shows its observer no more than `most` snapshots, and no fewer than `least`
unless it is stopped.
-/
structure Run.Shows (least most : Nat) (next : Run (Diary Memory) → Run (Diary Memory))
    : Prop where
  least
    : ∀ run,
        run.halted = none
        → (next run).halted = none
        → run.memory.seen.length + least ≤ (next run).memory.seen.length
  most
    : ∀ run,
        run.halted = none
        → (next run).memory.seen.length ≤ run.memory.seen.length + most

namespace Run.Shows

variable {least most least' most' : Nat}
variable {next next' : Run (Diary Memory) → Run (Diary Memory)}

theorem nothing : Run.Shows 0 0 fun run : Run (Diary Memory) => run where
  least _ _ _ := Nat.le_refl _
  most _ _ := Nat.le_refl _

/-- An action that is completed is shown, and one that is refused stops the run unseen. -/
theorem act (conduct : Executor → Memory → Conduct Memory) (action : Action)
    : Run.Shows 1 1 (Run.act (.keeping conduct) action) := by
  constructor
  · intro run _ going
    cases acted : run.executor.world.act action with
    | error error => simp [Run.act_of_error acted] at going
    | ok world => simp [Run.act, acted, Observer.keeping]
  · intro run _
    cases acted : run.executor.world.act action with
    | error error => simp [Run.act_of_error acted]
    | ok world => simp [Run.act, acted, Observer.keeping]

/-- Two parts one after the other show what both show, unless the first stops the run. -/
theorem andThen (h : Run.Shows least most next) (later : Run.Shows least' most' next')
    : Run.Shows (least + least') (most + most') fun run => (next run).andThen next' := by
  constructor
  · intro run going ended
    cases halted : (next run).halted with
    | some error =>
        rw [Run.andThen_of_stopped halted, halted] at ended
        cases ended
    | none =>
        rw [Run.andThen_of_going halted] at ended ⊢
        have first := h.least run going halted
        have second := later.least (next run) halted ended
        omega
  · intro run going
    have first := h.most run going
    cases halted : (next run).halted with
    | some error =>
        rw [Run.andThen_of_stopped halted]
        omega
    | none =>
        rw [Run.andThen_of_going halted]
        have second := later.most (next run) halted
        omega

/-- Under a guard a part may be left out. -/
theorem guard (h : Run.Shows least most next) (condition : String)
    : Run.Shows 0 most fun run => if run.holds condition then next run else run := by
  constructor
  · intro run going ended
    split at ended
    next holds =>
      have shown := h.least run going ended
      rw [if_pos holds]
      omega
    next fails => rw [if_neg fails]; exact Nat.le_refl _
  · intro run going
    have shown := h.most run going
    split
    · exact shown
    · omega

/-- Counted rounds, by induction over their number. -/
theorem times (h : Run.Shows least most next) (count : Nat)
    : Run.Shows (count * least) (count * most) (Run.times next count) := by
  induction count with
  | zero =>
      rw [Nat.zero_mul, Nat.zero_mul]
      exact nothing
  | succ count ih =>
      rw [Nat.succ_mul, Nat.succ_mul, Nat.add_comm _ least, Nat.add_comm _ most]
      exact h.andThen ih

/-- Guarded rounds, by induction over the rounds up to the cap. -/
theorem loop (h : Run.Shows least most next) (condition : String) (cap : Nat)
    : Run.Shows 0 (cap * most) (Run.loop condition next cap) := by
  induction cap with
  | zero =>
      rw [Nat.zero_mul]
      exact nothing
  | succ cap ih =>
      rw [Nat.succ_mul, Nat.add_comm _ most]
      exact (h.andThen ih).guard condition

end Run.Shows

mutual

/-- A statement shows no more than its budget, and no less than what is under no guard in it. By
recursion on the statement.
-/
theorem Statement.shows (conduct : Executor → Memory → Conduct Memory) (cap : Nat)
    (statement : Statement)
    : Run.Shows statement.unguarded (statement.budget cap)
        (statement.run (.keeping conduct) cap) := by
  match statement with
  | .act action => exact Run.Shows.act conduct action
  | .times count body => exact (Script.shows conduct cap body).times count.toNat
  | .when condition body => exact (Script.shows conduct cap body).guard condition
  | .loop condition body => exact (Script.shows conduct cap body).loop condition cap

theorem Script.shows (conduct : Executor → Memory → Conduct Memory) (cap : Nat)
    (script : Script)
    : Run.Shows script.unguarded (script.budget cap) (runAll (.keeping conduct) cap script) := by
  match script with
  | [] => exact Run.Shows.nothing
  | statement :: script =>
      exact (Statement.shows conduct cap statement).andThen (Script.shows conduct cap script)

end

-----------------------------------------------------------------------------------------
-- Counting what a call shows
-----------------------------------------------------------------------------------------

/-- A script that is run comes to its end after some number of steps, and to an outcome. Meanwhile
its observer is told of no more actions than the script has budget for, in whatever world it is
run; and of as many, if the script asks for no condition and does not fail.
-/
theorem perform_within_budget (executor : Executor) (ready : executor.state ≠ .running)
    (script : Script) (conduct : Executor → Memory → Conduct Memory) (memory : Memory)
    : let cap := executor.settings.loopCap.toNat
      let watcher : Observer (Diary Memory) := .keeping conduct
      let start : Run (Diary Memory) :=
        { executor := executor.enter .running, memory := { memory } }
      let reply := executor.perform watcher script { memory }
      ∃ last outcome,
        Stage.Reaches watcher cap ⟨[.statements script], start⟩ ⟨[], last⟩
        ∧ reply = Executor.finish last
        ∧ reply.answer = .ok outcome
        ∧ reply.memory.seen.length ≤ script.budget cap
        ∧ (script.conditions = []
          → (∀ failure, outcome ≠ .failed failure)
          → reply.memory.seen.length = script.budget cap) := by
  intro cap watcher start reply
  let last := runAll watcher cap script start
  have ended : reply = Executor.finish last := if_neg ready
  have shows : Run.Shows script.unguarded (script.budget cap) (runAll watcher cap script) :=
    Script.shows conduct cap script
  have fresh : start.memory.seen.length = 0 := rfl
  have most : last.memory.seen.length ≤ _ := shows.most start rfl
  refine ⟨last, last.outcome, Stage.reaches_runAll watcher cap script rfl, ended, ?_⟩
  simp only [ended, Executor.finish, true_and]
  refine ⟨by omega, ?_⟩
  intro plain succeeded
  have least : _ ≤ last.memory.seen.length :=
    shows.least start rfl (last.halted_eq_none_iff.mpr succeeded)
  rw [Script.unguarded_eq_budget cap script plain] at least
  omega

/-- Rounds within rounds, in which the robot turns and reaches for what is there: the observer is
told of twice four actions, which is all that the script has budget for.
-/
theorem perform_within_budget_of_nested_rounds
    : let executor : Executor := { world := .start {} }
      let script : Script := [.times 2 [.act .turnLeft, .times 3 [.act .pickUp]]]
      let cap := executor.settings.loopCap.toNat
      let watcher : Observer (Diary Nat) := .keeping (.silent fun _ count => count + 1)
      let start : Run (Diary Nat) :=
        { executor := executor.enter .running, memory := { memory := 0 } }
      let reply := executor.perform watcher script { memory := 0 }
      executor.state ≠ .running
      ∧ script.conditions = []
      ∧ script.budget cap = 8
      ∧ reply.memory.memory = 8
      ∧ ∃ last outcome,
          Stage.Reaches watcher cap ⟨[.statements script], start⟩ ⟨[], last⟩
          ∧ reply = Executor.finish last
          ∧ reply.answer = .ok outcome
          ∧ reply.memory.seen.length ≤ script.budget cap
          ∧ (script.conditions = []
            → (∀ failure, outcome ≠ .failed failure)
            → reply.memory.seen.length = script.budget cap) :=
  ⟨by decide, by decide, by decide, by decide +kernel,
    perform_within_budget _ (by decide) _ _ _⟩

end RobotPuzzle
