import Mathlib.Logic.Relation
import RobotPuzzle.Executor.Run

/-! Runs one step at a time. A stage is a run with the parts of its script that are still to be
run. A step looks at the next part only, a loop counts the rounds that it has done, and no number
says when to give up: that the steps come to an end is proved.
-/

namespace RobotPuzzle

variable {Memory : Type}

-----------------------------------------------------------------------------------------
-- Single steps
-----------------------------------------------------------------------------------------

/-- What is still to be run. -/
inductive Part where
  | statements (script : Script)
  /-- A body, so many times more. -/
  | rounds (count : Nat) (body : Script)
  /-- A body under its guard, after so many rounds. -/
  | loop (condition : String) (body : Script) (done : Nat)

/-- How far a run has come, and what is still to be run, the next part first. -/
structure Stage (Memory : Type) where
  parts : List Part
  run : Run Memory

namespace Stage

/-- A run that goes on does the first thing in its next part. A guard is checked before each
round, and the cap once the guard holds.
-/
def proceed (observer : Observer Memory) (cap : Nat) (run : Run Memory) (rest : List Part)
    : Part → Stage Memory
  | .statements [] => ⟨rest, run⟩
  | .statements (.act action :: script) =>
      ⟨.statements script :: rest, run.act observer action⟩
  | .statements (.times count body :: script) =>
      ⟨.rounds count.toNat body :: .statements script :: rest, run⟩
  | .statements (.when condition body :: script) =>
      if run.holds condition then ⟨.statements body :: .statements script :: rest, run⟩
      else ⟨.statements script :: rest, run⟩
  | .statements (.loop condition body :: script) =>
      ⟨.loop condition body 0 :: .statements script :: rest, run⟩
  | .rounds 0 _ => ⟨rest, run⟩
  | .rounds (count + 1) body => ⟨.statements body :: .rounds count body :: rest, run⟩
  | .loop condition body done =>
      if run.holds condition then
        if done = cap then ⟨rest, run⟩
        else ⟨.statements body :: .loop condition body (done + 1) :: rest, run⟩
      else ⟨rest, run⟩

/-- The stage after one step; a run that was stopped gives up its parts one by one. Where nothing
is left to be run, nothing happens any more.
-/
def step (observer : Observer Memory) (cap : Nat) (stage : Stage Memory) : Stage Memory :=
  match stage.parts with
  | [] => stage
  | part :: rest =>
      if stage.run.halted.isSome then ⟨rest, stage.run⟩
      else proceed observer cap stage.run rest part

/-- Some number of steps leads from the one stage to the other. A run is over where no part is
left: the steps up to there are all that it takes.
-/
def Reaches (observer : Observer Memory) (cap : Nat) : Stage Memory → Stage Memory → Prop :=
  Relation.ReflTransGen fun before after => before.step observer cap = after

variable {observer : Observer Memory} {cap : Nat}

theorem step_of_halted {run : Run Memory} (halted : run.halted.isSome = true) (part : Part)
    (rest : List Part)
    : step observer cap ⟨part :: rest, run⟩ = ⟨rest, run⟩ := by
  simp [step, halted]

theorem step_of_going {run : Run Memory} (going : run.halted = none) (part : Part)
    (rest : List Part)
    : step observer cap ⟨part :: rest, run⟩ = proceed observer cap run rest part := by
  simp [step, going]

-----------------------------------------------------------------------------------------
-- Steps come to an end
-----------------------------------------------------------------------------------------

/-- A run that goes on leaves the part behind after some steps, as `next` says, whatever comes
after the part.
-/
def Performs (observer : Observer Memory) (cap : Nat) (part : Part)
    (next : Run Memory → Run Memory)
    : Prop :=
  ∀ run rest,
    run.halted = none → Reaches observer cap ⟨part :: rest, run⟩ ⟨rest, next run⟩

/-- A step and what follows it. -/
theorem Reaches.proceed {run : Run Memory} {part : Part} {rest : List Part}
    {after : Stage Memory} (going : run.halted = none)
    (steps : Reaches observer cap (Stage.proceed observer cap run rest part) after)
    : Reaches observer cap ⟨part :: rest, run⟩ after :=
  .head (step_of_going going part rest) steps

/-- A part is left behind by a run that was stopped before it, too. -/
theorem Performs.andThen {part : Part} {next : Run Memory → Run Memory}
    (performs : Performs observer cap part next) (run : Run Memory) (rest : List Part)
    : Reaches observer cap ⟨part :: rest, run⟩ ⟨rest, run.andThen next⟩ := by
  cases halted : run.halted with
  | none =>
      rw [Run.andThen_of_going halted]
      exact performs run rest halted
  | some error =>
      rw [Run.andThen_of_stopped halted]
      exact .single (step_of_halted (by simp [halted]) part rest)

/-- Counted rounds of a body, by induction over the rounds that are left. -/
theorem performs_rounds {body : Script} {round : Run Memory → Run Memory}
    (performs : Performs observer cap (.statements body) round) (count : Nat)
    : Performs observer cap (.rounds count body) (Run.times round count) := by
  induction count with
  | zero =>
      intro run rest going
      exact .proceed going .refl
  | succ count ih =>
      intro run rest going
      exact .proceed going ((performs run _ going).trans (ih.andThen _ rest))

/-- Guarded rounds of a body, by induction over the rounds up to the cap. At the cap the guard is
checked once more, and nothing is run whatever it says.
-/
theorem performs_loop {body : Script} {round : Run Memory → Run Memory}
    (performs : Performs observer cap (.statements body) round) (condition : String)
    {left done : Nat} (count : done + left = cap)
    : Performs observer cap (.loop condition body done) (Run.loop condition round left) := by
  induction left generalizing done with
  | zero =>
      intro run rest going
      apply Reaches.proceed going
      rw [Stage.proceed, if_pos (show done = cap by omega), ite_self]
      exact .refl
  | succ left ih =>
      intro run rest going
      apply Reaches.proceed going
      rw [Stage.proceed, if_neg (show done ≠ cap by omega), Run.loop]
      split
      next =>
        have later : Performs observer cap (.loop condition body (done + 1))
            (Run.loop condition round left) :=
          ih (by omega)
        exact (performs run _ going).trans (later.andThen _ rest)
      next => exact .refl

mutual

/-- A statement at the head of a script, by recursion on the statement. -/
theorem reaches_statement (observer : Observer Memory) (cap : Nat) (statement : Statement)
    (script : Script) (rest : List Part) {run : Run Memory} (going : run.halted = none)
    : Reaches observer cap ⟨.statements (statement :: script) :: rest, run⟩
        ⟨.statements script :: rest, statement.run observer cap run⟩ := by
  apply Reaches.proceed going
  match statement with
  | .act action => exact .refl
  | .times count body =>
      exact performs_rounds (performs_script observer cap body) count.toNat run _ going
  | .when condition body =>
      rw [proceed, Statement.run]
      split
      next => exact performs_script observer cap body run _ going
      next => exact .refl
  | .loop condition body =>
      exact performs_loop (performs_script observer cap body) condition (Nat.zero_add cap) run
        _ going

/-- A script is left behind as its run says, by recursion on its statements. -/
theorem performs_script (observer : Observer Memory) (cap : Nat) (script : Script)
    : Performs observer cap (.statements script) (runAll observer cap script) := by
  intro run rest going
  match script with
  | [] => exact .proceed going .refl
  | statement :: script =>
      have head := reaches_statement observer cap statement script rest going
      have later : Performs observer cap (.statements script) (runAll observer cap script) :=
        performs_script observer cap script
      exact head.trans (later.andThen _ rest)

end

/-- A script that is run comes to its end in some number of steps. -/
theorem reaches_runAll (observer : Observer Memory) (cap : Nat) (script : Script)
    {run : Run Memory} (going : run.halted = none)
    : Reaches observer cap ⟨[.statements script], run⟩
        ⟨[], runAll observer cap script run⟩ :=
  performs_script observer cap script run [] going

end Stage

end RobotPuzzle
