import RobotPuzzle.Executor.Run
import RobotPuzzle.Script.Mode
import RobotPuzzle.Session

/-! What an executor can be given to run. A reply says how the call leaves the executor and the
memory of whoever watches, also where the call is refused.
-/

namespace RobotPuzzle

/-- The end of a call: its answer, and what is there after it. -/
structure Reply (Memory Value : Type) where
  answer : Except Refusal Value
  executor : Executor
  memory : Memory

/-- A run that has come to its end. -/
structure Finished (Memory : Type) where
  outcome : Outcome
  executor : Executor
  memory : Memory

namespace Reply

variable {Memory Value : Type}

def refuse (refusal : Refusal) (executor : Executor) (memory : Memory)
    : Reply Memory Value where
  answer := .error refusal
  executor := executor
  memory := memory

/-- The run that a reply reports, unless the call was refused. -/
def finished (reply : Reply Memory Outcome) : Except Refusal (Finished Memory) :=
  reply.answer.map fun outcome => ⟨outcome, reply.executor, reply.memory⟩

end Reply

/-- How a run ended: the goal counts only if no move was refused. -/
def Run.outcome {Memory : Type} (run : Run Memory) : Outcome :=
  match run.halted with
  | some error => .failed (.refused error)
  | none => if run.executor.world.goalMet then .succeeded else .stillRunning

/-- The outcome tells the move that was refused. -/
theorem Run.outcome_eq_refused_iff {Memory : Type} (run : Run Memory) {error : MoveError}
    : run.outcome = .failed (.refused error) ↔ run.halted = some error := by
  unfold outcome
  cases run.halted with
  | some refused => simp
  | none => cases run.executor.world.goalMet <;> simp

/-- A run was not stopped exactly if its outcome is no failure. -/
theorem Run.halted_eq_none_iff {Memory : Type} (run : Run Memory)
    : run.halted = none ↔ ∀ failure, run.outcome ≠ .failed failure := by
  unfold outcome
  cases run.halted with
  | some error => simp
  | none => cases run.executor.world.goalMet <;> simp

namespace Executor

variable {Memory : Type}

def enter (executor : Executor) (state : RunState) : Executor :=
  { executor with state }

def finish (run : Run Memory) : Reply Memory Outcome where
  answer := .ok run.outcome
  executor := run.executor.enter .done
  memory := run.memory

/-- Runs a script to its end, unless another one is running. -/
def perform (observer : Observer Memory) (script : Script) (executor : Executor)
    (memory : Memory) : Reply Memory Outcome :=
  if executor.state = .running then
    .refuse .busy executor memory
  else
    finish
      (runAll observer executor.settings.loopCap.toNat script
        { executor := executor.enter .running, memory })

/-- Reads a script and runs it. A text that is no script counts as a run that failed at once. -/
def performText (observer : Observer Memory) (mode : Script.Mode) (text : String)
    (executor : Executor) (memory : Memory) : Reply Memory Outcome :=
  if executor.state = .running then
    .refuse .busy executor memory
  else
    match mode.read text with
    | .ok script => perform observer script executor memory
    | .error error =>
        {
          answer := .ok (.failed (.unreadable error))
          executor := executor.enter .done
          memory
        }

/-- Puts the world back to its start and runs the arrows that are saved under a name. -/
def performSaved (observer : Observer Memory) (session : Session) (name : String)
    (executor : Executor) (memory : Memory) : Reply Memory Outcome :=
  match session.function? name with
  | none => .refuse (.unknownFunction name) executor memory
  | some arrows =>
      match executor.reset with
      | (.error refusal, executor) => .refuse refusal executor memory
      | (.ok _, fresh) =>
          perform observer (arrowScript fresh.world.robot.direction arrows) fresh memory

end Executor

end RobotPuzzle
