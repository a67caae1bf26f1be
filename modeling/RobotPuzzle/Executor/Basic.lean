import RobotPuzzle.Condition
import RobotPuzzle.Script.Error

/-! Executors: a world together with what is needed to run scripts in it, one at a time. -/

namespace RobotPuzzle

/-- Where an executor is in its life. -/
inductive RunState where
  | idle
  | running
  | done
deriving DecidableEq, Repr

/-- The pause after each action, in milliseconds. -/
structure Delay where
  millis : Nat
  le_second : millis ≤ 1000 := by decide
deriving DecidableEq, Repr

namespace Delay

def zero : Delay where
  millis := 0

def ofMillis (millis : Nat) : Delay :=
  ⟨min millis 1000, Nat.min_le_right _ _⟩

/-- The pause of so many microseconds, rounded down and cut off at a second. -/
def ofMicros (micros : Nat) : Delay :=
  ofMillis (micros / 1000)

end Delay

/-- What can be chosen about an executor. -/
structure Settings where
  delay : Delay := { millis := 300 }
  /-- How often a loop runs its body at most. -/
  loopCap : UInt32 := 20
deriving DecidableEq, Repr

/-- A world in which scripts are run. -/
structure Executor where
  world : World
  state : RunState := .idle
  settings : Settings := {}

/-- Why a run stopped early. -/
inductive Failure where
  | refused (error : MoveError)
  | unreadable (error : ScriptError)
deriving DecidableEq, Repr

def Failure.message : Failure → String
  | refused error => error.message
  | unreadable error => error.message

/-- How a run ended. -/
inductive Outcome where
  /-- The script came to its end, and the goal is met. -/
  | succeeded
  /-- The script came to its end, and the goal is not met yet. -/
  | stillRunning
  /-- The rest of the script was skipped. -/
  | failed (failure : Failure)
deriving DecidableEq, Repr

/-- Why an executor did not do what it was given. -/
inductive Refusal where
  | busy
  | unknownFunction (name : String)
deriving DecidableEq, Repr

def Refusal.message : Refusal → String
  | busy => "a script is already running"
  | unknownFunction name => "no function called " ++ Text.quoted name ++ " has been saved"

/-- Puts the world of an executor back to how the level starts it, unless a script is running.
The executor is how the call leaves it.
-/
def Executor.reset (executor : Executor) : Except Refusal Unit × Executor :=
  if executor.state = .running then
    (.error .busy, executor)
  else
    (.ok (), { executor with world := executor.world.reset, state := .idle })

end RobotPuzzle
