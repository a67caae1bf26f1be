import RobotPuzzle.Executor.Basic
import RobotPuzzle.Script.Basic

/-! Running statements. A run carries the executor and the memory of whoever watches it, and
stops at the first move that is refused.
-/

namespace RobotPuzzle

/-- The world after an action. -/
def World.act (world : World) : Action → Except MoveError World
  | .move => world.moveForward
  | .pickUp => .ok world.pickUp
  | .turnLeft => .ok world.turnLeft
  | .turnRight => .ok world.turnRight

/-- Someone who is told about every action that is completed. An observer sees the executor
as it is then, can ask it for something, and keeps a memory from one action to the next.
-/
abbrev Observer (Memory : Type) :=
  Executor → Memory → Executor × Memory

/-- The observer who neither asks nor remembers anything. -/
def Observer.quiet : Observer Unit :=
  fun executor memory => (executor, memory)

/-- How far a run has come. -/
structure Run (Memory : Type) where
  executor : Executor
  memory : Memory
  /-- The refused move that stopped the run. -/
  halted : Option MoveError := none

namespace Run

variable {Memory : Type}

def holds (run : Run Memory) (condition : String) : Bool :=
  run.executor.world.satisfies condition

def act (observer : Observer Memory) (action : Action) (run : Run Memory) : Run Memory :=
  match run.executor.world.act action with
  | .error error => { run with halted := some error }
  | .ok world =>
      let (executor, memory) := observer { run.executor with world } run.memory
      { executor, memory }

/-- The run after a further part, unless it has been stopped. -/
@[inline]
def andThen (run : Run Memory) (next : Run Memory → Run Memory) : Run Memory :=
  if run.halted.isSome then run else next run

theorem andThen_of_going {run : Run Memory} (going : run.halted = none)
    (next : Run Memory → Run Memory)
    : run.andThen next = next run := by
  simp [andThen, going]

theorem andThen_of_stopped {run : Run Memory} {error : MoveError}
    (stopped : run.halted = some error) (next : Run Memory → Run Memory)
    : run.andThen next = run := by
  simp [andThen, stopped]

/-- The run after `count` rounds of a body. -/
def times (body : Run Memory → Run Memory) : (count : Nat) → Run Memory → Run Memory
  | 0, run => run
  | count + 1, run => (body run).andThen (times body count)

/-- The run after rounds of a body for as long as the condition holds, but no more than
`cap` of them.
-/
def loop (condition : String) (body : Run Memory → Run Memory)
    : (cap : Nat) → Run Memory → Run Memory
  | 0, run => run
  | cap + 1, run =>
      if run.holds condition then (body run).andThen (loop condition body cap) else run

end Run

variable {Memory : Type}

mutual

/-- The run after a statement; a loop goes round no more than `cap` times. -/
def Statement.run (observer : Observer Memory) (cap : Nat)
    : Statement → Run Memory → Run Memory
  | .act action, run => run.act observer action
  | .times count body, run => run.times (runAll observer cap body) count.toNat
  | .when condition body, run =>
      if run.holds condition then runAll observer cap body run else run
  | .loop condition body, run => run.loop condition (runAll observer cap body) cap

def runAll (observer : Observer Memory) (cap : Nat)
    : List Statement → Run Memory → Run Memory
  | [], run => run
  | statement :: statements, run =>
      (statement.run observer cap run).andThen (runAll observer cap statements)

end

end RobotPuzzle
