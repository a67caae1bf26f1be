import Mathlib.Data.List.Chain
import RobotPuzzle.Proofs.Executor.Conduct
import RobotPuzzle.Proofs.Executor.Lockstep
import RobotPuzzle.Proofs.World.Primitive

/-! What an observer is shown accounts for the whole run: each snapshot is one primitive behind
the next, the last is how the run leaves the world, and the outcome is true of that world.
-/

namespace RobotPuzzle

variable {Memory : Type}

/-- In a world of this level, one primitive leads from the first snapshot to the second. -/
def Level.Steps (level : Level) (before after : Snapshot) : Prop :=
  World.Primitive ⟨before, level⟩ ⟨after, level⟩

/-- The outcome is true of the world: a step would be refused there as it was in the run, or
the goal is met or not.
-/
def Outcome.TrueOf : Outcome → World → Prop
  | .failed failure, world =>
      ∃ error, failure = .refused error ∧ world.moveForward = .error error
  | .succeeded, world => world.goalMet = true
  | .stillRunning, world => world.goalMet = false

/-- The run has come from the world `start`, one primitive for each snapshot that its observer
was shown, and has been stopped only by a step that is refused where it is.
-/
structure Run.ComesFrom (start : World) (run : Run (Diary Memory)) : Prop where
  running : run.executor.state = .running
  level : run.executor.world.level = start.level
  steps : List.IsChain start.level.Steps (start.toSnapshot :: run.memory.seen)
  last
    : (start.toSnapshot :: run.memory.seen).getLast? = some run.executor.world.toSnapshot
  halted : ∀ error, run.halted = some error → run.executor.world.moveForward = .error error

/-- An action takes a run one primitive further, of which the observer is shown the end, or
stops it where it is.
-/
theorem Run.ComesFrom.act {start : World} {run : Run (Diary Memory)}
    (h : Run.ComesFrom start run) (conduct : Executor → Memory → Conduct Memory)
    (action : Action)
    : Run.ComesFrom start (run.act (.keeping conduct) action) := by
  obtain ⟨running, level, steps, last, -⟩ := h
  cases acted : run.executor.world.act action with
  | error error =>
      rw [Run.act_of_error acted]
      refine ⟨running, level, steps, last, ?_⟩
      rintro _ ⟨⟩
      exact World.moveForward_of_act_error acted
  | ok world =>
      obtain ⟨moved, on, shown, -⟩ := Run.act_of_ok running acted conduct
      -- The level is still the one of the start, so snapshots say all about the worlds.
      have primitive
          : World.Primitive ⟨run.executor.world.toSnapshot, run.executor.world.level⟩
              ⟨world.toSnapshot, world.level⟩ :=
        World.primitive_of_act acted
      have kept : world.level = start.level := primitive.level.trans level
      rw [kept, level] at primitive
      refine ⟨?_, ?_, ?_, ?_, by simp [on]⟩
      · rw [moved]
        exact running
      · rw [moved]
        exact kept
      · rw [shown, ← List.cons_append, List.isChain_append]
        refine ⟨steps, List.isChain_singleton _, ?_⟩
        -- The only new link is from the last snapshot, where the run was, to this one.
        intro before ended after begun
        obtain rfl := Option.some.inj (last.symm.trans ended)
        obtain rfl := Option.some.inj begun
        exact primitive
      · rw [shown, moved, ← List.cons_append, List.getLast?_concat]

/-- The outcome of a run is true of the world in which it was stopped or came to its end. -/
theorem Run.ComesFrom.trueOf {start : World} {run : Run (Diary Memory)}
    (h : Run.ComesFrom start run)
    : run.outcome.TrueOf run.executor.world := by
  unfold Run.outcome
  cases stopped : run.halted with
  | some error => exact ⟨error, rfl, h.halted error stopped⟩
  | none => cases met : run.executor.world.goalMet <;> simp [Outcome.TrueOf, met]

/-- The reply gives an outcome that is true of the world that it leaves, and what the observer
was shown leads there from the world `start`, by one primitive each.
-/
structure Reply.Accounts (start : World) (reply : Reply (Diary Memory) Outcome)
    (outcome : Outcome)
    : Prop where
  answer : reply.answer = .ok outcome
  level : reply.executor.world.level = start.level
  steps : List.IsChain start.level.Steps (start.toSnapshot :: reply.memory.seen)
  last
    : (start.toSnapshot :: reply.memory.seen).getLast?
      = some reply.executor.world.toSnapshot
  outcome : outcome.TrueOf reply.executor.world

/-- A script that is run, in whatever world, up to whatever cap and whatever its observer does
meanwhile, comes to an outcome, and what its observer is shown accounts for that.
-/
theorem perform_accounts (executor : Executor) (ready : executor.state ≠ .running)
    (script : Script) (conduct : Executor → Memory → Conduct Memory) (memory : Memory)
    : ∃ outcome,
        (executor.perform (.keeping conduct) script { memory }).Accounts executor.world
          outcome := by
  have start : Run.ComesFrom executor.world
      { executor := executor.enter .running, memory := ({ memory } : Diary Memory) } :=
    ⟨rfl, rfl, List.isChain_singleton _, rfl, by simp⟩
  have last := runAll_keeps (fun action h _ => h.act conduct action)
    executor.settings.loopCap.toNat script start rfl
  rw [Executor.perform, if_neg ready]
  exact ⟨_, rfl, last.level, last.steps, last.last, last.trueOf⟩

/-- A robot that goes on for as long as its path is clear and then takes a step more: the run
is stopped at the edge, after a snapshot for each of the four steps before.
-/
theorem perform_accounts_to_the_edge
    : let executor : Executor := { world := .start {} }
      let script : Script := [.loop "pathClear" [.act .move], .act .move]
      let watcher : Observer (Diary Nat) := .keeping (.silent fun _ count => count + 1)
      let reply := executor.perform watcher script { memory := 0 }
      executor.state ≠ .running
      ∧ reply.answer = .ok (.failed (.refused .offGrid))
      ∧ reply.memory.seen.length = 4
      ∧ ∃ outcome, reply.Accounts executor.world outcome :=
  ⟨by decide, by decide +kernel, by decide +kernel, perform_accounts _ (by decide) _ _ _⟩

end RobotPuzzle
