import RobotPuzzle.Proofs.Executor.Conduct
import RobotPuzzle.Proofs.World.Moves

/-! Arrow scripts do what setting the heading would do. The turns in front of a step come to a
change of heading, and a script without blocks gets as far as its actions do one by one.
-/

namespace RobotPuzzle

variable {Memory : Type}

/-- How far something has come in a world, and the refused move that has stopped it. -/
structure Progress where
  world : World
  stopped : Option MoveError := none

/-- What a player is told who has come so far: which move was refused, or whether the goal is
met.
-/
def Progress.outcome (progress : Progress) : Outcome :=
  match progress.stopped with
  | some error => .failed (.refused error)
  | none => if progress.world.goalMet then .succeeded else .stillRunning

-----------------------------------------------------------------------------------------
-- Actions one by one
-----------------------------------------------------------------------------------------

/-- How far actions come that are done one after the other. -/
def World.actAll (world : World) : List Action → Progress
  | [] => { world }
  | action :: actions =>
      match world.act action with
      | .error error => { world, stopped := some error }
      | .ok next => next.actAll actions

/-- A script without blocks comes as far as its actions do, whatever its observer asks for
meanwhile. By induction over the actions.
-/
theorem runAll_acts (conduct : Executor → Memory → Conduct Memory) (cap : Nat)
    (actions : List Action) (run : Run (Diary Memory))
    (running : run.executor.state = .running) (going : run.halted = none)
    : let progress := run.executor.world.actAll actions
      let last := runAll (.keeping conduct) cap (actions.map .act) run
      last.executor = { run.executor with world := progress.world }
      ∧ last.halted = progress.stopped := by
  induction actions generalizing run with
  | nil => exact ⟨rfl, going⟩
  | cons action actions ih =>
      rw [List.map_cons, runAll, Statement.run, World.actAll]
      cases acted : run.executor.world.act action with
      | error error =>
          rw [Run.act_of_error acted]
          exact ⟨rfl, rfl⟩
      | ok world =>
          obtain ⟨moved, on, -⟩ := Run.act_of_ok running acted conduct
          have still : (run.act (.keeping conduct) action).executor.state = .running := by
            rw [moved]
            exact running
          simpa [Run.andThen_of_going on, moved] using ih _ still on

/-- A script of actions, run by whoever is ready, does them one after the other until one is
refused.
-/
theorem Executor.perform_acts (executor : Executor) (ready : executor.state ≠ .running)
    (actions : List Action) (conduct : Executor → Memory → Conduct Memory)
    (diary : Diary Memory)
    : let progress := executor.world.actAll actions
      let reply := executor.perform (.keeping conduct) (actions.map .act) diary
      reply.executor = { executor with world := progress.world, state := .done }
      ∧ reply.answer = .ok progress.outcome := by
  obtain ⟨last, halted⟩ := runAll_acts conduct executor.settings.loopCap.toNat actions
    { executor := executor.enter .running, memory := diary } rfl rfl
  simp only [perform, if_neg ready, finish, Run.outcome, last, halted]
  exact ⟨rfl, rfl⟩

-----------------------------------------------------------------------------------------
-- Arrows one by one
-----------------------------------------------------------------------------------------

/-- How far the robot comes that is pointed along each arrow and takes a step. -/
def World.follow (world : World) : List Arrow → Progress
  | [] => { world }
  | arrow :: arrows =>
      let turned := world.face arrow.heading
      match turned.moveForward with
      | .error error => { world := turned, stopped := some error }
      | .ok next => next.follow arrows

/-- The actions in the script of a sequence of arrows. -/
def arrowActions (current : Direction) : List Arrow → List Action
  | [] => []
  | arrow :: arrows =>
      turnsBetween current arrow.heading ++ .move :: arrowActions arrow.heading arrows

theorem arrowScript_eq_map (current : Direction) (arrows : List Arrow)
    : arrowScript current arrows = (arrowActions current arrows).map .act := by
  induction arrows generalizing current with
  | nil => rfl
  | cons arrow arrows ih => simp [arrowScript, arrowActions, ih]

/-- A heading that is not reached by a quarter turn or none is the opposite one. -/
theorem Direction.right_right_eq {current target : Direction} (turned : current ≠ target)
    (left : current.left ≠ target) (right : current.right ≠ target)
    : current.right.right = target := by
  cases current <;> cases target <;> simp_all [Direction.left, Direction.right]

/-- The turns between two headings do what setting the heading does, and nothing refuses them.
By cases over how many there are.
-/
theorem World.actAll_turnsBetween (world : World) (target : Direction) (actions : List Action)
    : world.actAll (turnsBetween world.robot.direction target ++ actions)
      = (world.face target).actAll actions := by
  unfold turnsBetween
  split
  next same => rw [← same]; rfl
  next turned =>
    split
    next left => rw [← left]; rfl
    next left =>
      split
      next right => rw [← right]; rfl
      next right => rw [← Direction.right_right_eq turned left right]; rfl

theorem World.direction_moveForward {before after : World} (h : before.moveForward = .ok after)
    : after.robot.direction = before.robot.direction := by
  obtain ⟨-, x, y, -, -, rfl⟩ := World.arrives_of_moveForward h
  rw [World.robot_pickUp]
  rfl

/-- The actions for a sequence of arrows come as far as the robot that is pointed along each of
them. By induction over the arrows: after a step the robot still has the heading of its arrow,
which is the one that the next turns begin with.
-/
theorem World.actAll_arrowActions (world : World) (arrows : List Arrow)
    : world.actAll (arrowActions world.robot.direction arrows) = world.follow arrows := by
  induction arrows generalizing world with
  | nil => rfl
  | cons arrow arrows ih =>
      rw [arrowActions, World.actAll_turnsBetween, World.actAll, World.follow, World.act]
      cases moved : (world.face arrow.heading).moveForward with
      | error error => rfl
      | ok next =>
          have heading : next.robot.direction = arrow.heading :=
            World.direction_moveForward moved
          rw [← heading]
          exact ih next

/-- The script of a sequence of arrows, from the heading that the robot has, leaves the world
in which the robot ends that is pointed along each arrow; its outcome is the failure of the step
that stopped that robot, or says whether the goal is met.
-/
theorem perform_arrowScript (executor : Executor) (ready : executor.state ≠ .running)
    (arrows : List Arrow) (conduct : Executor → Memory → Conduct Memory) (memory : Memory)
    : let direct := executor.world.follow arrows
      let script := arrowScript executor.world.robot.direction arrows
      let reply := executor.perform (.keeping conduct) script { memory }
      reply.executor = { executor with world := direct.world, state := .done }
      ∧ reply.answer = .ok direct.outcome := by
  rw [arrowScript_eq_map, ← World.actAll_arrowActions]
  exact executor.perform_acts ready _ conduct { memory }

/-- The robot goes down, turns about and comes back up, and is left looking west at the edge that
stops it there.
-/
theorem perform_arrowScript_to_the_edge
    : let executor : Executor := { world := .start {} }
      let arrows : List Arrow := [.down, .up, .left, .right]
      let direct := executor.world.follow arrows
      let script := arrowScript executor.world.robot.direction arrows
      let reply := executor.perform (.keeping (.silent fun _ count => count + 1)) script
        { memory := 0 }
      executor.state ≠ .running
      ∧ direct.stopped = some .offGrid
      ∧ direct.world.robot = ⟨0, 0, .west⟩
      ∧ reply.memory.memory = 6
      ∧ reply.executor = { executor with world := direct.world, state := .done }
      ∧ reply.answer = .ok direct.outcome :=
  ⟨by decide, by decide +kernel, by decide +kernel, by decide +kernel,
    perform_arrowScript _ (by decide) _ _ _⟩

end RobotPuzzle
