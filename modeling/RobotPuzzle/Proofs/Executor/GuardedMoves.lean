import RobotPuzzle.Executor.Perform

/-! Guarded moves. A script in which each move stands right behind a check that the path is clear
never leads the robot off the grid or into a wall: nothing happens between the check and the move,
and both look at the same tile.
-/

namespace RobotPuzzle

variable {Memory : Type}

-----------------------------------------------------------------------------------------
-- Scripts that look before they move
-----------------------------------------------------------------------------------------

def asksForClearPath (condition : String) : Bool :=
  Condition.find? condition = some .pathClear

mutual

/-- Every move in the statement is the first thing in the body of a guard that asks for a clear
path. The statement may be a move itself if it is such a first thing, that is if `clear`.
-/
def Statement.guardsMoves (clear : Bool) : Statement → Bool
  | .act action => clear || action != .move
  | .times _ body => Script.guardsMoves false body
  | .when condition body => Script.guardsMoves (asksForClearPath condition) body
  | .loop condition body => Script.guardsMoves (asksForClearPath condition) body

def Script.guardsMoves (clear : Bool) : Script → Bool
  | [] => true
  | statement :: script => statement.guardsMoves clear && Script.guardsMoves false script

end

/-- A guard that asks for a clear path holds only before one. -/
theorem Run.pathClear_of_holds {run : Run Memory} {condition : String}
    (asks : asksForClearPath condition = true) (holds : run.holds condition = true)
    : run.executor.world.pathClear = true := by
  have found : Condition.find? condition = some .pathClear := by
    simpa [asksForClearPath] using asks
  simpa [Run.holds, World.satisfies, found, Condition.holds] using holds

-----------------------------------------------------------------------------------------
-- What can stop a run
-----------------------------------------------------------------------------------------

/-- The tile that is checked is the one that the robot moves to. -/
theorem World.eq_noEnergy_of_pathClear {world : World} {error : MoveError}
    (clear : world.pathClear = true) (refused : world.moveForward = .error error)
    : error = .noEnergy := by
  unfold pathClear tileAhead? at clear
  unfold moveForward at refused
  split at refused
  next => exact (Except.error.inj refused).symm
  next =>
    cases ahead : world.ahead? with
    | none => simp [ahead] at clear
    | some place =>
        cases found : world.grid.tile? place.1 place.2 with
        | none => simp [ahead, found] at clear
        | some tile => simp_all

/-- Nothing but a lack of energy stops this part of a run, where it begins with a clear path if
`clear`.
-/
def Run.OnlyTires (clear : Bool) (next : Run Memory → Run Memory) : Prop :=
  ∀ run,
    run.halted = none
    → (clear = true → run.executor.world.pathClear = true)
    → ∀ error, (next run).halted = some error → error = .noEnergy

namespace Run.OnlyTires

variable {clear : Bool} {next next' : Run Memory → Run Memory}

/-- What needs no clear path does with one, too. -/
theorem weaken (h : Run.OnlyTires false next) : Run.OnlyTires clear next :=
  fun run going _ => h run going nofun

theorem nothing : Run.OnlyTires clear fun run : Run Memory => run := by
  intro run going _ error stopped
  simp [going] at stopped

/-- An action that is no move is never refused. -/
theorem act (observer : Observer Memory) {action : Action}
    (guarded : (clear || action != .move) = true)
    : Run.OnlyTires clear (Run.act observer action) := by
  intro run going ahead error stopped
  cases acted : run.executor.world.act action with
  | ok world => simp [Run.act, acted] at stopped
  | error refusal =>
      obtain rfl : refusal = error := by simpa [Run.act, acted] using stopped
      cases action with
      | move => exact World.eq_noEnergy_of_pathClear (ahead (by simpa using guarded)) acted
      | pickUp => cases acted
      | turnLeft => cases acted
      | turnRight => cases acted

/-- Two parts one after the other, where nothing is known of the path when the second begins. -/
theorem andThen (h : Run.OnlyTires clear next) (later : Run.OnlyTires false next')
    : Run.OnlyTires clear fun run => (next run).andThen next' := by
  intro run going ahead error stopped
  cases halted : (next run).halted with
  | some refusal =>
      simp only [Run.andThen_of_stopped halted] at stopped
      exact h run going ahead error stopped
  | none =>
      simp only [Run.andThen_of_going halted] at stopped
      exact later (next run) halted nofun error stopped

/-- What is known of the path behind a guard is what the guard asks for. -/
theorem guard {condition : String}
    (h : Run.OnlyTires (asksForClearPath condition) next)
    : Run.OnlyTires clear fun run => if run.holds condition then next run else run := by
  intro run going _ error stopped
  dsimp only at stopped
  split at stopped
  next holds => exact h run going (fun asks => Run.pathClear_of_holds asks holds) error stopped
  next => simp [going] at stopped

/-- Counted rounds, by induction over their number. -/
theorem times (h : Run.OnlyTires false next) (count : Nat)
    : Run.OnlyTires clear (Run.times next count) := by
  induction count generalizing clear with
  | zero => exact nothing
  | succ count ih => exact h.weaken.andThen ih

/-- Guarded rounds, by induction over the rounds up to the cap: the guard is checked before each.
-/
theorem loop {condition : String} (h : Run.OnlyTires (asksForClearPath condition) next)
    (cap : Nat)
    : Run.OnlyTires clear (Run.loop condition next cap) := by
  induction cap generalizing clear with
  | zero => exact nothing
  | succ cap ih => exact (h.andThen ih).guard

end Run.OnlyTires

mutual

/-- A statement that guards its moves only tires the robot, by recursion on the statement. -/
theorem Statement.onlyTires (observer : Observer Memory) (cap : Nat) {clear : Bool}
    (statement : Statement) (guarded : statement.guardsMoves clear = true)
    : Run.OnlyTires clear (statement.run observer cap) := by
  match statement with
  | .act action => exact Run.OnlyTires.act observer guarded
  | .times count body =>
      exact Run.OnlyTires.times (Script.onlyTires observer cap body guarded) count.toNat
  | .when condition body =>
      exact Run.OnlyTires.guard (Script.onlyTires observer cap body guarded)
  | .loop condition body =>
      exact Run.OnlyTires.loop (Script.onlyTires observer cap body guarded) cap

theorem Script.onlyTires (observer : Observer Memory) (cap : Nat) {clear : Bool}
    (script : Script) (guarded : script.guardsMoves clear = true)
    : Run.OnlyTires clear (runAll observer cap script) := by
  match script with
  | [] => exact Run.OnlyTires.nothing
  | statement :: script =>
      obtain ⟨head, tail⟩ := Bool.and_eq_true_iff.mp guarded
      exact (Statement.onlyTires observer cap statement head).andThen
        (Script.onlyTires observer cap script tail)

end

/-- A script that guards its moves comes to an outcome that is neither the edge of the grid nor a
wall, in whatever world it is run and up to whatever cap.
-/
theorem perform_guarded (executor : Executor) (ready : executor.state ≠ .running)
    (script : Script) (guarded : script.guardsMoves false = true) (observer : Observer Memory)
    (memory : Memory)
    : ∃ outcome,
        (executor.perform observer script memory).answer = .ok outcome
        ∧ outcome ≠ .failed (.refused .offGrid)
        ∧ outcome ≠ .failed (.refused .blocked) := by
  let start : Run Memory := { executor := executor.enter .running, memory }
  let last := runAll observer executor.settings.loopCap.toNat script start
  have tired : ∀ error, last.halted = some error → error = .noEnergy :=
    Script.onlyTires observer executor.settings.loopCap.toNat script guarded start rfl nofun
  refine ⟨last.outcome, ?_, ?_, ?_⟩
  · rw [Executor.perform, if_neg ready]
    rfl
  · intro off
    cases tired _ (last.outcome_eq_refused_iff.mp off)
  · intro blocked
    cases tired _ (last.outcome_eq_refused_iff.mp blocked)

/-- A robot that goes round the grid along its edge, looking before each step: it ends where its
energy does, in the third row, and not at the edge.
-/
theorem perform_guarded_along_the_edge
    : let executor : Executor := { world := .start {} }
      let script : Script :=
        [.times 3 [.loop "path Clear" [.act .move, .act .pickUp], .act .turnRight]]
      let reply := executor.perform .quiet script ()
      executor.state ≠ .running
      ∧ script.guardsMoves false = true
      ∧ reply.answer = .ok (.failed (.refused .noEnergy))
      ∧ reply.executor.world.robot = ⟨2, 4, .west⟩
      ∧ ∃ outcome,
          reply.answer = .ok outcome
          ∧ outcome ≠ .failed (.refused .offGrid)
          ∧ outcome ≠ .failed (.refused .blocked) :=
  ⟨by decide, by decide +kernel, by rfl, by decide +kernel,
    perform_guarded _ (by decide) _ (by decide +kernel) _ _⟩

end RobotPuzzle
