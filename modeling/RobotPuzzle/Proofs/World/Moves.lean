import RobotPuzzle.Proofs.Level.Soundness
import RobotPuzzle.World

/-! What reaching for a gem and a step forward come to, said once for all that worlds keep. -/

namespace RobotPuzzle

/-- The tile in this column and row is the one under the robot. -/
def World.IsUnderRobot (world : World) (x y : Nat) : Prop :=
  x = world.robot.x.toNat ∧ y = world.robot.y.toNat

instance (world : World) (x y : Nat) : Decidable (world.IsUnderRobot x y) :=
  inferInstanceAs (Decidable (_ ∧ _))

namespace World

-----------------------------------------------------------------------------------------
-- Reaching for a gem
-----------------------------------------------------------------------------------------

theorem pickUp_of_no_gem {world : World} (h : world.here.hasGem = false)
    : world.pickUp = world := by
  simp [pickUp, takeGem?, h]

theorem pickUp_of_gem {world : World} (h : world.here.hasGem = true)
    : world.pickUp
      = { world with
          grid := world.grid.update world.robot.x.toNat world.robot.y.toNat
            ({ · with hasGem := false })
          gems := world.gems + 1 } := by
  simp [pickUp, takeGem?, h]

@[simp] theorem robot_pickUp (world : World) : world.pickUp.robot = world.robot := by
  cases gem : world.here.hasGem with
  | false => rw [pickUp_of_no_gem gem]
  | true => rw [pickUp_of_gem gem]

@[simp] theorem energy_pickUp (world : World) : world.pickUp.energy = world.energy := by
  cases gem : world.here.hasGem with
  | false => rw [pickUp_of_no_gem gem]
  | true => rw [pickUp_of_gem gem]

/-- Afterwards there is no gem under the robot, whether or not there was one, and all other
tiles are as before.
-/
theorem tile?_pickUp (world : World) (x y : Nat)
    : world.pickUp.grid.tile? x y
      = if world.IsUnderRobot x y then (world.grid.tile? x y).map ({ · with hasGem := false })
        else world.grid.tile? x y := by
  cases gem : world.here.hasGem with
  | true =>
      rw [pickUp_of_gem gem]
      exact Grid.tile?_update ..
  | false =>
      rw [pickUp_of_no_gem gem]
      split
      next under =>
        obtain ⟨rfl, rfl⟩ := under
        cases found : world.grid.tile? world.robot.x.toNat world.robot.y.toNat with
        | none => rfl
        | some tile =>
            have none : tile.hasGem = false := by simpa [here, found] using gem
            simp [← none]
      next => rfl

-----------------------------------------------------------------------------------------
-- Stepping forward
-----------------------------------------------------------------------------------------

/-- The world after the robot has come to a tile, and before it reaches for a gem there. -/
def arrive (world : World) (x y : Nat) : World :=
  { world with
    robot.x := x
    robot.y := y
    energy := world.energy - 1 }

/-- A step forward that succeeds takes energy that is there to a tile ahead that is no wall,
where the robot reaches for a gem.
-/
theorem arrives_of_moveForward {before after : World} (h : before.moveForward = .ok after)
    : 0 < before.energy
      ∧ ∃ x y,
          before.ahead? = some (x, y)
          ∧ ((before.grid.tile? x y).getD {}).isWall = false
          ∧ after = (before.arrive x y).pickUp := by
  unfold moveForward at h
  split at h
  · cases h
  next energy =>
    split at h
    · cases h
    next x y ahead =>
      split at h
      · cases h
      next free =>
        refine ⟨by omega, x, y, ahead, by simpa using free, ?_⟩
        exact (Except.ok.inj h).symm

/-- What is ahead lies within the size of the grid. -/
theorem ahead?_within {world : World} {x y : Nat} (h : world.ahead? = some (x, y))
    : x < world.grid.size ∧ y < world.grid.size := by
  have reach : signed32 world.grid.size ≤ world.grid.size := signed32_le world.grid.size
  simp only [ahead?, cell?, Option.ite_none_right_eq_some, Option.some.injEq,
    Prod.mk.injEq] at h
  obtain ⟨inside, rfl, rfl⟩ := h
  omega

end World

end RobotPuzzle
