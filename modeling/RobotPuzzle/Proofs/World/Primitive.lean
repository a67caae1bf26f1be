import RobotPuzzle.Executor.Run

/-! What a robot can do to its world in one go, and what an action comes to. -/

namespace RobotPuzzle

/-- One thing that the robot did with success: a step forward, reaching for a gem, or a quarter
turn.
-/
inductive World.Primitive : World → World → Prop
  | move {before after} (moved : World.moveForward before = .ok after) : Primitive before after
  | pickUp (before : World) : Primitive before before.pickUp
  | turnLeft (before : World) : Primitive before before.turnLeft
  | turnRight (before : World) : Primitive before before.turnRight

namespace World

@[simp] theorem level_pickUp (world : World) : world.pickUp.level = world.level := by
  unfold pickUp takeGem?
  split <;> rfl

theorem level_moveForward {before after : World} (h : before.moveForward = .ok after)
    : after.level = before.level := by
  unfold moveForward at h
  split at h
  · simp at h
  · split at h
    · simp at h
    · split at h
      · simp at h
      · obtain rfl := Except.ok.inj h
        exact level_pickUp _

theorem Primitive.level {before after : World} (h : Primitive before after)
    : after.level = before.level := by
  cases h with
  | move moved => exact level_moveForward moved
  | pickUp => exact level_pickUp before
  | turnLeft => rfl
  | turnRight => rfl

/-- An action that is completed is one primitive, by cases over the actions. -/
theorem primitive_of_act {before after : World} {action : Action}
    (h : before.act action = .ok after)
    : Primitive before after := by
  cases action with
  | move => exact .move h
  | pickUp => exact Except.ok.inj h ▸ .pickUp before
  | turnLeft => exact Except.ok.inj h ▸ .turnLeft before
  | turnRight => exact Except.ok.inj h ▸ .turnRight before

/-- Only a step can be refused, by cases over the actions. -/
theorem moveForward_of_act_error {world : World} {action : Action} {error : MoveError}
    (h : world.act action = .error error)
    : world.moveForward = .error error := by
  cases action with
  | move => exact h
  | pickUp => cases h
  | turnLeft => cases h
  | turnRight => cases h

end World

end RobotPuzzle
