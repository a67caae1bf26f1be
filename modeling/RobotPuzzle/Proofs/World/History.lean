import RobotPuzzle.Proofs.World.Moves
import RobotPuzzle.Proofs.World.Primitive

/-! Histories of worlds. A history is what became of a world under any commands, those that fail
included; its world has come from its level by so many moves, and by turns and reaching for gems.
-/

namespace RobotPuzzle

/-- A world in play, and what is known of how it came about. -/
structure History where
  world : World
  /-- The level that was applied last. -/
  level : Level
  /-- How many steps forward succeeded since the world was last built. -/
  moves : Nat

namespace History

/-- One command on: only a step that succeeds is a move, and only a valid level is applied. -/
def after (history : History) : Command → History
  | .move =>
      match history.world.moveForward with
      | .ok world => { history with world, moves := history.moves + 1 }
      | .error _ => history
  | .turnLeft => { history with world := history.world.turnLeft }
  | .turnRight => { history with world := history.world.turnRight }
  | .face direction => { history with world := history.world.face direction }
  | .pickUp => { history with world := history.world.pickUp }
  | .reset => { history with world := history.world.reset, moves := 0 }
  | .load level =>
      match World.ofLevel level with
      | .ok world => { world, level, moves := 0 }
      | .error _ => history

def follow (history : History) (commands : List Command) : History :=
  commands.foldl after history

/-- A history keeps the books on its world and does nothing to it, by cases over the command. -/
theorem world_after (history : History) (command : Command)
    : (history.after command).world = history.world.after command := by
  cases command with
  | move =>
      simp only [after, World.after]
      cases history.world.moveForward <;> rfl
  | load level =>
      simp only [after, World.after]
      cases World.ofLevel level <;> rfl
  | _ => rfl

theorem world_follow (history : History) (commands : List Command)
    : (history.follow commands).world = commands.foldl World.after history.world := by
  induction commands generalizing history with
  | nil => rfl
  | cons command commands ih =>
      rw [follow, List.foldl_cons, List.foldl_cons, ← world_after]
      exact ih (history.after command)

end History

/-- A world is built from a level by starting it, if the level is valid. -/
theorem World.ofLevel_eq_ok_iff {level : Level} {world : World}
    : World.ofLevel level = .ok world ↔ level.validate = .ok () ∧ world = .start level := by
  unfold World.ofLevel
  cases level.validate with
  | error error => exact ⟨nofun, nofun⟩
  | ok _ => exact ⟨fun h => ⟨rfl, (Except.ok.inj h).symm⟩, fun h => congrArg Except.ok h.2.symm⟩

/-- The world has come from a sound level by so many moves, and by whatever else that costs
nothing.
-/
inductive World.Played (level : Level) : Nat → World → Prop
  | start (sound : level.Sound) : Played level 0 (.start level)
  | face {moves world} (before : Played level moves world) (direction : Direction)
    : Played level moves (world.face direction)
  | pickUp {moves world} (before : Played level moves world)
    : Played level moves world.pickUp
  | move {moves world next} (before : Played level moves world)
    (moved : world.moveForward = .ok next)
    : Played level (moves + 1) next

namespace World.Played

variable {level : Level} {moves : Nat} {world : World}

theorem sound (h : World.Played level moves world) : level.Sound := by
  induction h with
  | start sound => exact sound
  | face _ _ ih => exact ih
  | pickUp _ ih => exact ih
  | move _ _ ih => exact ih

/-- A world still carries the level it was built from, by induction over its history. -/
theorem level_eq (h : World.Played level moves world) : world.level = level := by
  induction h with
  | start => rfl
  | face _ _ ih => exact ih
  | pickUp _ ih => exact (World.level_pickUp _).trans ih
  | move _ moved ih => exact (World.level_moveForward moved).trans ih

theorem of_ofLevel (built : World.ofLevel level = .ok world)
    : World.Played level 0 world := by
  obtain ⟨valid, rfl⟩ := World.ofLevel_eq_ok_iff.mp built
  exact .start (Level.sound_of_validate valid)

end World.Played

/-- Every command leaves a world that has come from the level applied last, by cases over the
commands. One that fails leaves the world that was there, and a reset starts it over.
-/
theorem History.played_after {history : History}
    (h : World.Played history.level history.moves history.world) (command : Command)
    : let next := history.after command
      World.Played next.level next.moves next.world := by
  cases command with
  | move =>
      cases moved : history.world.moveForward with
      | error error => simpa only [after, moved] using h
      | ok world => simpa only [after, moved] using h.move moved
  | turnLeft => exact h.face _
  | turnRight => exact h.face _
  | face direction => exact h.face direction
  | pickUp => exact h.pickUp
  | reset =>
      have again : history.world.reset = .start history.level := congrArg World.start h.level_eq
      simpa only [after, again] using World.Played.start h.sound
  | load level =>
      cases built : World.ofLevel level with
      | error error => simpa only [after, built] using h
      | ok world => simpa only [after, built] using World.Played.of_ofLevel built

/-- So do any commands, by induction over them. -/
theorem History.played_follow {history : History}
    (h : World.Played history.level history.moves history.world) (commands : List Command)
    : let last := history.follow commands
      World.Played last.level last.moves last.world := by
  induction commands generalizing history with
  | nil => exact h
  | cons command commands ih => exact ih (played_after h command)

/-- The history of a world that is built from a level begins without a move. -/
theorem History.played_of_ofLevel {level : Level} {world : World}
    (built : World.ofLevel level = .ok world) (commands : List Command)
    : let last := follow { world, level, moves := 0 } commands
      World.Played last.level last.moves last.world := by
  have begun : World.Played level 0 world := .of_ofLevel built
  exact @played_follow { world, level, moves := 0 } begun commands

end RobotPuzzle
