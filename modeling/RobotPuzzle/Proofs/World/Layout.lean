import RobotPuzzle.Proofs.Level.Tiles
import RobotPuzzle.Proofs.World.History

/-! A world keeps the layout of its level: the size of the grid, what lies on each tile but for
gems, and a robot that stands on the grid and on no wall.
-/

namespace RobotPuzzle

-----------------------------------------------------------------------------------------
-- The shape of the grid
-----------------------------------------------------------------------------------------

/-- The grid has `n` rows of `n` tiles. -/
structure Grid.IsSquare (n : Nat) (grid : Grid) : Prop where
  rows : grid.size = n
  columns : ∀ row ∈ grid.rows, row.length = n

theorem Grid.isSquare_square (n : Nat) : (square n).IsSquare n where
  rows := by simp [size, square]
  columns := by simp [square]

theorem Grid.IsSquare.update {n : Nat} {grid : Grid} (h : grid.IsSquare n) (x y : Nat)
    (change : Tile → Tile)
    : (grid.update x y change).IsSquare n := by
  refine ⟨(Grid.size_update ..).trans h.rows, ?_⟩
  intro row member
  obtain ⟨i, found⟩ := List.mem_iff_getElem?.mp member
  rw [Grid.update, List.getElem?_modify] at found
  obtain ⟨before, was, rfl⟩ := Option.map_eq_some_iff.mp found
  have length := h.columns before (List.mem_of_getElem? was)
  split
  · rwa [List.length_modify]
  · exact length

/-- Putting elements on a grid keeps its shape, by induction over the elements. -/
theorem Grid.IsSquare.foldl_put {n : Nat} {grid : Grid} (h : grid.IsSquare n)
    (elements : List Element)
    : (elements.foldl Grid.put grid).IsSquare n := by
  induction elements generalizing grid with
  | nil => exact h
  | cons element elements ih =>
      apply ih
      exact h.update ..

theorem Grid.IsSquare.tile?_eq_some {n x y : Nat} {grid : Grid} (h : grid.IsSquare n)
    (left : x < n) (top : y < n)
    : ∃ tile, grid.tile? x y = some tile := by
  have rows : y < grid.rows.length := Nat.lt_of_lt_of_eq top h.rows.symm
  have columns := h.columns _ (List.getElem_mem rows)
  refine ⟨grid.rows[y][x], ?_⟩
  simp [Grid.tile?, rows]

/-- A tile that is found lies within the rows and columns. -/
theorem Grid.IsSquare.lt_of_tile? {n x y : Nat} {grid : Grid} {tile : Tile} (h : grid.IsSquare n)
    (found : grid.tile? x y = some tile)
    : x < n ∧ y < n := by
  obtain ⟨row, inRow, inColumn⟩ := Option.bind_eq_some_iff.mp found
  obtain ⟨bottom, rfl⟩ := List.getElem?_eq_some_iff.mp inRow
  obtain ⟨right, -⟩ := List.getElem?_eq_some_iff.mp inColumn
  rw [h.columns _ (List.getElem_mem bottom)] at right
  exact ⟨right, Nat.lt_of_lt_of_eq bottom h.rows⟩

-----------------------------------------------------------------------------------------
-- Tiles and the robot
-----------------------------------------------------------------------------------------

/-- The tile is as the level says. The last mark at its place decides about danger; a gem may
have been taken from it.
-/
structure Tile.Shows (level : Level) (x y : Nat) (tile : Tile) : Prop where
  wall : tile.isWall = true ↔ .wall ∈ kindsAt level.elements x y
  flag : tile.hasFlag = true ↔ .flag ∈ kindsAt level.elements x y
  danger
    : tile.isDanger = true
      ↔ ((kindsAt level.elements x y).filter (·.isMark)).getLast? = some .danger
  safe : tile.isSafe = !tile.isDanger
  gem : tile.hasGem = true → .gem ∈ kindsAt level.elements x y

/-- A tile whose gem has been taken still shows the level, which says only where one may be. -/
theorem Tile.Shows.without_gem {level : Level} {x y : Nat} {tile : Tile}
    (h : tile.Shows level x y)
    : Tile.Shows level x y { tile with hasGem := false } where
  wall := h.wall
  flag := h.flag
  danger := h.danger
  safe := h.safe
  gem := by simp

/-- A tile that the elements of the level have been put on is as the level says. -/
theorem Tile.shows_foldl_put (level : Level) (x y : Nat)
    : Tile.Shows level x y ((kindsAt level.elements x y).foldl Tile.put {}) where
  wall := by simp
  flag := by simp
  danger := by
    rw [isDanger_foldl_put]
    cases ((kindsAt level.elements x y).filter (·.isMark)).getLast? <;> simp
  safe := isSafe_foldl_put _ rfl
  gem := by simp

/-- The robot stands on a tile of the grid, and that is no wall. -/
def World.OnFreeTile (world : World) : Prop :=
  ∃ (x y : Nat) (tile : Tile),
    world.robot.x = x
    ∧ world.robot.y = y
    ∧ world.grid.tile? x y = some tile
    ∧ tile.isWall = false

/-- The world has the layout of the level. -/
structure World.Shows (level : Level) (world : World) : Prop where
  square : world.grid.IsSquare level.size.toNat
  robot : world.OnFreeTile
  tiles : ∀ x y tile, world.grid.tile? x y = some tile → tile.Shows level x y

namespace World.Shows

variable {level : Level} {world : World}

/-- The start is a free tile, as no wall of a sound level is listed there. -/
theorem start (sound : level.Sound) : World.Shows level (.start level) where
  square := (Grid.isSquare_square _).foldl_put level.elements
  robot := by
    obtain ⟨⟨left, right⟩, ⟨top, bottom⟩⟩ := sound.start
    have inside
        : level.startPosition.x.toInt.toNat < level.size.toNat
          ∧ level.startPosition.y.toInt.toNat < level.size.toNat := by
      omega
    refine ⟨_, _, _, (Int.toNat_of_nonneg left).symm, (Int.toNat_of_nonneg top).symm,
      (tile?_start sound _ _).trans (if_pos inside), ?_⟩
    rw [Bool.eq_false_iff, Ne, (Tile.shows_foldl_put level _ _).wall, mem_kindsAt_iff]
    rintro ⟨⟨kind, ⟨x, y⟩⟩, member, here, rfl⟩
    simp only [Element.isAt, Bool.and_eq_true, beq_iff_eq, Int.toNat_of_nonneg left,
      Int.toNat_of_nonneg top, Int32.toInt_inj] at here
    obtain ⟨rfl, rfl⟩ := here
    exact sound.noWall member
  tiles := by
    intro x y tile found
    rw [tile?_start sound, Option.ite_none_right_eq_some, Option.some.injEq] at found
    obtain ⟨-, rfl⟩ := found
    exact Tile.shows_foldl_put level x y

/-- The layout does not depend on the heading. -/
theorem face (h : World.Shows level world) (direction : Direction)
    : World.Shows level (world.face direction) where
  square := h.square
  robot := h.robot
  tiles := h.tiles

/-- Reaching for a gem changes nothing of a tile but its gem. -/
theorem pickUp (h : World.Shows level world) : World.Shows level world.pickUp where
  square := by
    cases gem : world.here.hasGem with
    | false => simpa only [World.pickUp_of_no_gem gem] using h.square
    | true => simpa only [World.pickUp_of_gem gem] using h.square.update ..
  robot := by
    obtain ⟨x, y, tile, column, row, found, free⟩ := h.robot
    refine ⟨x, y, { tile with hasGem := false }, ?_, ?_, ?_, free⟩
    · rw [World.robot_pickUp, column]
    · rw [World.robot_pickUp, row]
    · have under : world.IsUnderRobot x y := by simp [World.IsUnderRobot, column, row]
      rw [World.tile?_pickUp, if_pos under, found]
      rfl
  tiles := by
    intro x y tile found
    rw [World.tile?_pickUp] at found
    split at found
    · obtain ⟨before, was, rfl⟩ := Option.map_eq_some_iff.mp found
      exact (h.tiles x y before was).without_gem
    · exact h.tiles x y tile found

/-- The tile ahead is there, so a robot that comes to it, if it is no wall, stands on a free tile.
-/
theorem arrive (h : World.Shows level world) {x y : Nat} (ahead : world.ahead? = some (x, y))
    (free : ((world.grid.tile? x y).getD {}).isWall = false)
    : World.Shows level (world.arrive x y) := by
  obtain ⟨left, top⟩ := World.ahead?_within ahead
  rw [h.square.rows] at left top
  obtain ⟨tile, found⟩ := h.square.tile?_eq_some left top
  rw [found, Option.getD_some] at free
  exact {
    square := h.square
    robot := ⟨x, y, tile, rfl, rfl, found, free⟩
    tiles := h.tiles
  }

/-- A step forward ends on a tile that is there and no wall. -/
theorem move (h : World.Shows level world) {next : World}
    (moved : world.moveForward = .ok next)
    : World.Shows level next := by
  obtain ⟨-, x, y, ahead, free, rfl⟩ := World.arrives_of_moveForward moved
  exact (h.arrive ahead free).pickUp

/-- Whatever has come from a level keeps its layout, by induction over how it has. -/
theorem of_played {moves : Nat} (h : World.Played level moves world)
    : World.Shows level world := by
  induction h with
  | start sound => exact .start sound
  | face _ direction ih => exact ih.face direction
  | pickUp _ ih => exact ih.pickUp
  | move _ moved ih => exact ih.move moved

end World.Shows

/-- Whatever is done with a world, it keeps the layout of the level that was applied last. -/
theorem layout_is_kept {level : Level} {world : World}
    (built : World.ofLevel level = .ok world) (commands : List Command)
    : let last := History.follow { world, level, moves := 0 } commands
      last.world = commands.foldl World.after world
      ∧ last.world.Shows last.level := by
  have played := History.played_of_ofLevel built commands
  exact ⟨History.world_follow _ commands, .of_played played⟩

/-- A tile on which a level puts a gem, and marks that take each other back. -/
def Level.crowded : Level where
  size := 3
  elements :=
    [⟨.danger, ⟨1, 0⟩⟩, ⟨.gem, ⟨1, 0⟩⟩, ⟨.safe, ⟨1, 0⟩⟩, ⟨.danger, ⟨1, 0⟩⟩, ⟨.gem, ⟨1, 0⟩⟩,
      ⟨.wall, ⟨2, 0⟩⟩, ⟨.gem, ⟨2, 0⟩⟩, ⟨.flag, ⟨0, 1⟩⟩]

/-- The robot takes the gem on the danger tile, is stopped by the wall behind it, and a level
without any tile does not replace the one that is there.
-/
theorem layout_is_kept_in_a_crowd
    : let world := World.start .crowded
      let commands : List Command := [.move, .move, .pickUp, .load { size := 0 }]
      let last := History.follow { world, level := .crowded, moves := 0 } commands
      World.ofLevel .crowded = .ok world
      ∧ last.moves = 1
      ∧ last.world.here = { isSafe := false, isDanger := true }
      ∧ last.world = commands.foldl World.after world
      ∧ last.world.Shows last.level :=
  ⟨by rfl, by rfl, by decide +kernel, layout_is_kept (by rfl) _⟩

end RobotPuzzle
