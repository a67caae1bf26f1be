import RobotPuzzle.Condition
import RobotPuzzle.Proofs.World.Ledger

/-! Worlds stay within the range of machine words. Each operation is written down once more, with
every number that it works out put into the word that has to hold it, and every tile looked up
where it has to be; neither ever fails.
-/

namespace RobotPuzzle

-----------------------------------------------------------------------------------------
-- Operations that check what they do
-----------------------------------------------------------------------------------------

/-- The number, if a signed 32-bit word can hold it. -/
def fitInt32? (n : Int) : Option Int :=
  if -0x80000000 ≤ n ∧ n < 0x80000000 then some n else none

/-- The number, if an unsigned 32-bit word can hold it. -/
def fitWord32? (n : Nat) : Option Nat :=
  if n < 0x100000000 then some n else none

/-- The tile at coordinates that have to be on the grid. -/
def Grid.lookUp? (grid : Grid) (x y : Int) : Option Tile :=
  if 0 ≤ x ∧ 0 ≤ y then grid.tile? x.toNat y.toNat else none

/-- The grid after an element has been put on a tile that has to be there. -/
def Grid.checkedPut? (grid : Grid) (element : Element) : Option Grid := do
  let _ ← grid.lookUp? element.place.x.toInt element.place.y.toInt
  return grid.put element

namespace World

def checkedStart? (level : Level) : Option World := do
  let grid ← level.elements.foldlM Grid.checkedPut? (.square level.size.toNat)
  return { start level with grid }

def checkedOfLevel? (level : Level) : Option (Except LevelError World) :=
  match level.validate with
  | .error error => some (.error error)
  | .ok _ => (checkedStart? level).map .ok

def checkedHere? (world : World) : Option Tile :=
  world.grid.lookUp? world.robot.x world.robot.y

/-- The column and row in front of the robot, from coordinates that have to fit. -/
def checkedAhead? (world : World) : Option (Option (Nat × Nat)) := do
  let x ← fitInt32? (world.robot.x + world.robot.direction.dx)
  let y ← fitInt32? (world.robot.y + world.robot.direction.dy)
  return world.cell? x y

def checkedTileAhead? (world : World) : Option (Option Tile) := do
  match ← world.checkedAhead? with
  | none => return none
  | some (x, y) => return some (← world.grid.tile? x y)

/-- Reaching for a gem, where one more has to be counted. -/
def checkedPickUp? (world : World) : Option World := do
  let tile ← world.checkedHere?
  if tile.hasGem then
    let gems ← fitWord32? (world.gems + 1)
    let grid :=
      world.grid.update world.robot.x.toNat world.robot.y.toNat ({ · with hasGem := false })
    return { world with grid, gems }
  else
    return world

/-- A step forward, where the new place and the energy that is left have to fit. -/
def checkedMoveForward? (world : World) : Option (Except MoveError World) := do
  if world.energy ≤ 0 then
    return .error .noEnergy
  else
    match ← world.checkedAhead? with
    | none => return .error .offGrid
    | some (x, y) =>
        let tile ← world.grid.tile? x y
        if tile.isWall then
          return .error .blocked
        else
          let column ← fitInt32? x
          let row ← fitInt32? y
          let energy ← fitInt32? (world.energy - 1)
          let arrived := { world with robot.x := column, robot.y := row, energy }
          if tile.hasGem then return .ok (← arrived.checkedPickUp?) else return .ok arrived

def checkedGoalMet? (world : World) : Option Bool :=
  match world.level.goal with
  | none => some false
  | some goal => do
      let here ← world.checkedHere?
      return match goal with
        | .reachFlag => here.hasFlag
        | .collectGems count => count.toNat ≤ world.gems
        | .reachFlagSafely => !here.isDanger && here.hasFlag && 0 < world.energy
        | .custom goal => goal.holds world.toSnapshot

def checkedAfter? (world : World) : Command → Option World
  | .move => do return (← world.checkedMoveForward?).toOption.getD world
  | .turnLeft => some world.turnLeft
  | .turnRight => some world.turnRight
  | .face direction => some (world.face direction)
  | .pickUp => world.checkedPickUp?
  | .reset => checkedStart? world.level
  | .load level => do return (← checkedOfLevel? level).toOption.getD world

end World

def Condition.checked? (world : World) : Condition → Option Bool
  | .gemAhead => do return (← world.checkedTileAhead?).any (·.hasGem)
  | .pathClear => do return (← world.checkedTileAhead?).any (!·.isWall)
  | .tileIsSafe => do return (← world.checkedHere?).isSafe
  | .energyPositive => some (0 < world.energy)

/-- Whatever is done with the world or asked of it, no check fails, and what comes of it is what
comes of the operation without checks.
-/
structure World.StaysInRange (world : World) : Prop where
  commands : ∀ command, world.checkedAfter? command = some (world.after command)
  conditions : ∀ condition, Condition.checked? world condition = some (condition.holds world)
  goal : world.checkedGoalMet? = some world.goalMet

-----------------------------------------------------------------------------------------
-- How far numbers get
-----------------------------------------------------------------------------------------

theorem fitInt32?_eq {n : Int} (low : -0x80000000 ≤ n) (high : n < 0x80000000)
    : fitInt32? n = some n :=
  if_pos ⟨low, high⟩

/-- After so many moves in a level, the robot is within the reach of coordinates, no more moves
have been made than there was energy for, and the robot holds no more gems than one for each move
and one from the start: a gem that is still under the robot counts as one that it holds.
-/
structure World.Bounded (level : Level) (moves : Nat) (world : World) : Prop where
  column : 0 ≤ world.robot.x ∧ world.robot.x < level.span
  row : 0 ≤ world.robot.y ∧ world.robot.y < level.span
  spent : moves ≤ level.startEnergy.toInt.toNat
  gems : world.gems + world.here.hasGem.toNat ≤ moves + 1

/-- A gem that is reached for is moved from under the robot into its hands. -/
theorem World.gems_here_pickUp (world : World)
    : world.pickUp.gems + world.pickUp.here.hasGem.toNat
      = world.gems + world.here.hasGem.toNat := by
  cases gem : world.here.hasGem with
  | false => rw [pickUp_of_no_gem gem, gem]
  | true =>
      have under : world.IsUnderRobot world.robot.x.toNat world.robot.y.toNat := ⟨rfl, rfl⟩
      have taken : world.pickUp.here.hasGem = false := by
        rw [here, robot_pickUp, tile?_pickUp, if_pos under]
        cases world.grid.tile? world.robot.x.toNat world.robot.y.toNat <;> rfl
      rw [taken, pickUp_of_gem gem]
      rfl

namespace World.Bounded

variable {level : Level} {moves : Nat} {world : World}

theorem start (valid : level.validate = .ok ()) : World.Bounded level 0 (.start level) := by
  obtain ⟨-, -, startsOn, -⟩ := Level.validate_eq_ok_iff.mp valid
  simp only [Level.onGrid, Bool.and_eq_true, decide_eq_true_eq] at startsOn
  obtain ⟨⟨⟨west, east⟩, north⟩, south⟩ := startsOn
  exact {
    column := ⟨west, east⟩
    row := ⟨north, south⟩
    spent := Nat.zero_le _
    gems := Nat.add_le_add_left (Bool.toNat_le _) 0
  }

theorem face (h : World.Bounded level moves world) (direction : Direction)
    : World.Bounded level moves (world.face direction) where
  column := h.column
  row := h.row
  spent := h.spent
  gems := h.gems

theorem pickUp (h : World.Bounded level moves world)
    : World.Bounded level moves world.pickUp where
  column := by simpa using h.column
  row := by simpa using h.row
  spent := h.spent
  gems := (World.gems_here_pickUp world).trans_le h.gems

/-- Coming to the tile ahead spends energy that was there, and adds no more than the one gem that
may lie there.
-/
theorem arrive (h : World.Bounded level moves world) (shows : World.Shows level world)
    (accounts : World.Accounts level moves world) (left : 0 < world.energy) {x y : Nat}
    (ahead : world.ahead? = some (x, y))
    : World.Bounded level (moves + 1) (world.arrive x y) := by
  simp only [World.ahead?, World.cell?, Option.ite_none_right_eq_some, Option.some.injEq,
    Prod.mk.injEq, shows.square.rows] at ahead
  obtain ⟨⟨west, east, north, south⟩, column, row⟩ := ahead
  have spent := accounts.energy
  have gems := h.gems
  have one : ((world.arrive x y).here.hasGem).toNat ≤ 1 := Bool.toNat_le _
  have same : (world.arrive x y).gems = world.gems := rfl
  exact {
    column := by
      simp only [World.arrive, Level.span]
      omega
    row := by
      simp only [World.arrive, Level.span]
      omega
    spent := by omega
    gems := by omega
  }

theorem move (h : World.Bounded level moves world) (shows : World.Shows level world)
    (accounts : World.Accounts level moves world) {next : World}
    (moved : world.moveForward = .ok next)
    : World.Bounded level (moves + 1) next := by
  obtain ⟨left, x, y, ahead, -, rfl⟩ := World.arrives_of_moveForward moved
  exact (h.arrive shows accounts left ahead).pickUp

/-- Whatever has come from a valid level is bounded, by induction over how it has. -/
theorem of_played (valid : level.validate = .ok ()) (h : World.Played level moves world)
    : World.Bounded level moves world := by
  induction h with
  | start => exact .start valid
  | face _ direction ih => exact ih.face direction
  | pickUp _ ih => exact ih.pickUp
  | move before moved ih => exact ih.move (.of_played before) (.of_played before) moved

end World.Bounded

-----------------------------------------------------------------------------------------
-- No check fails
-----------------------------------------------------------------------------------------

/-- Elements that are on a grid are put on tiles that are there, by induction over them. -/
theorem foldlM_checkedPut? {n : Nat} {grid : Grid} (square : grid.IsSquare n)
    {elements : List Element} (inside : Within n elements)
    : elements.foldlM Grid.checkedPut? grid = some (elements.foldl Grid.put grid) := by
  induction elements generalizing grid with
  | nil => rfl
  | cons element elements ih =>
      obtain ⟨⟨⟨left, right⟩, ⟨top, bottom⟩⟩, later⟩ := List.forall_mem_cons.mp inside
      obtain ⟨tile, found⟩ := square.tile?_eq_some
        (x := element.place.x.toInt.toNat) (y := element.place.y.toInt.toNat)
        (by omega) (by omega)
      have there
          : grid.lookUp? element.place.x.toInt element.place.y.toInt = some tile := by
        rw [Grid.lookUp?, if_pos ⟨left, top⟩, found]
      have put : grid.checkedPut? element = some (grid.put element) := by
        rw [Grid.checkedPut?, there]
        rfl
      rw [List.foldlM_cons, put, List.foldl_cons]
      exact ih (square.update ..) later

/-- Putting the elements of a sound level on the grid never leaves the range of an index. -/
theorem World.checkedStart?_eq {level : Level} (sound : level.Sound)
    : checkedStart? level = some (start level) := by
  rw [checkedStart?, foldlM_checkedPut? (Grid.isSquare_square _) sound.elements]
  rfl

theorem World.checkedOfLevel?_eq (level : Level)
    : checkedOfLevel? level = some (ofLevel level) := by
  unfold checkedOfLevel? ofLevel
  cases valid : level.validate with
  | error error => rfl
  | ok _ =>
      simp only [checkedStart?_eq (Level.sound_of_validate valid)]
      rfl

section

variable {level : Level} {moves : Nat} {world : World}

theorem World.Shows.checkedHere?_eq (shows : World.Shows level world)
    : world.checkedHere? = some world.here := by
  obtain ⟨x, y, tile, column, row, found, -⟩ := shows.robot
  simp [World.checkedHere?, World.here, Grid.lookUp?, column, row, found]

/-- What is ahead on the grid has a tile. -/
theorem World.Shows.tile?_ahead (shows : World.Shows level world) {x y : Nat}
    (ahead : world.ahead? = some (x, y))
    : ∃ tile, world.grid.tile? x y = some tile := by
  obtain ⟨left, top⟩ := World.ahead?_within ahead
  rw [shows.square.rows] at left top
  exact shows.square.tile?_eq_some left top

/-- A step changes a coordinate by no more than one, for which its word has room. -/
theorem World.Bounded.checkedAhead?_eq (bounded : World.Bounded level moves world)
    : world.checkedAhead? = some world.ahead? := by
  obtain ⟨west, east⟩ := bounded.column
  obtain ⟨north, south⟩ := bounded.row
  have reach := level.span_lt
  have across : -1 ≤ world.robot.direction.dx ∧ world.robot.direction.dx ≤ 1 := by
    cases world.robot.direction <;> decide
  have down : -1 ≤ world.robot.direction.dy ∧ world.robot.direction.dy ≤ 1 := by
    cases world.robot.direction <;> decide
  rw [World.checkedAhead?, fitInt32?_eq (by omega) (by omega), fitInt32?_eq (by omega) (by omega)]
  rfl

theorem World.Bounded.checkedTileAhead?_eq (bounded : World.Bounded level moves world)
    (shows : World.Shows level world)
    : world.checkedTileAhead? = some world.tileAhead? := by
  rw [World.checkedTileAhead?, bounded.checkedAhead?_eq, World.tileAhead?]
  cases ahead : world.ahead? with
  | none => rfl
  | some place =>
      obtain ⟨tile, found⟩ := shows.tile?_ahead ahead
      simp [found]

/-- One more gem can be counted, as there have been no more than one for each move and one. -/
theorem World.Bounded.checkedPickUp?_eq (bounded : World.Bounded level moves world)
    (shows : World.Shows level world)
    : world.checkedPickUp? = some world.pickUp := by
  have gems := bounded.gems
  have spent := bounded.spent
  have energy : level.startEnergy.toInt < 0x80000000 := level.startEnergy.toInt_lt
  rw [World.checkedPickUp?, shows.checkedHere?_eq]
  cases gem : world.here.hasGem with
  | false => simp [gem, World.pickUp_of_no_gem gem]
  | true =>
      have fits : fitWord32? (world.gems + 1) = some (world.gems + 1) := by
        rw [gem, Bool.toNat_true] at gems
        exact if_pos (by omega)
      simp [gem, World.pickUp_of_gem gem, fits]

/-- The place and the energy with which the robot comes to the tile ahead fit. -/
theorem World.Bounded.fits_arrive {x y : Nat}
    (arrived : World.Bounded level (moves + 1) (world.arrive x y))
    (accounts : World.Accounts level moves world) (left : 0 < world.energy)
    : fitInt32? x = some x
      ∧ fitInt32? y = some y
      ∧ fitInt32? (world.energy - 1) = some (world.energy - 1) := by
  have reach := level.span_lt
  have column : (x : Int) < level.span := arrived.column.2
  have row : (y : Int) < level.span := arrived.row.2
  have spent := accounts.energy
  have energy : level.startEnergy.toInt < 0x80000000 := level.startEnergy.toInt_lt
  refine ⟨fitInt32?_eq ?_ ?_, fitInt32?_eq ?_ ?_, fitInt32?_eq ?_ ?_⟩
  all_goals omega

/-- Each of the checks in a step forward succeeds, in the order in which they are made. -/
theorem World.Bounded.checkedMoveForward?_eq (bounded : World.Bounded level moves world)
    (shows : World.Shows level world) (accounts : World.Accounts level moves world)
    : world.checkedMoveForward? = some world.moveForward := by
  rw [World.checkedMoveForward?, World.moveForward, bounded.checkedAhead?_eq]
  split
  · rfl
  next left =>
    cases ahead : world.ahead? with
    | none => rfl
    | some place =>
        obtain ⟨x, y⟩ := place
        obtain ⟨tile, found⟩ := shows.tile?_ahead ahead
        cases wall : tile.isWall with
        | true => simp [found, wall]
        | false =>
            have free : ((world.grid.tile? x y).getD {}).isWall = false := by
              rw [found]
              exact wall
            have energy : 0 < world.energy := by omega
            have arrived := bounded.arrive shows accounts energy ahead
            obtain ⟨column, row, rest⟩ := arrived.fits_arrive accounts energy
            have picked := arrived.checkedPickUp?_eq (shows.arrive ahead free)
            have here : (world.arrive x y).here = tile := by
              simp [World.here, World.arrive, found]
            rw [World.arrive] at picked
            cases gem : tile.hasGem with
            | true => simp [found, wall, column, row, rest, gem, picked]
            | false =>
                have nothing : (world.arrive x y).pickUp = world.arrive x y :=
                  World.pickUp_of_no_gem (by rw [here, gem])
                rw [World.arrive] at nothing
                simp [found, wall, column, row, rest, gem, nothing]

theorem World.Shows.checkedGoalMet?_eq (shows : World.Shows level world)
    : world.checkedGoalMet? = some world.goalMet := by
  unfold World.checkedGoalMet? World.goalMet
  rw [shows.checkedHere?_eq]
  cases world.level.goal with
  | none => rfl
  | some goal => cases goal <;> rfl

/-- Of a world that shows its level within bounds and with its accounts in order, everything stays
in range, by cases over the commands and the conditions.
-/
theorem World.Bounded.staysInRange (bounded : World.Bounded level moves world)
    (shows : World.Shows level world) (accounts : World.Accounts level moves world)
    (same : world.level = level) (sound : level.Sound)
    : world.StaysInRange where
  commands command := by
    cases command with
    | move =>
        rw [World.checkedAfter?, bounded.checkedMoveForward?_eq shows accounts]
        rfl
    | turnLeft => rfl
    | turnRight => rfl
    | face direction => rfl
    | pickUp => exact bounded.checkedPickUp?_eq shows
    | reset => exact World.checkedStart?_eq (same ▸ sound)
    | load level =>
        rw [World.checkedAfter?, World.checkedOfLevel?_eq]
        rfl
  conditions condition := by
    cases condition with
    | gemAhead | pathClear =>
        rw [Condition.checked?, bounded.checkedTileAhead?_eq shows]
        rfl
    | tileIsSafe =>
        rw [Condition.checked?, shows.checkedHere?_eq]
        rfl
    | energyPositive => rfl
  goal := shows.checkedGoalMet?_eq

end

-----------------------------------------------------------------------------------------
-- Whatever is done with a world
-----------------------------------------------------------------------------------------

/-- Only valid levels are ever applied, by cases over the command. -/
theorem History.valid_after {history : History} (valid : history.level.validate = .ok ())
    (command : Command)
    : (history.after command).level.validate = .ok () := by
  cases command with
  | move =>
      rw [after]
      split <;> exact valid
  | load level =>
      rw [after]
      split
      next built => exact (World.ofLevel_eq_ok_iff.mp built).1
      next => exact valid
  | _ => exact valid

theorem History.valid_follow {history : History} (valid : history.level.validate = .ok ())
    (commands : List Command)
    : (history.follow commands).level.validate = .ok () := by
  induction commands generalizing history with
  | nil => exact valid
  | cons command commands ih => exact ih (valid_after valid command)

/-- Building a world, and whatever is done with it or asked of it afterwards, looks up only tiles
that are there and works out only numbers that fit their words. For the robot stays within the
coordinates that a word can hold, and has no more gems than one for each move since the level was
applied or the world reset, and one.
-/
theorem operations_stay_in_range {level : Level} {world : World}
    (built : World.ofLevel level = .ok world) (commands : List Command)
    : let last := History.follow { world, level, moves := 0 } commands
      World.checkedOfLevel? level = some (.ok world)
      ∧ last.world = commands.foldl World.after world
      ∧ last.world.StaysInRange
      ∧ (0 ≤ last.world.robot.x ∧ last.world.robot.x < 0x7FFFFFFF)
      ∧ (0 ≤ last.world.robot.y ∧ last.world.robot.y < 0x7FFFFFFF)
      ∧ last.world.gems ≤ last.moves + 1 := by
  intro last
  have played := History.played_of_ofLevel built commands
  have valid : last.level.validate = .ok () :=
    History.valid_follow (World.ofLevel_eq_ok_iff.mp built).1 commands
  have bounded : World.Bounded last.level last.moves last.world := .of_played valid played
  obtain ⟨west, east⟩ := bounded.column
  obtain ⟨north, south⟩ := bounded.row
  have reach := last.level.span_lt
  have gems := bounded.gems
  refine ⟨(World.checkedOfLevel?_eq level).trans (congrArg some built),
    History.world_follow _ commands,
    bounded.staysInRange (.of_played played) (.of_played played) played.level_eq played.sound,
    ⟨west, ?_⟩, ⟨north, ?_⟩, ?_⟩
  all_goals omega

/-- Two gems under the robot at the start are one that it takes, and the next one lies on the tile
that it comes to: it holds as many gems as it can after one move. The wall stops it from another.
-/
theorem operations_stay_in_range_with_all_gems
    : let level : Level :=
        { elements := [⟨.gem, ⟨0, 0⟩⟩, ⟨.gem, ⟨0, 0⟩⟩, ⟨.gem, ⟨1, 0⟩⟩, ⟨.wall, ⟨2, 0⟩⟩] }
      let world := World.start level
      let commands : List Command := [.pickUp, .pickUp, .move, .pickUp, .move]
      let last := History.follow { world, level, moves := 0 } commands
      World.ofLevel level = .ok world
      ∧ last.moves = 1
      ∧ last.world.gems = 2
      ∧ World.checkedOfLevel? level = some (.ok world)
      ∧ last.world = commands.foldl World.after world
      ∧ last.world.StaysInRange
      ∧ (0 ≤ last.world.robot.x ∧ last.world.robot.x < 0x7FFFFFFF)
      ∧ (0 ≤ last.world.robot.y ∧ last.world.robot.y < 0x7FFFFFFF)
      ∧ last.world.gems ≤ last.moves + 1 :=
  ⟨by rfl, by decide +kernel, by decide +kernel, operations_stay_in_range (by rfl) _⟩

end RobotPuzzle
