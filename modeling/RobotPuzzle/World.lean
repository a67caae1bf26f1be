import RobotPuzzle.Level.Validity

/-! Worlds: a snapshot together with the level that it came from. Every operation either
yields the next world or says why there is none.
-/

namespace RobotPuzzle

/-- A world in play. -/
structure World extends Snapshot where
  level : Level

/-- Why the robot refused to move. -/
inductive MoveError where
  | noEnergy
  | offGrid
  | blocked
deriving DecidableEq, Repr

def MoveError.message : MoveError → String
  | noEnergy => "No energy left!"
  | offGrid => "Robot hit the edge of the grid!"
  | blocked => "Robot hit a wall!"

/-- The tile after an element has been put on it; safety and danger exclude each other. -/
def Tile.put (tile : Tile) : ElementKind → Tile
  | .gem => { tile with hasGem := true }
  | .flag => { tile with hasFlag := true }
  | .wall => { tile with isWall := true }
  | .safe => { tile with isSafe := true, isDanger := false }
  | .danger => { tile with isSafe := false, isDanger := true }

/-- The grid after an element has been put on it. -/
def Grid.put (grid : Grid) (element : Element) : Grid :=
  grid.update element.place.x.toInt.toNat element.place.y.toInt.toNat (·.put element.kind)

namespace World

/-- The world as the level starts it; later elements are put on top of earlier ones. -/
def start (level : Level) : World where
  grid := level.elements.foldl Grid.put (.square level.size.toNat)
  robot := ⟨level.startPosition.x.toInt, level.startPosition.y.toInt, level.startDirection⟩
  energy := level.startEnergy.toInt
  gems := 0
  level := level

def ofLevel (level : Level) : Except LevelError World := do
  level.validate
  return start level

def reset (world : World) : World :=
  start world.level

/-- The column and row at the coordinates, unless they are off the grid. -/
def cell? (world : World) (x y : Int) : Option (Nat × Nat) :=
  let span := signed32 world.grid.size
  if 0 ≤ x ∧ x < span ∧ 0 ≤ y ∧ y < span then some (x.toNat, y.toNat) else none

/-- The tile at the coordinates, unless they are off the grid. -/
def tile? (world : World) (x y : Int) : Option Tile :=
  (world.cell? x y).bind fun (x, y) => world.grid.tile? x y

def here (world : World) : Tile :=
  (world.grid.tile? world.robot.x.toNat world.robot.y.toNat).getD {}

/-- The column and row in front of the robot, unless they are off the grid. -/
def ahead? (world : World) : Option (Nat × Nat) :=
  world.cell? (world.robot.x + world.robot.direction.dx)
    (world.robot.y + world.robot.direction.dy)

def tileAhead? (world : World) : Option Tile :=
  world.ahead?.bind fun (x, y) => world.grid.tile? x y

/-- The world with the robot pointed in a direction, at no cost. -/
def face (world : World) (direction : Direction) : World :=
  { world with robot.direction := direction }

def turnLeft (world : World) : World :=
  world.face world.robot.direction.left

def turnRight (world : World) : World :=
  world.face world.robot.direction.right

/-- The world after the gem under the robot is picked up; `none` where there is no gem. -/
def takeGem? (world : World) : Option World :=
  if world.here.hasGem then
    some
      { world with
        grid :=
          world.grid.update world.robot.x.toNat world.robot.y.toNat
            ({ · with hasGem := false })
        gems := world.gems + 1 }
  else
    none

/-- The world after the robot has reached for a gem, whether or not there was one. -/
def pickUp (world : World) : World :=
  world.takeGem?.getD world

/-- One step forward for one unit of energy, picking up a gem that lies there. Energy is
checked first, then the edge of the grid, then walls.
-/
def moveForward (world : World) : Except MoveError World :=
  if world.energy ≤ 0 then
    .error .noEnergy
  else
    match world.ahead? with
    | none => .error .offGrid
    | some (x, y) =>
        if ((world.grid.tile? x y).getD {}).isWall then
          .error .blocked
        else
          .ok
            (pickUp
              { world with
                robot.x := x
                robot.y := y
                energy := world.energy - 1 })

def gemAhead (world : World) : Bool :=
  world.tileAhead?.any (·.hasGem)

/-- The tile in front of the robot is on the grid and no wall. -/
def pathClear (world : World) : Bool :=
  world.tileAhead?.any (!·.isWall)

def tileIsSafe (world : World) : Bool :=
  world.here.isSafe

/-- The goal of the level holds. A level without a goal is never solved, and danger
underfoot spoils a safe arrival.
-/
def goalMet (world : World) : Bool :=
  match world.level.goal with
  | none => false
  | some .reachFlag => world.here.hasFlag
  | some (.collectGems count) => count.toNat ≤ world.gems
  | some .reachFlagSafely =>
      !world.here.isDanger && world.here.hasFlag && 0 < world.energy
  | some (.custom goal) => goal.holds world.toSnapshot

end World

/-- What a player can ask of a world. -/
inductive Command where
  | move
  | turnLeft
  | turnRight
  | face (direction : Direction)
  | pickUp
  | reset
  | load (level : Level)

/-- The world after a command. A move that is refused and a level that is not valid leave
it as it was.
-/
def World.after (world : World) : Command → World
  | .move => world.moveForward.toOption.getD world
  | .turnLeft => world.turnLeft
  | .turnRight => world.turnRight
  | .face direction => world.face direction
  | .pickUp => world.pickUp
  | .reset => world.reset
  | .load level => (ofLevel level).toOption.getD world

end RobotPuzzle
