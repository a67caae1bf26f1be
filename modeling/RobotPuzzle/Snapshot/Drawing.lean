import RobotPuzzle.Snapshot.Basic

/-! Snapshots as text drawings: a character a tile, a line a row. -/

namespace RobotPuzzle

namespace Snapshot

/-- The character for the tile in column `x` of row `y`: the robot hides what is under it,
and of several things on a tile the first of wall, gem, flag and danger shows.
-/
def glyph (snapshot : Snapshot) (x y : Nat) (tile : Tile) : Char :=
  if snapshot.robot.x = signed32 x ∧ snapshot.robot.y = signed32 y then
    snapshot.robot.direction.mark
  else if tile.isWall then
    '#'
  else if tile.hasGem then
    '*'
  else if tile.hasFlag then
    'F'
  else if tile.isDanger then
    '!'
  else
    '.'

def drawRow (snapshot : Snapshot) (y : Nat) (row : List Tile) : List Char :=
  row.mapIdx fun x tile => snapshot.glyph x y tile

def statusLine (snapshot : Snapshot) : String :=
  "energy: " ++ toString snapshot.energy ++ "  gems: " ++ toString snapshot.gems

/-- The grid drawn one line a row, then the status line without a line end. -/
def draw (snapshot : Snapshot) : String :=
  String.ofList
    ((snapshot.grid.rows.mapIdx fun y row => snapshot.drawRow y row ++ ['\n']).flatten
      ++ snapshot.statusLine.toList)

end Snapshot

end RobotPuzzle
