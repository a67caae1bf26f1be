import RobotPuzzle.Direction
import RobotPuzzle.Grid

/-! What can be seen of a world at one moment. -/

namespace RobotPuzzle

/-- Where the robot stands and where it looks. -/
structure Robot where
  x : Int
  y : Int
  direction : Direction
deriving DecidableEq, Repr

/-- The grid, the robot on it, and what the robot has left and has gathered. -/
structure Snapshot where
  grid : Grid
  robot : Robot
  energy : Int
  gems : Nat
deriving DecidableEq, Repr

end RobotPuzzle
