import RobotPuzzle.Text.Blank
import RobotPuzzle.World

/-! The questions that a script can ask about the world. -/

namespace RobotPuzzle

/-- The conditions that are known by name. -/
inductive Condition where
  | gemAhead
  | pathClear
  | tileIsSafe
  | energyPositive
deriving DecidableEq, Repr

namespace Condition

def name : Condition → String
  | gemAhead => "gemAhead"
  | pathClear => "pathClear"
  | tileIsSafe => "tileIsSafe"
  | energyPositive => "energy>0"

def all : List Condition :=
  [energyPositive, gemAhead, pathClear, tileIsSafe]

def holds : Condition → World → Bool
  | gemAhead, world => world.gemAhead
  | pathClear, world => world.pathClear
  | tileIsSafe, world => world.tileIsSafe
  | energyPositive, world => 0 < world.energy

/-- The condition of this name. Blank characters in the name do not matter. -/
def find? (name : String) : Option Condition :=
  let key := String.ofList (Text.squeeze name.toList)
  all.find? (·.name == key)

end Condition

/-- The condition of this name holds. One that nobody knows never does. -/
def World.satisfies (world : World) (name : String) : Bool :=
  (Condition.find? name).any (·.holds world)

end RobotPuzzle
