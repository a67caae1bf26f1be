/-! Headings of the robot. The vertical coordinate grows to the south, so north is up on the
drawn grid.
-/

namespace RobotPuzzle

/-- The way the robot is facing; east unless a level says otherwise. -/
inductive Direction where
  | north
  | east
  | south
  | west
deriving DecidableEq, Repr

instance : Inhabited Direction := ⟨.east⟩

namespace Direction

def left : Direction → Direction
  | north => west
  | west => south
  | south => east
  | east => north

def right : Direction → Direction
  | north => east
  | east => south
  | south => west
  | west => north

/-- The change of the horizontal coordinate in a step forward. -/
def dx : Direction → Int
  | north | south => 0
  | east => 1
  | west => -1

/-- The change of the vertical coordinate in a step forward. -/
def dy : Direction → Int
  | north => -1
  | south => 1
  | east | west => 0

def mark : Direction → Char
  | north => '^'
  | east => '>'
  | south => 'v'
  | west => '<'

def name : Direction → String
  | north => "north"
  | east => "east"
  | south => "south"
  | west => "west"

def all : List Direction :=
  [north, east, south, west]

@[simp] theorem left_right (d : Direction) : d.right.left = d := by
  cases d <;> rfl

@[simp] theorem right_left (d : Direction) : d.left.right = d := by
  cases d <;> rfl

end Direction

end RobotPuzzle
