import RobotPuzzle.Level.Basic

/-! What makes a level usable, and what is said of one that is not. -/

namespace RobotPuzzle

/-- Why no world can be built from a level, or no level from a document. -/
inductive LevelError where
  | emptyGrid
  | startOffGrid (place : Position)
  | startOnWall (place : Position)
  | elementOffGrid (element : Element)
  /-- The document cannot be read as a level. Why it cannot, and in which line and column that
  shows, is left out.
  -/
  | malformed
deriving DecidableEq, Repr

def Position.text (place : Position) : String :=
  "(" ++ toString place.x.toInt ++ ", " ++ toString place.y.toInt ++ ")"

/-- The message for the player. For a document that cannot be read, the reason that would stand
behind `invalid level: ` is left out; one text stands for all of them.
-/
def LevelError.message : LevelError → String
  | emptyGrid => "the grid must be at least one tile wide"
  | startOffGrid place => "the robot starts at " ++ place.text ++ ", which is off the grid"
  | startOnWall place => "the robot starts at " ++ place.text ++ ", which is a wall"
  | elementOffGrid element =>
      element.kind.title ++ " at " ++ element.place.text ++ " is off the grid"
  | malformed => "invalid level: the text does not describe a level"

namespace Level

/-- How far coordinates reach: the size as coordinates see it. -/
def span (level : Level) : Int :=
  signed32 level.size.toNat

/-- The place lies on the grid of the level. -/
def onGrid (level : Level) (place : Position) : Bool :=
  0 ≤ place.x.toInt && place.x.toInt < level.span
    && 0 ≤ place.y.toInt && place.y.toInt < level.span

/-- A world can be built from this level. Of several faults the first in this order is
reported: an empty grid, the first element off the grid, a start off the grid, a start on a
wall.
-/
def validate (level : Level) : Except LevelError Unit :=
  if level.size = 0 then
    .error .emptyGrid
  else
    match level.elements.find? fun element => !level.onGrid element.place with
    | some element => .error (.elementOffGrid element)
    | none =>
        if !level.onGrid level.startPosition then
          .error (.startOffGrid level.startPosition)
        else if level.elements.contains ⟨.wall, level.startPosition⟩ then
          .error (.startOnWall level.startPosition)
        else
          .ok ()

end Level

end RobotPuzzle
