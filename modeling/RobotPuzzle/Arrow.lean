import RobotPuzzle.Direction
import RobotPuzzle.Script.Basic

/-! Programs that are put together by clicking: sequences of arrows, and a counted loop. -/

namespace RobotPuzzle

/-- An arrow button. Arrows do not depend on where the robot looks: up is always north. -/
inductive Arrow where
  | up
  | down
  | left
  | right
deriving DecidableEq, Repr

namespace Arrow

def heading : Arrow → Direction
  | up => .north
  | down => .south
  | left => .west
  | right => .east

def name : Arrow → String
  | up => "Up"
  | down => "Down"
  | left => "Left"
  | right => "Right"

/-- The arrow for a character: a drawn one, or the first letter of its name in either case. -/
def ofChar? : Char → Option Arrow
  | '^' | 'u' | 'U' => some up
  | 'v' | 'd' | 'D' => some down
  | '<' | 'l' | 'L' => some left
  | '>' | 'r' | 'R' => some right
  | _ => none

/-- The arrows for the characters, or the first character that is no arrow. -/
def ofChars : List Char → Except Char (List Arrow)
  | [] => .ok []
  | c :: chars =>
      match ofChar? c with
      | none => .error c
      | some arrow => (ofChars chars).map (arrow :: ·)

end Arrow

/-- The turns, as few as possible, from one heading to another. -/
def turnsBetween (current target : Direction) : List Action :=
  if current = target then
    []
  else if current.left = target then
    [.turnLeft]
  else if current.right = target then
    [.turnRight]
  else
    [.turnRight, .turnRight]

/-- The script of a sequence of arrows: for each, the robot turns to its heading and takes a
step. It begins with the heading `current`.
-/
def arrowScript (current : Direction) : List Arrow → Script
  | [] => []
  | arrow :: arrows =>
      (turnsBetween current arrow.heading).map .act ++ .act .move
        :: arrowScript arrow.heading arrows

/-- The script that picks up what is there and takes a step, `count` times over. -/
def gatherScript (count : UInt32) : Script :=
  [.times count [.act .pickUp, .act .move]]

end RobotPuzzle
