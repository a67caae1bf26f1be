import RobotPuzzle.Script.Flat
import RobotPuzzle.Script.Strict

/-! The two ways of reading a script. -/

namespace RobotPuzzle.Script

/-- How the text of a script is read. -/
inductive Mode where
  /-- Blocks nest, and mistakes are errors. -/
  | strict
  /-- Statements are picked out of the text, and blocks do not nest. -/
  | flat
deriving DecidableEq, Repr

/-- The script that a text writes. -/
def Mode.read (mode : Mode) (text : String) : Except ScriptError Script :=
  match mode with
  | .strict => readStrict text.toList
  | .flat => readFlat text.toList

end RobotPuzzle.Script
