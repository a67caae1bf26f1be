import RobotPuzzle.Script.Error
import RobotPuzzle.Script.Excerpt
import RobotPuzzle.Text.Decimal

/-! The flat reader: the excerpts of a text one after the other, and those of their bodies. As
a body goes up to the first closing brace, blocks do not nest.
-/

namespace RobotPuzzle.Script

/-- The count that a parameter writes; a plus sign may stand before it. -/
def readCount (param : String) : Except ScriptError UInt32 :=
  match Text.readWord32? (Text.dropPlus param.toList) with
  | some count => .ok count
  | none => .error (.badCount param)

mutual

/-- The statement that an excerpt writes, with its body read. -/
def Excerpt.statement (excerpt : Excerpt) : Except ScriptError Statement :=
  match excerpt.kind with
  | .times => do
      let count ← readCount excerpt.param
      return .times count (← readFlat excerpt.bodyText)
  | .when => return .when excerpt.param (← readFlat excerpt.bodyText)
  | .loop => return .loop excerpt.param (← readFlat excerpt.bodyText)
  | .act =>
      match Action.ofName? excerpt.param with
      | some action => return .act action
      | none => .error (.unknownAction excerpt.param)
termination_by 2 * excerpt.bodyText.length + 1

/-- Reads all statements of a text, as far as they can be found. -/
def readFlat (text : List Char) : Except ScriptError Script :=
  match _found : nextExcerpt? text with
  | none => return []
  | some (excerpt, rest) => do
      let statement ← excerpt.statement
      return statement :: (← readFlat rest)
termination_by 2 * text.length
decreasing_by
  · have := (length_nextExcerpt? ‹_›).1
    omega
  · have := (length_nextExcerpt? ‹_›).2
    omega

end

end RobotPuzzle.Script
