import RobotPuzzle.Text.Blank
import RobotPuzzle.Text.Place
import RobotPuzzle.Text.Quoted

/-! Why a text is no script. -/

namespace RobotPuzzle

/-- What is wrong with the text of a script. -/
inductive ScriptError where
  /-- The text that begins with `near` cannot stand at this place. -/
  | notUnderstood (place : Text.Place) (near : String)
  | unknownAction (name : String)
  | badCount (digits : String)
deriving DecidableEq, Repr

namespace ScriptError

def message : ScriptError → String
  | notUnderstood place near =>
      "line " ++ toString place.line ++ ", column " ++ toString place.column
        ++ ": I don't understand " ++ Text.quoted near
  | unknownAction name => "I don't know how to " ++ name
  | badCount digits => digits ++ " is too many times to repeat"

/-- The error at the suffix `rest` of the text. What stands there is shown up to the first
blank, and no more than 20 characters of it.
-/
def atSuffix (text rest : List Char) : ScriptError :=
  .notUnderstood (.ofSuffix text rest) (String.ofList ((Text.firstWord rest).take 20))

end ScriptError

end RobotPuzzle
