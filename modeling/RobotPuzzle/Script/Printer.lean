import RobotPuzzle.Script.Basic

/-! The text of a script, in the spelling that the strict reader understands. -/

namespace RobotPuzzle

/-- A condition as it stands in a header: the comparison of energy, or a call. -/
def conditionText (condition : String) : List Char :=
  if condition = "energy>0" then
    "energy > 0".toList
  else
    condition.toList ++ ['(', ')']

mutual

def Statement.chars : Statement → List Char
  | .act action => action.name.toList ++ ['(', ')']
  | .times count body =>
      "repeat(".toList ++ Nat.toDigits 10 count.toNat ++ [')', ' ']
        ++ '\x7b' :: bodyChars body
  | .when condition body =>
      "if(".toList ++ conditionText condition ++ [')', ' '] ++ '\x7b' :: bodyChars body
  | .loop condition body =>
      "while(".toList ++ conditionText condition ++ [')', ' '] ++ '\x7b' :: bodyChars body

/-- The text of a body from behind its opening brace to its closing brace. -/
def bodyChars : List Statement → List Char
  | [] => [' ', '\x7d']
  | statement :: body => ' ' :: statement.chars ++ bodyChars body

end

/-- The text of a script, one statement a line. -/
def Script.chars : Script → List Char
  | [] => []
  | [statement] => statement.chars
  | statement :: script => statement.chars ++ '\n' :: Script.chars script

def Script.text (script : Script) : String :=
  String.ofList script.chars

end RobotPuzzle
