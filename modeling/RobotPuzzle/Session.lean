import RobotPuzzle.Arrow
import Std.Data.TreeMap

/-! What a player has clicked together so far: a sequence of arrows, and the sequences that
have been given names.
-/

namespace RobotPuzzle

/-- The current sequence and the saved functions, in the order of their names. -/
structure Session where
  sequence : List Arrow := []
  functions : Std.TreeMap String (List Arrow) := {}

/-- Why a sequence was not saved. -/
inductive SessionError where
  | emptySequence
deriving DecidableEq, Repr

def SessionError.message : SessionError → String
  | emptySequence => "Please create a sequence first!"

namespace Session

def push (session : Session) (arrow : Arrow) : Session :=
  { session with sequence := session.sequence ++ [arrow] }

def clear (session : Session) : Session :=
  { session with sequence := [] }

/-- The session with its sequence saved under a name, in place of what had that name. An
empty sequence cannot be saved.
-/
def save (session : Session) (name : String) : Except SessionError Session :=
  if session.sequence.isEmpty then
    .error .emptySequence
  else
    .ok { session with functions := session.functions.insert name session.sequence }

def function? (session : Session) (name : String) : Option (List Arrow) :=
  session.functions[name]?

/-- The names of the saved functions, in ascending order. -/
def functionNames (session : Session) : List String :=
  session.functions.keys

end Session

end RobotPuzzle
