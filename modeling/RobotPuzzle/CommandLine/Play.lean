import RobotPuzzle.CommandLine.Arguments
import RobotPuzzle.CommandLine.File
import RobotPuzzle.Executor.Perform
import RobotPuzzle.Level.Document
import RobotPuzzle.Snapshot.Document
import RobotPuzzle.Snapshot.Drawing

/-! Playing a level from the command line. Files are read through a function, so all that a
program prints is a value.
-/

namespace RobotPuzzle.CommandLine

/-- Why nothing was played. -/
inductive PlayError where
  | levelFile (path : String) (error : FileError)
  | level (path : String) (error : LevelError)
  | scriptFile (path : String) (error : FileError)
  | badArrow (c : Char)
  | refused (refusal : Refusal)
deriving DecidableEq, Repr

/-- The message for the player. Where the level file cannot be read, the reason is given as
part of the message and once more as its cause.
-/
def PlayError.message : PlayError → String
  | levelFile path error =>
      "failed to load level " ++ path ++ ": failed to read level: " ++ error.message ++ ": "
        ++ error.message
  | level path error => "failed to load level " ++ path ++ ": " ++ error.message
  | scriptFile path error => "failed to open script " ++ path ++ ": " ++ error.message
  | badArrow c => Text.quotedChar c ++ " isn't an arrow"
  | refused refusal => refusal.message

/-- A game that was played to its end: what was shown after each action, the last first, and
the end.
-/
abbrev Game :=
  Finished (List String)

/-- The observer who draws the world after every action, or shows nothing. -/
def watcher (steps : Bool) : Observer (List String) :=
  fun executor frames =>
    (executor, (if steps then executor.world.draw ++ "\n\n" else "") :: frames)

def runProgram (files : Files) (arguments : Arguments) (executor : Executor)
    : Except PlayError Game :=
  let observer := watcher arguments.steps
  match arguments.program with
  | .script path =>
      match files path with
      | .error error => .error (.scriptFile path error)
      | .ok text =>
          let mode := if arguments.flat then Script.Mode.flat else .strict
          (executor.performText observer mode text []).finished.mapError .refused
  | .arrows text =>
      match Arrow.ofChars (Text.squeeze text.toList) with
      | .error c => .error (.badArrow c)
      | .ok arrows =>
          let script := arrowScript executor.world.robot.direction arrows
          (executor.perform observer script []).finished.mapError .refused
  | .times count =>
      (executor.perform observer (gatherScript count) []).finished.mapError .refused

/-- Loads the level and runs the program in it. -/
def playLevel (files : Files) (arguments : Arguments) : Except PlayError Game :=
  match files arguments.level with
  | .error error => .error (.levelFile arguments.level error)
  | .ok text =>
      match Level.ofText text >>= World.ofLevel with
      | .error error => .error (.level arguments.level error)
      | .ok world =>
          runProgram files arguments { world, settings := { delay := arguments.delay } }

/-- What the program prints: a frame for each action, after which it pauses, and a closing
text; then its exit code.
-/
structure Report where
  frames : List String
  pause : Delay
  closing : String
  code : UInt8

/-- The verdict on a game, and the exit code that goes with it. -/
def verdict : Outcome → String × UInt8
  | .succeeded => ("Success! Goal achieved!\n", 0)
  | .stillRunning => ("Not there yet.\n", 0)
  | .failed failure => ("Error: " ++ failure.message ++ "\n", 2)

/-- The report on a game: its frames, how it stands at the end, and the verdict. -/
def Report.ofGame (arguments : Arguments) (game : Game) : Report :=
  let snapshot := game.executor.world.toSnapshot
  let final := if arguments.json then snapshot.document else snapshot.draw
  let (message, code) := verdict game.outcome
  {
    frames := game.memory.reverse
    pause := arguments.delay
    closing := final ++ "\n" ++ message
    code
  }

def Report.ofError (error : PlayError) : Report where
  frames := []
  pause := .zero
  closing := error.message ++ "\n"
  code := 1

def Report.output (report : Report) : String :=
  String.join report.frames ++ report.closing

/-- The report on what a command line asks for. -/
def report (files : Files) (arguments : Arguments) : Report :=
  match playLevel files arguments with
  | .ok game => .ofGame arguments game
  | .error error => .ofError error

/-- The report on what a list of words asks for. Words that make no command line print nothing and
end with code 2: how the program is called is said on the error stream. Calls for help are taken
as such words, too. Their answer, a help text with code 0, is left out.
-/
def play (files : Files) (words : List String) : Report :=
  match Arguments.read? words with
  | some arguments => report files arguments
  | none => ⟨[], .zero, "", 2⟩

end RobotPuzzle.CommandLine
