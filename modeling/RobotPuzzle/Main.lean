import RobotPuzzle.CommandLine.Play

/-! The program: reads the files that its arguments name, and prints the report. -/

namespace RobotPuzzle.CommandLine

/-- The reason for a system error, whose number may come with its sign turned. -/
def reason (details : String) (code : UInt32) : FileError :=
  let number := if code < 0x80000000 then code else 0 - code
  match FileError.ofNumber? number.toNat with
  | some error => error
  | none => .other (details ++ " (os error " ++ toString number ++ ")")

/-- The reason why the system did not give out a file. -/
def systemReason : IO.Error → FileError
  | .noFileOrDirectory _ code details => reason details code
  | .permissionDenied _ code details => reason details code
  | .inappropriateType _ code details => reason details code
  | .invalidArgument _ code details => reason details code
  | error => .other (toString error)

/-- The text of a file, or why it cannot be had. -/
def readText (path : String) : IO (Except FileError String) := do
  try
    return decodeFile (← IO.FS.readBinFile path)
  catch error =>
    return .error (systemReason error)

/-- The texts of the files that the arguments name. -/
def openFiles (arguments : Arguments) : IO Files := do
  let level ← readText arguments.level
  match arguments.program with
  | .script path => do
      let script ← readText path
      return fun name => if name = path then script else level
  | _ => return fun _ => level

def printReport (report : Report) : IO UInt32 := do
  for frame in report.frames do
    IO.print frame
    (← IO.getStdout).flush
    IO.sleep report.pause.millis.toUInt32
  IO.print report.closing
  return report.code.toUInt32

def usage : String :=
  "usage: LEVEL (SCRIPT | --arrows ARROWS | --repeat COUNT) [--flat] [--delay MILLIS] "
    ++ "[--steps] [--json]"

/-- Plays the level that the words name, or says how the program is called. -/
def run (words : List String) : IO UInt32 := do
  match Arguments.read? words with
  | none =>
      IO.eprintln usage
      return 2
  | some arguments => printReport (report (← openFiles arguments) arguments)

end RobotPuzzle.CommandLine

def main (words : List String) : IO UInt32 :=
  RobotPuzzle.CommandLine.run words
