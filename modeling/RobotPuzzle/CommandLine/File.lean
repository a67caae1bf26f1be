/-! Files as the program sees them: a path yields a text or a reason why there is none. -/

namespace RobotPuzzle.CommandLine

/-- Why the text of a file cannot be had. -/
inductive FileError where
  | missing
  | notDirectory
  | isDirectory
  | nameTooLong
  | notUtf8
  | other (message : String)
deriving DecidableEq, Repr

namespace FileError

/-- The reason that goes with the number of a system error. -/
def ofNumber? : Nat → Option FileError
  | 2 => some missing
  | 20 => some notDirectory
  | 21 => some isDirectory
  | 36 => some nameTooLong
  | _ => none

def message : FileError → String
  | missing => "No such file or directory (os error 2)"
  | notDirectory => "Not a directory (os error 20)"
  | isDirectory => "Is a directory (os error 21)"
  | nameTooLong => "File name too long (os error 36)"
  | notUtf8 => "stream did not contain valid UTF-8"
  | other message => message

end FileError

/-- The text of a file that holds these bytes. -/
def decodeFile (bytes : ByteArray) : Except FileError String :=
  match String.fromUTF8? bytes with
  | some text => .ok text
  | none => .error .notUtf8

/-- How the texts of files are had, by their paths. -/
abbrev Files :=
  String → Except FileError String

end RobotPuzzle.CommandLine
