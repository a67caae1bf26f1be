import RobotPuzzle.Executor.Basic
import RobotPuzzle.Text.Decimal

/-! What the words of the command line ask for. -/

namespace RobotPuzzle.CommandLine

/-- What the robot is to do. -/
inductive Program where
  /-- The script in a file. -/
  | script (path : String)
  /-- A sequence of arrow characters. -/
  | arrows (text : String)
  /-- The gathering loop, so many times. -/
  | times (count : UInt32)
deriving DecidableEq, Repr

/-- A whole command line. -/
structure Arguments where
  level : String
  program : Program
  flat : Bool
  delay : Delay
  steps : Bool
  json : Bool
deriving DecidableEq, Repr

/-- What has been given so far, the paths last first. Nothing can be given twice. -/
structure Draft where
  paths : List String := []
  arrows : Option String := none
  times : Option UInt32 := none
  delay : Option Delay := none
  flat : Bool := false
  steps : Bool := false
  json : Bool := false

/-- The number that the digits write, up to a limit. -/
def digitsUpTo? (limit : Nat) (digits : List Char) : Option Nat :=
  if digits ≠ [] ∧ digits.all Char.isDigit ∧ Text.digitsValue digits ≤ limit then
    some (Text.digitsValue digits)
  else
    none

/-- The number that the value of an option writes, from 0 up to a limit, with or without a
sign.
-/
def numberUpTo? (limit : Nat) (value : String) : Option Nat :=
  match value.toList with
  | '+' :: digits => digitsUpTo? limit digits
  | '-' :: digits => digitsUpTo? 0 digits
  | digits => digitsUpTo? limit digits

/-- The options that take a value. -/
inductive ValueOption where
  | arrows
  | times
  | delay
deriving DecidableEq, Repr

/-- The options that stand alone. -/
inductive Switch where
  | flat
  | steps
  | json
deriving DecidableEq, Repr

def ValueOption.ofName? : String → Option ValueOption
  | "arrows" => some arrows
  | "repeat" => some times
  | "delay" => some delay
  | _ => none

def Switch.ofName? : String → Option Switch
  | "flat" => some flat
  | "steps" => some steps
  | "json" => some json
  | _ => none

namespace Draft

/-- The draft with one more path, which may not be empty. -/
def addPath (draft : Draft) (path : String) : Option Draft :=
  if path = "" ∨ 2 ≤ draft.paths.length then
    none
  else
    some { draft with paths := path :: draft.paths }

/-- The draft with an option set to a value. -/
def setOption (draft : Draft) (value : String) : ValueOption → Option Draft
  | .arrows =>
      if draft.arrows.isSome then none else some { draft with arrows := some value }
  | .times =>
      if draft.times.isSome then
        none
      else
        (numberUpTo? 0xFFFFFFFF value).map fun n => { draft with times := some (.ofNat n) }
  | .delay =>
      if draft.delay.isSome then
        none
      else
        (numberUpTo? 0xFFFF value).map fun n =>
          { draft with delay := some (.ofMillis n) }

/-- The draft with a switch turned on. -/
def turnOn (draft : Draft) : Switch → Option Draft
  | .flat => if draft.flat then none else some { draft with flat := true }
  | .steps => if draft.steps then none else some { draft with steps := true }
  | .json => if draft.json then none else some { draft with json := true }

end Draft

/-- What a word of the command line is. -/
inductive Word where
  | path (text : String)
  | onlyPaths
  | switch (switch : Switch)
  | option (option : ValueOption)
  | setting (option : ValueOption) (value : String)
  /-- Any other word with a dash in front, calls for help included. -/
  | unknown
deriving DecidableEq, Repr

/-- The kind of a word with two dashes in front, of which these are the characters behind. -/
def Word.ofLong (chars : List Char) : Word :=
  let name := String.ofList (chars.takeWhile (· != '='))
  match chars.dropWhile (· != '=') with
  | [] =>
      match Switch.ofName? name, ValueOption.ofName? name with
      | some found, _ => .switch found
      | none, some found => .option found
      | none, none => .unknown
  | _ :: value =>
      match ValueOption.ofName? name with
      | some found => .setting found (String.ofList value)
      | none => .unknown

/-- The kind of a word. A single dash is a path. -/
def Word.ofText (text : String) : Word :=
  match text.toList with
  | ['-', '-'] => .onlyPaths
  | '-' :: '-' :: chars => .ofLong chars
  | '-' :: _ :: _ => .unknown
  | _ => .path text

/-- The draft after all words. Behind two dashes there are only paths, and what looks like an
option is not taken as the value of one.
-/
def Draft.take (draft : Draft) : List String → Option Draft
  | [] => some draft
  | word :: words =>
      match Word.ofText word with
      | .path path => do (← draft.addPath path).take words
      | .onlyPaths => words.foldlM addPath draft
      | .switch switch => do (← draft.turnOn switch).take words
      | .setting option value => do (← draft.setOption value option).take words
      | .option option =>
          match words with
          | [] => none
          | value :: words =>
              match Word.ofText value with
              | .path value => do (← draft.setOption value option).take words
              | _ => none
      | .unknown => none

/-- The one program that is given. -/
def Draft.program? (draft : Draft) (script : Option String) : Option Program :=
  match script, draft.arrows, draft.times with
  | some path, none, none => some (.script path)
  | none, some text, none => some (.arrows text)
  | none, none, some count => some (.times count)
  | _, _, _ => none

/-- The command line made of a level, possibly a script, and options. -/
def Draft.arguments? (draft : Draft) (level : String) (script : Option String)
    : Option Arguments :=
  (draft.program? script).map fun program =>
    {
      level
      program
      flat := draft.flat
      delay := draft.delay.getD .zero
      steps := draft.steps
      json := draft.json
    }

/-- The command line that the words make, if they make one. Calls for help, `--help` and `-h`, are
left out: they are unknown words here, and make none.
-/
def Arguments.read? (words : List String) : Option Arguments := do
  let draft ← ({} : Draft).take words
  match draft.paths with
  | [level] => draft.arguments? level none
  | [script, level] => draft.arguments? level (some script)
  | _ => none

end RobotPuzzle.CommandLine
