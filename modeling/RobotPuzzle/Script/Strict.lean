import RobotPuzzle.Script.Basic
import RobotPuzzle.Script.Error
import RobotPuzzle.Script.Token
import RobotPuzzle.Text.Decimal

/-! The strict reader. It takes the tokens one after the other, keeps the blocks that are open
around the current place, and stops at the first token that cannot go on.
-/

namespace RobotPuzzle.Script

/-- Whether the body of a guarded block is run once or over and over. -/
inductive Guard where
  | when
  | loop
deriving DecidableEq, Repr

/-- What stands before the body of a block. -/
inductive Header where
  | times (count : UInt32)
  | guarded (guard : Guard) (condition : String)
deriving DecidableEq, Repr

def Header.close (body : List Statement) : Header → Statement
  | .times count => .times count body
  | .guarded .when condition => .when condition body
  | .guarded .loop condition => .loop condition body

/-- A block whose body is being read, and the statements before it, last first. -/
structure OpenBlock where
  header : Header
  before : List Statement

/-- What has been read of the current statement. -/
inductive Phase where
  /-- Nothing yet. -/
  | ready
  /-- An action. -/
  | acted
  /-- An action and an opening parenthesis, with which the text `mark` begins. -/
  | calling (mark : List Char)
  /-- An action and its parentheses. -/
  | called
  /-- The word `repeat`. -/
  | counted
  /-- The word `repeat` and an opening parenthesis. -/
  | count
  /-- The word `repeat` up to its count. -/
  | countRead (count : UInt32)
  /-- The word of a guard. -/
  | guarded (guard : Guard)
  /-- The word of a guard and an opening parenthesis. -/
  | condition (guard : Guard)
  /-- A guard up to a name. -/
  | named (guard : Guard) (name : String)
  /-- A guard up to a name and an opening parenthesis. -/
  | asked (guard : Guard) (name : String)
  /-- A guard up to `energy >`, of which the last is where the text `mark` begins. -/
  | compared (guard : Guard) (mark : List Char)
  /-- A guard up to its whole condition. -/
  | conditionRead (guard : Guard) (condition : String)
  /-- A whole header. -/
  | headed (header : Header)

/-- How far the reader has come: the open blocks, innermost first, the statements read in the
current one, last first, and the statement begun after them.
-/
structure Reading where
  outer : List OpenBlock := []
  done : List Statement := []
  phase : Phase := .ready

/-- Why the reader stopped: at the text that begins with a token that cannot go on, or at a
count that is too large.
-/
inductive Fault where
  | unexpected (rest : List Char)
  | tooMany (digits : List Char)

namespace Reading

def enter (reading : Reading) (phase : Phase) : Reading :=
  { reading with phase }

/-- The reading after the word that begins a statement. -/
def beginStatement (reading : Reading) (name : String) : Option Reading :=
  if name = "repeat" then
    some (reading.enter .counted)
  else if name = "if" then
    some (reading.enter (.guarded .when))
  else if name = "while" then
    some (reading.enter (.guarded .loop))
  else
    (Action.ofName? name).map fun action =>
      { reading with done := .act action :: reading.done, phase := .acted }

/-- The reading after the brace that closes the innermost block. -/
def closeBlock (reading : Reading) : Option Reading :=
  match reading.outer with
  | [] => none
  | block :: outer =>
      some { outer, done := block.header.close reading.done.reverse :: block.before }

/-- The reading after the token behind a whole statement. -/
def begin (reading : Reading) : Token → Option Reading
  | .word name => reading.beginStatement name
  | .closeBrace => reading.closeBlock
  | _ => none

def takeCount (reading : Reading) (digits : List Char) : Except Fault Reading :=
  match Text.word32? (Text.digitsValue digits) with
  | some count => .ok (reading.enter (.countRead count))
  | none => .error (.tooMany digits)

/-- The reading after the number that energy is compared with, which has to be `0`. A longer
number that begins with `0` is a fault behind that digit, any other at the comparison.
-/
def takeZero (reading : Reading) (guard : Guard) (mark text digits : List Char)
    : Except Fault Reading :=
  match digits with
  | ['0'] => .ok (reading.enter (.conditionRead guard "energy>0"))
  | '0' :: _ => .error (.unexpected (text.drop 1))
  | _ => .error (.unexpected mark)

def openBlock (reading : Reading) (header : Header) : Reading where
  outer := ⟨header, reading.done⟩ :: reading.outer

/-- One token on. -/
def step (reading : Reading) (lexeme : Lexeme) : Except Fault Reading :=
  let unexpected := Except.error (Fault.unexpected lexeme.text)
  let orUnexpected (next : Option Reading) := next.elim unexpected .ok
  match reading.phase, lexeme.token with
  | .ready, token => orUnexpected (reading.begin token)
  | .acted, .openParen => .ok (reading.enter (.calling lexeme.text))
  | .acted, .semicolon => .ok (reading.enter .ready)
  | .acted, token => orUnexpected (reading.begin token)
  | .calling _, .closeParen => .ok (reading.enter .called)
  | .calling mark, _ => .error (.unexpected mark)
  | .called, .semicolon => .ok (reading.enter .ready)
  | .called, token => orUnexpected (reading.begin token)
  | .counted, .openParen => .ok (reading.enter .count)
  | .count, .number digits => reading.takeCount digits
  | .countRead count, .closeParen => .ok (reading.enter (.headed (.times count)))
  | .guarded guard, .openParen => .ok (reading.enter (.condition guard))
  | .condition guard, .word name => .ok (reading.enter (.named guard name))
  | .named guard name, .openParen => .ok (reading.enter (.asked guard name))
  | .named guard name, .greater =>
      if name = "energy" then
        .ok (reading.enter (.compared guard lexeme.text))
      else
        unexpected
  | .asked guard name, .closeParen => .ok (reading.enter (.conditionRead guard name))
  | .compared guard mark, .number digits => reading.takeZero guard mark lexeme.text digits
  | .compared _ mark, _ => .error (.unexpected mark)
  | .conditionRead guard condition, .closeParen =>
      .ok (reading.enter (.headed (.guarded guard condition)))
  | .headed header, .openBrace => .ok (reading.openBlock header)
  | _, _ => unexpected

/-- The statements, if the text may end here. -/
def finish (reading : Reading) : Except Fault Script :=
  match reading.phase with
  | .ready | .acted | .called =>
      if reading.outer.isEmpty then .ok reading.done.reverse else .error (.unexpected [])
  | .calling mark => .error (.unexpected mark)
  | .compared _ mark => .error (.unexpected mark)
  | _ => .error (.unexpected [])

end Reading

/-- The error that reports a fault in the text. -/
def Fault.report (text : List Char) : Fault → ScriptError
  | .unexpected rest => .atSuffix text rest
  | .tooMany digits => .badCount (String.ofList digits)

/-- The script that the tokens make. -/
def ofLexemes (lexemes : List Lexeme) : Except Fault Script := do
  let reading ← lexemes.foldlM Reading.step {}
  reading.finish

/-- Reads a script whose blocks may nest. -/
def readStrict (text : List Char) : Except ScriptError Script :=
  (ofLexemes (lexemes text)).mapError (·.report text)

end RobotPuzzle.Script
