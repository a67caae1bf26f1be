import RobotPuzzle.Json.Token

/-! Reading a JSON text: its tokens are taken one after the other, with the open arrays and
objects around the current place kept as frames.
-/

namespace RobotPuzzle.Json

/-- An array or object that is open, with what it holds so far, last first. -/
inductive Frame where
  | array (items : List Value)
  | object (members : List (Content × Value)) (key : Content)

/-- What has been read, and so what may come next. -/
inductive Progress where
  /-- A value has to come. -/
  | valueDue (outer : List Frame)
  /-- An array has just been opened. -/
  | firstItem (outer : List Frame)
  /-- An object has just been opened. -/
  | firstKey (outer : List Frame)
  /-- An object with these members goes on. -/
  | keyDue (outer : List Frame) (members : List (Content × Value))
  /-- A key has been read. -/
  | colonDue (outer : List Frame) (members : List (Content × Value)) (key : Content)
  /-- A value is complete. -/
  | complete (value : Value) (outer : List Frame)

namespace Progress

/-- The token that begins a value. -/
def beginValue (outer : List Frame) : Token → Option Progress
  | .scalar value => some (.complete value outer)
  | .openArray => some (.firstItem outer)
  | .openObject => some (.firstKey outer)
  | _ => none

/-- The token that begins a member. -/
def beginMember (outer : List Frame) (members : List (Content × Value))
    : Token → Option Progress
  | .scalar (.string key) => some (.colonDue outer members key)
  | _ => none

/-- The token behind a complete value. -/
def goOn (value : Value) : List Frame → Token → Option Progress
  | .array items :: outer, .comma => some (.valueDue (.array (value :: items) :: outer))
  | .array items :: outer, .closeArray =>
      some (.complete (.array (value :: items).reverse) outer)
  | .object members key :: outer, .comma => some (.keyDue outer ((key, value) :: members))
  | .object members key :: outer, .closeObject =>
      some (.complete (.object ((key, value) :: members).reverse) outer)
  | _, _ => none

/-- One token on, if it may stand there. -/
def step : Progress → Token → Option Progress
  | .valueDue outer, token => beginValue outer token
  | .firstItem outer, .closeArray => some (.complete (.array []) outer)
  | .firstItem outer, token => beginValue (.array [] :: outer) token
  | .firstKey outer, .closeObject => some (.complete (.object []) outer)
  | .firstKey outer, token => beginMember outer [] token
  | .keyDue outer members, token => beginMember outer members token
  | .colonDue outer members key, .colon => some (.valueDue (.object members key :: outer))
  | .colonDue .., _ => none
  | .complete value outer, token => goOn value outer token

def value? : Progress → Option Value
  | .complete value [] => some value
  | _ => none

end Progress

/-- The value that the text writes, if it writes one and nothing else. -/
def read? (text : List Char) : Option Value := do
  let tokens ← tokens text
  let progress ← tokens.foldlM Progress.step (.valueDue [])
  progress.value?

end RobotPuzzle.Json
