/-! Places in a text, as an editor shows them. -/

namespace RobotPuzzle.Text

/-- A line and a column, both counted from 1. -/
structure Place where
  line : Nat
  column : Nat
deriving DecidableEq, Repr

/-- The place just behind `before`: lines are ended by line feeds, columns count characters. -/
def Place.behind (before : List Char) : Place where
  line := 1 + before.count '\n'
  column := 1 + (before.reverse.takeWhile (· != '\n')).length

/-- The text up to where its suffix `rest` begins. -/
def upTo (text rest : List Char) : List Char :=
  text.take (text.length - rest.length)

/-- The place in `text` at which its suffix `rest` begins. -/
def Place.ofSuffix (text rest : List Char) : Place :=
  .behind (upTo text rest)

@[simp] theorem upTo_append (before rest : List Char)
    : upTo (before ++ rest) rest = before := by
  simp [upTo]

def utf8Length : List Char → Nat
  | [] => 0
  | c :: text => c.utf8Size + utf8Length text

end RobotPuzzle.Text
