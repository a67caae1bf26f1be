import RobotPuzzle.Text.Decimal

/-! JSON values as a document writes them: numbers keep their digits, objects their repeated
keys.
-/

namespace RobotPuzzle.Json

/-- The power of ten behind a number, in digits. -/
structure Exponent where
  negative : Bool
  digits : List Char
deriving DecidableEq, Repr

/-- A number in the parts that it is written in. -/
structure Number where
  negative : Bool
  whole : List Char
  fraction : Option (List Char)
  exponent : Option Exponent
deriving DecidableEq, Repr

/-- The characters of a string, or `none` for one with an unpaired surrogate escape. -/
abbrev Content := Option String

inductive Value where
  | null
  | bool (value : Bool)
  | number (number : Number)
  | string (content : Content)
  | array (items : List Value)
  | object (members : List (Content × Value))

/-- The integer that is written without a point or an exponent. A zero with a minus sign is
not one.
-/
def Number.integer? (number : Number) : Option Int :=
  if number.fraction.isSome || number.exponent.isSome then
    none
  else if !number.negative then
    some (Text.digitsValue number.whole)
  else if Text.digitsValue number.whole = 0 then
    none
  else
    some (-Text.digitsValue number.whole)

end RobotPuzzle.Json
