import RobotPuzzle.Json.Magnitude
import RobotPuzzle.Json.Reader
import RobotPuzzle.Level.Validity

/-! Levels as JSON documents. A record is an object, whose further keys do not matter, or an
array of its fields in their order.
-/

namespace RobotPuzzle

open Json (Content Value)

namespace Level.Document

-----------------------------------------------------------------------------------------
-- Records
-----------------------------------------------------------------------------------------

/-- The value of the one member with this key: `some none` if there is no such member, and
`none` if there are several.
-/
def member? (members : List (Content × Value)) (key : String) : Option (Option Value) :=
  match members.filter (·.1 == some key) with
  | [] => some none
  | [(_, value)] => some (some value)
  | _ => none

/-- The fields of a record, where given, in the order of their names. An array may stop
early, but not go on. The keys of an object have to be readable.
-/
def fields? (names : List String) : Value → Option (List (Option Value))
  | .object members =>
      if members.all (·.1.isSome) then names.mapM (member? members) else none
  | .array items =>
      if items.length ≤ names.length then
        some (items.map some ++ .replicate (names.length - items.length) none)
      else
        none
  | _ => none

-----------------------------------------------------------------------------------------
-- Parts of a level
-----------------------------------------------------------------------------------------

def integer? : Value → Option Int
  | .number number => number.integer?
  | _ => none

/-- An integer in the range of a signed 32-bit word. -/
def int32? (value : Value) : Option Int32 := do
  let n ← integer? value
  if -0x80000000 ≤ n ∧ n < 0x80000000 then some (.ofInt n) else none

/-- An integer in the range of an unsigned 32-bit word. -/
def word32? (value : Value) : Option UInt32 := do
  let n ← integer? value
  if 0 ≤ n then Text.word32? n.toNat else none

/-- An integer in the range of an unsigned 64-bit word. -/
def word64? (value : Value) : Option UInt64 := do
  let n ← integer? value
  if 0 ≤ n ∧ n < 0x10000000000000000 then some (.ofNat n.toNat) else none

/-- One of several names: a string, or an object with the name as its only key and nothing
in it.
-/
def choice? {α : Type} (name : α → String) (choices : List α) : Value → Option α
  | .string (some text) => choices.find? (name · == text)
  | .object [(some text, .null)] => choices.find? (name · == text)
  | _ => none

def direction? : Value → Option Direction :=
  choice? Direction.name Direction.all

/-- A place, of which both coordinates have to be given. -/
def position? (value : Value) : Option Position := do
  let [some x, some y] ← fields? ["x", "y"] value | none
  return ⟨← int32? x, ← int32? y⟩

def element? (value : Value) : Option Element := do
  let [some kind, some x, some y] ← fields? ["type", "x", "y"] value | none
  return ⟨← choice? ElementKind.name ElementKind.all kind, ← int32? x, ← int32? y⟩

def elements? : Value → Option (List Element)
  | .array items => items.mapM element?
  | _ => none

-----------------------------------------------------------------------------------------
-- Goals
-----------------------------------------------------------------------------------------

mutual

/-- A value that can be kept while the type of a goal is looked for: its strings are
readable, its numbers are doubles, and it is nested at most `room` deep.
-/
def fits (room : Nat) : Value → Bool
  | .null => true
  | .bool _ => true
  | .number number => !number.isTooLarge
  | .string content => content.isSome
  | .array items =>
      match room with
      | 0 => false
      | room + 1 => itemsFit room items
  | .object members =>
      match room with
      | 0 => false
      | room + 1 => membersFit room members

def itemsFit (room : Nat) : List Value → Bool
  | [] => true
  | item :: items => fits room item && itemsFit room items

def membersFit (room : Nat) : List (Content × Value) → Bool
  | [] => true
  | (key, value) :: members => key.isSome && fits room value && membersFit room members

end

/-- How deep a value inside a goal may be nested. -/
def goalRoom : Nat :=
  125

/-- The goal of a type, from the members of its object. -/
def goalOfMembers? (type : String) (members : List (Content × Value)) : Option Goal :=
  match type with
  | "reachFlag" => some .reachFlag
  | "reachFlagSafely" => some .reachFlagSafely
  | "collectGems" => do
      let some count ← member? members "count" | none
      return .collectGems (← word32? count)
  | _ => none

/-- A goal: an object with its type among the members, or an array that begins with it. -/
def goal? : Value → Option Goal
  | .object members => do
      guard (membersFit goalRoom members)
      let some (.string (some type)) ← member? members "type" | none
      goalOfMembers? type members
  | .array [.string (some "reachFlag")] => some .reachFlag
  | .array [.string (some "reachFlagSafely")] => some .reachFlagSafely
  | .array [.string (some "collectGems"), count] => (word32? count).map .collectGems
  | _ => none

/-- A goal or, by `null`, none. -/
def optionalGoal? : Value → Option (Option Goal)
  | .null => some none
  | value => (goal? value).map some

-----------------------------------------------------------------------------------------
-- Levels
-----------------------------------------------------------------------------------------

/-- The value of a field that may be left out. -/
def orDefault {α : Type} (default : α) (read? : Value → Option α)
    : Option Value → Option α
  | none => some default
  | some value => read? value

def levelFields : List String :=
  ["size", "startPos", "startDirection", "startEnergy", "elements", "goal"]

/-- A level. Any of its fields may be left out. -/
def level? (value : Value) : Option Level := do
  let [size, startPosition, startDirection, startEnergy, elements, goal] ←
    fields? levelFields value | none
  let standard : Level := {}
  return {
    size := ← orDefault standard.size word64? size
    startPosition := ← orDefault standard.startPosition position? startPosition
    startDirection := ← orDefault standard.startDirection direction? startDirection
    startEnergy := ← orDefault standard.startEnergy int32? startEnergy
    elements := ← orDefault standard.elements elements? elements
    goal := ← orDefault standard.goal optionalGoal? goal
  }

end Level.Document

/-- The level that the text describes, whether or not a world can be built from it. -/
def Level.read (text : String) : Except LevelError Level :=
  match (Json.read? text.toList).bind Document.level? with
  | some level => .ok level
  | none => .error .malformed

/-- The level that the text describes, if a world can be built from it. -/
def Level.ofText (text : String) : Except LevelError Level := do
  let level ← read text
  level.validate
  return level

end RobotPuzzle
