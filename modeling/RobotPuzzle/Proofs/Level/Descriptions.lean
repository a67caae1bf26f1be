import Mathlib.Data.List.Forall2
import RobotPuzzle.Level.Document
import RobotPuzzle.Proofs.Json.Grammar

/-! What it means that a JSON value describes a level, field by field, and nothing about how a
reader would take it apart. Objects may have their members in any order.
-/

namespace RobotPuzzle

open Json (Content Value)

namespace Level

-----------------------------------------------------------------------------------------
-- Records
-----------------------------------------------------------------------------------------

/-- The fields that are there, under their names. -/
def givenFields : List String → List (Option Value) → List (String × Value)
  | name :: names, some value :: fields => (name, value) :: givenFields names fields
  | _ :: names, none :: fields => givenFields names fields
  | _, _ => []

/-- The members of an object that gives the fields, each once, with members of any other names and
values among them. A name is a text, which a key with an unpaired surrogate is not.
-/
def Gives (names : List String) (fields : List (Option Value))
    (members : List (Content × Value)) : Prop :=
  ∃ further : List (String × Value),
    (∀ member ∈ further, member.1 ∉ names)
    ∧ members.Perm ((givenFields names fields ++ further).map fun member =>
        (some member.1, member.2))

/-- A field may be left out if it has its default value. -/
inductive Tells {α : Type} (default : α) (is : α → Value → Prop)
    : α → Option Value → Prop
  | leftOut : Tells default is default none
  | given {a value} (h : is a value) : Tells default is a (some value)

-----------------------------------------------------------------------------------------
-- Parts of a level
-----------------------------------------------------------------------------------------

def DescribesSize (size : UInt64) (value : Value) : Prop :=
  value = .ofInt size.toNat

def DescribesInt32 (n : Int32) (value : Value) : Prop :=
  value = .ofInt n.toInt

def DescribesDirection (direction : Direction) (value : Value) : Prop :=
  value = .ofName direction.name

inductive DescribesPosition (place : Position) : Value → Prop
  | object {members}
    (h : Gives ["x", "y"] [some (.ofInt place.x.toInt), some (.ofInt place.y.toInt)] members)
    : DescribesPosition place (.object members)

inductive DescribesElement (element : Element) : Value → Prop
  | object {members}
    (h : Gives ["type", "x", "y"]
      [some (.ofName element.kind.name), some (.ofInt element.place.x.toInt),
        some (.ofInt element.place.y.toInt)] members)
    : DescribesElement element (.object members)

inductive DescribesElements (elements : List Element) : Value → Prop
  | array {items} (h : List.Forall₂ DescribesElement elements items)
    : DescribesElements elements (.array items)

/-- A goal has its type among its members, and a count if it is to collect gems. There is no way
to write a custom goal.
-/
inductive DescribesGoal : Option Goal → Value → Prop
  | none : DescribesGoal none .null
  | reachFlag : DescribesGoal (some .reachFlag) (.object [(some "type", .ofName "reachFlag")])
  | reachFlagSafely
    : DescribesGoal (some .reachFlagSafely)
        (.object [(some "type", .ofName "reachFlagSafely")])
  | collectGems {count : UInt32} {members}
    (h : members.Perm
      [(some "type", .ofName "collectGems"), (some "count", .ofInt count.toNat)])
    : DescribesGoal (some (.collectGems count)) (.object members)

/-- The value describes the level: an object with its fields, of which any may be left out that
are as they would be by default.
-/
inductive Describes (level : Level) : Value → Prop
  | object {size startPosition startDirection startEnergy elements goal members}
    (hsize : Tells 5 DescribesSize level.size size)
    (hposition : Tells ⟨0, 0⟩ DescribesPosition level.startPosition startPosition)
    (hdirection : Tells .east DescribesDirection level.startDirection startDirection)
    (henergy : Tells 10 DescribesInt32 level.startEnergy startEnergy)
    (helements : Tells [] DescribesElements level.elements elements)
    (hgoal : Tells none DescribesGoal level.goal goal)
    (h : Gives ["size", "startPos", "startDirection", "startEnergy", "elements", "goal"]
      [size, startPosition, startDirection, startEnergy, elements, goal] members)
    : Describes level (.object members)

end Level

end RobotPuzzle
