import RobotPuzzle.Snapshot.Basic

/-! Levels: the templates that worlds are built from. -/

namespace RobotPuzzle

structure Position where
  x : Int32
  y : Int32
deriving DecidableEq, Repr

instance : Inhabited Position := ⟨⟨0, 0⟩⟩

/-- What a level can put on a tile. -/
inductive ElementKind where
  | gem
  | flag
  | wall
  | safe
  | danger
deriving DecidableEq, Repr

def ElementKind.name : ElementKind → String
  | gem => "gem"
  | flag => "flag"
  | wall => "wall"
  | safe => "safe"
  | danger => "danger"

def ElementKind.title : ElementKind → String
  | gem => "Gem"
  | flag => "Flag"
  | wall => "Wall"
  | safe => "Safe"
  | danger => "Danger"

def ElementKind.all : List ElementKind :=
  [.gem, .flag, .wall, .safe, .danger]

/-- Something that the level puts on a tile. -/
structure Element where
  kind : ElementKind
  place : Position
deriving DecidableEq, Repr

/-- A goal given by a test on snapshots. Two of them are the same goal when they carry the
same mark, whatever they test.
-/
structure CustomGoal where
  mark : Nat
  holds : Snapshot → Bool

instance : BEq CustomGoal := ⟨fun a b => a.mark == b.mark⟩

/-- When a level counts as solved. -/
inductive Goal where
  /-- The robot stands on a flag. -/
  | reachFlag
  /-- The robot holds at least `count` gems. -/
  | collectGems (count : UInt32)
  /-- The robot stands on a flag that is no danger tile, with energy to spare. -/
  | reachFlagSafely
  /-- A test that no document can write holds. -/
  | custom (goal : CustomGoal)
deriving BEq

/-- The template of a world, with the values of the fields that a document leaves out. -/
structure Level where
  size : UInt64 := 5
  startPosition : Position := default
  startDirection : Direction := default
  startEnergy : Int32 := 10
  elements : List Element := []
  goal : Option Goal := none
deriving BEq, Inhabited

end RobotPuzzle
