/-! Scripts: what a robot can be told to do. -/

namespace RobotPuzzle

/-- The things a robot can do. -/
inductive Action where
  | move
  | pickUp
  | turnLeft
  | turnRight
deriving DecidableEq, Repr

namespace Action

def name : Action → String
  | move => "move"
  | pickUp => "pickUp"
  | turnLeft => "turnLeft"
  | turnRight => "turnRight"

def all : List Action :=
  [move, pickUp, turnLeft, turnRight]

theorem mem_all (action : Action) : action ∈ all := by
  cases action <;> simp [all]

/-- The action for a word; the spelling has to be exact. -/
def ofName? (name : String) : Option Action :=
  all.find? (·.name == name)

/-- A word is that of an action exactly if it is spelled like its name. -/
theorem ofName?_eq_some_iff {name : String} {action : Action}
    : ofName? name = some action ↔ action.name = name := by
  constructor
  · intro h
    simpa using List.find?_some h
  · rintro rfl
    cases action <;> rfl

end Action

/-- An action, or a block of statements run under a header. Conditions are kept as they are
named, whether or not there is a condition of that name.
-/
inductive Statement where
  | act (action : Action)
  /-- The body, `count` times over. -/
  | times (count : UInt32) (body : List Statement)
  /-- The body, if the condition holds. -/
  | when (condition : String) (body : List Statement)
  /-- The body, as long as the condition holds. -/
  | loop (condition : String) (body : List Statement)
deriving Repr

abbrev Script := List Statement

mutual

/-- Statements can be compared, by comparing their bodies. -/
def Statement.decideEq : (left right : Statement) → Decidable (left = right)
  | .act a, .act b => decidable_of_iff (a = b) (by simp)
  | .times m left, .times n right =>
      match Statement.decideListEq left right with
      | .isTrue h => decidable_of_iff (m = n) (by simp [h])
      | .isFalse h => .isFalse (by simp [h])
  | .when c left, .when d right =>
      match Statement.decideListEq left right with
      | .isTrue h => decidable_of_iff (c = d) (by simp [h])
      | .isFalse h => .isFalse (by simp [h])
  | .loop c left, .loop d right =>
      match Statement.decideListEq left right with
      | .isTrue h => decidable_of_iff (c = d) (by simp [h])
      | .isFalse h => .isFalse (by simp [h])
  | .act _, .times _ _ | .act _, .when _ _ | .act _, .loop _ _ => .isFalse nofun
  | .times _ _, .act _ | .times _ _, .when _ _ | .times _ _, .loop _ _ => .isFalse nofun
  | .when _ _, .act _ | .when _ _, .times _ _ | .when _ _, .loop _ _ => .isFalse nofun
  | .loop _ _, .act _ | .loop _ _, .times _ _ | .loop _ _, .when _ _ => .isFalse nofun

def Statement.decideListEq : (left right : List Statement) → Decidable (left = right)
  | [], [] => .isTrue rfl
  | a :: left, b :: right =>
      match Statement.decideEq a b, Statement.decideListEq left right with
      | .isTrue h, .isTrue hs => .isTrue (by rw [h, hs])
      | .isFalse h, _ => .isFalse (by simp [h])
      | _, .isFalse hs => .isFalse (by simp [hs])
  | [], _ :: _ | _ :: _, [] => .isFalse nofun

end

instance : DecidableEq Statement := Statement.decideEq

end RobotPuzzle
