import RobotPuzzle.Script.Basic

/-! The conditions of a script, at whatever depth they stand. -/

namespace RobotPuzzle

mutual

/-- The conditions in a statement, in the order of its text. -/
def Statement.conditions : Statement → List String
  | .act _ => []
  | .times _ body => Script.conditions body
  | .when condition body => condition :: Script.conditions body
  | .loop condition body => condition :: Script.conditions body

def Script.conditions : Script → List String
  | [] => []
  | statement :: script => statement.conditions ++ Script.conditions script

end

/-- What a statement asks, the script asks, by induction over the statements. -/
theorem Script.conditions_subset {statement : Statement} {script : Script}
    (member : statement ∈ script)
    : statement.conditions ⊆ Script.conditions script := by
  induction script with
  | nil => simp at member
  | cons first script ih =>
      intro condition asked
      rw [Script.conditions, List.mem_append]
      rcases List.mem_cons.mp member with rfl | later
      · exact Or.inl asked
      · exact Or.inr (ih later asked)

end RobotPuzzle
