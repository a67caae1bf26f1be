import RobotPuzzle.Executor.Perform
import RobotPuzzle.Proofs.Executor.Lockstep
import RobotPuzzle.Proofs.Script.Conditions

/-! Conditions by name. Blank characters in a name mean nothing, and what stands under a condition
that nobody knows is never run: a script can be tidied of both without any change to its runs.
-/

namespace RobotPuzzle

-----------------------------------------------------------------------------------------
-- Tidying a script
-----------------------------------------------------------------------------------------

/-- The conditions that can be asked for. -/
def knownConditions : List String :=
  ["gemAhead", "pathClear", "tileIsSafe", "energy>0"]

/-- The name without its blank characters. -/
def bareName (name : String) : String :=
  String.ofList (Text.squeeze name.toList)

mutual

/-- The statement with its conditions under their bare names. Where a condition is not known,
nothing is left of the statement or of its body.
-/
def Statement.tidy : Statement → Script
  | .act action => [.act action]
  | .times count body => [.times count (Script.tidy body)]
  | .when condition body =>
      if bareName condition ∈ knownConditions then
        [.when (bareName condition) (Script.tidy body)]
      else []
  | .loop condition body =>
      if bareName condition ∈ knownConditions then
        [.loop (bareName condition) (Script.tidy body)]
      else []

def Script.tidy : Script → Script
  | [] => []
  | statement :: script => statement.tidy ++ Script.tidy script

end

theorem Script.conditions_singleton (statement : Statement)
    : Script.conditions [statement] = statement.conditions :=
  List.append_nil _

theorem Script.conditions_append (first second : Script)
    : Script.conditions (first ++ second) = first.conditions ++ second.conditions := by
  induction first with
  | nil => rfl
  | cons statement first ih =>
      rw [List.cons_append, conditions, conditions, ih, List.append_assoc]

mutual

/-- A tidy statement asks for known conditions by their own names, by recursion on the statement.
-/
theorem Statement.conditions_tidy (statement : Statement)
    : Script.conditions statement.tidy ⊆ knownConditions := by
  match statement with
  | .act action => exact List.nil_subset _
  | .times count body =>
      rw [Statement.tidy, Script.conditions_singleton]
      exact Script.conditions_tidy body
  | .when condition body | .loop condition body =>
      rw [Statement.tidy]
      split
      next known =>
        rw [Script.conditions_singleton]
        exact List.cons_subset.mpr ⟨known, Script.conditions_tidy body⟩
      next => exact List.nil_subset _

/-- So does a tidy script, one statement at a time. -/
theorem Script.conditions_tidy (script : Script)
    : script.tidy.conditions ⊆ knownConditions := by
  match script with
  | [] => exact List.nil_subset _
  | statement :: script =>
      rw [Script.tidy, Script.conditions_append]
      exact List.append_subset.mpr
        ⟨Statement.conditions_tidy statement, Script.conditions_tidy script⟩

end

-----------------------------------------------------------------------------------------
-- Looking a condition up
-----------------------------------------------------------------------------------------

theorem Condition.find?_eq (name : String) : find? name = all.find? (·.name == bareName name) :=
  rfl

theorem bareName_bareName (name : String) : bareName (bareName name) = bareName name := by
  simp [bareName, Text.squeeze]

theorem Condition.name_mem_knownConditions (condition : Condition)
    : condition.name ∈ knownConditions := by
  cases condition <;> decide

/-- Blanks in the name of a condition make no difference to what it says. -/
theorem World.satisfies_bareName (world : World) (name : String)
    : world.satisfies (bareName name) = world.satisfies name := by
  rw [satisfies, satisfies, Condition.find?_eq, Condition.find?_eq, bareName_bareName]

/-- A condition that nobody knows never holds. -/
theorem World.satisfies_of_unknown {name : String} (unknown : bareName name ∉ knownConditions)
    (world : World)
    : world.satisfies name = false := by
  have missed : Condition.find? name = none := by
    rw [Condition.find?_eq, List.find?_eq_none]
    intro condition _ found
    rw [← beq_iff_eq.mp found] at unknown
    exact unknown condition.name_mem_knownConditions
  rw [satisfies, missed]
  rfl

-----------------------------------------------------------------------------------------
-- Running a tidy script
-----------------------------------------------------------------------------------------

variable {Memory : Type} {observer : Observer Memory}

theorem Run.holds_bareName (run : Run Memory) (condition : String)
    : run.holds (bareName condition) = run.holds condition :=
  run.executor.world.satisfies_bareName condition

/-- Rounds under the bare name of a guard, by induction over the rounds up to the cap. -/
theorem Run.loop_bareName (condition : String) (body : Run Memory → Run Memory) (cap : Nat)
    : Run.loop (bareName condition) body cap = Run.loop condition body cap := by
  induction cap with
  | zero => rfl
  | succ cap ih =>
      funext run
      rw [Run.loop, Run.loop, Run.holds_bareName, ih]

/-- A guard that does not hold lets no round begin. -/
theorem Run.loop_of_fails {run : Run Memory} {condition : String}
    (fails : run.holds condition = false) (body : Run Memory → Run Memory) (cap : Nat)
    : Run.loop condition body cap run = run := by
  cases cap with
  | zero => rfl
  | succ cap => simp [Run.loop, fails]

open Run.Lockstep (Keeps)

mutual

/-- What is left of a statement runs like the statement, by recursion on it. -/
theorem Statement.runAll_tidy (cap : Nat) (statement : Statement)
    : Keeps Eq (runAll observer cap statement.tidy) (statement.run observer cap) := by
  intro run other same going
  subst same
  match statement with
  | .act action => exact runAll_singleton cap _ run
  | .times count body =>
      rw [Statement.tidy, runAll_singleton]
      exact (Run.Lockstep.equal observer).times (Script.runAll_tidy cap body) count.toNat rfl
        going
  | .when condition body =>
      rw [Statement.tidy]
      split
      next known =>
        rw [runAll_singleton, Statement.run, Statement.run, Run.holds_bareName,
          Script.runAll_tidy cap body rfl going]
      next unknown =>
        have fails : run.holds condition = false := World.satisfies_of_unknown unknown _
        simp [runAll, Statement.run, fails]
  | .loop condition body =>
      rw [Statement.tidy]
      split
      next known =>
        rw [runAll_singleton, Statement.run, Statement.run, Run.loop_bareName]
        exact (Run.Lockstep.equal observer).loop (Script.runAll_tidy cap body) condition cap rfl
          going
      next unknown =>
        have fails : run.holds condition = false := World.satisfies_of_unknown unknown _
        rw [Statement.run, Run.loop_of_fails fails]
        rfl

/-- A script and its tidy form run in step, one statement at a time. -/
theorem Script.runAll_tidy (cap : Nat) (script : Script)
    : Keeps Eq (runAll observer cap script.tidy) (runAll observer cap script) := by
  intro run other same going
  subst same
  match script with
  | [] => rfl
  | head :: tail =>
      rw [Script.tidy, runAll_append cap _ _ going]
      exact (Run.Lockstep.equal observer).andThen (Statement.runAll_tidy cap head rfl going)
        (Script.runAll_tidy cap tail)

end

/-- A script and its tidy form, which asks for known conditions by their own names only, give the
same reply: they have the same outcome, leave the same world, and show whoever watches the same.
-/
theorem perform_tidy (observer : Observer Memory) (script : Script) (executor : Executor)
    (memory : Memory)
    : script.tidy.conditions ⊆ knownConditions
      ∧ executor.perform observer script.tidy memory
        = executor.perform observer script memory := by
  refine ⟨Script.conditions_tidy script, ?_⟩
  unfold Executor.perform
  split
  · rfl
  · rw [Script.runAll_tidy _ script rfl rfl]

/-- A guard that nobody knows goes with all that it guards, known guards included. -/
example
    : Script.tidy
        [.loop " path\tClear" [.act .move, .when "gemahead" [.loop "gemAhead" [.act .move]]]]
      = [.loop "pathClear" [.act .move]] := by
  decide +kernel

end RobotPuzzle
