import RobotPuzzle.Executor.Perform
import RobotPuzzle.Proofs.Executor.Lockstep

/-! Loops mean their unrolling: a script without any loop in it, with copies for counted rounds
and nested guards for guarded ones, runs like the script that it was made from.
-/

namespace RobotPuzzle

-----------------------------------------------------------------------------------------
-- Writing loops out
-----------------------------------------------------------------------------------------

/-- No more than `rounds` rounds of a body, each inside the guard of the one before it. -/
def Script.guardRounds (condition : String) (body : Script) : (rounds : Nat) → Script
  | 0 => []
  | rounds + 1 => [.when condition (body ++ guardRounds condition body rounds)]

mutual

/-- What a statement comes to without loops, where a guarded loop goes round no more than `cap`
times.
-/
def Statement.unroll (cap : Nat) : Statement → Script
  | .act action => [.act action]
  | .times count body => (List.replicate count.toNat (Script.unroll cap body)).flatten
  | .when condition body => [.when condition (Script.unroll cap body)]
  | .loop condition body => Script.guardRounds condition (Script.unroll cap body) cap

def Script.unroll (cap : Nat) : Script → Script
  | [] => []
  | statement :: script => statement.unroll cap ++ Script.unroll cap script

end

mutual

/-- There is no loop in the statement, at whatever depth. -/
def Statement.loopFree : Statement → Bool
  | .act _ => true
  | .times _ _ => false
  | .when _ body => Script.loopFree body
  | .loop _ _ => false

def Script.loopFree : Script → Bool
  | [] => true
  | statement :: script => statement.loopFree && Script.loopFree script

end

theorem loopFree_append (first second : Script)
    : Script.loopFree (first ++ second) = (first.loopFree && second.loopFree) := by
  induction first with
  | nil => rfl
  | cons statement first ih =>
      simp only [List.cons_append, Script.loopFree, ih, Bool.and_assoc]

theorem loopFree_replicate {body : Script} (free : body.loopFree = true) (count : Nat)
    : Script.loopFree (List.replicate count body).flatten = true := by
  induction count with
  | zero => rfl
  | succ count ih =>
      rw [List.replicate_succ, List.flatten_cons, loopFree_append, free, ih]
      rfl

theorem loopFree_guardRounds {body : Script} (free : body.loopFree = true)
    (condition : String) (rounds : Nat)
    : (Script.guardRounds condition body rounds).loopFree = true := by
  induction rounds with
  | zero => rfl
  | succ rounds ih =>
      simp only [Script.guardRounds, Script.loopFree, Statement.loopFree, loopFree_append,
        free, ih, Bool.and_self]

mutual

/-- Unrolling leaves no loop, by recursion on the statement. -/
theorem Statement.loopFree_unroll (cap : Nat) (statement : Statement)
    : Script.loopFree (statement.unroll cap) = true := by
  match statement with
  | .act action => rfl
  | .times count body => exact loopFree_replicate (Script.loopFree_unroll cap body) _
  | .when condition body =>
      simp only [Statement.unroll, Script.loopFree, Statement.loopFree,
        Script.loopFree_unroll cap body, Bool.and_self]
  | .loop condition body =>
      exact loopFree_guardRounds (Script.loopFree_unroll cap body) condition cap

theorem Script.loopFree_unroll (cap : Nat) (script : Script)
    : (script.unroll cap).loopFree = true := by
  match script with
  | [] => rfl
  | head :: tail =>
      rw [Script.unroll, loopFree_append, Statement.loopFree_unroll cap head,
        Script.loopFree_unroll cap tail]
      rfl

end

-----------------------------------------------------------------------------------------
-- Runs of scripts that were written out
-----------------------------------------------------------------------------------------

variable {Memory : Type} {observer : Observer Memory}

open Run.Lockstep (Keeps)

/-- Copies of a body are rounds of it, by induction over their number. -/
theorem runAll_replicate {cap : Nat} {body : Script} {round : Run Memory → Run Memory}
    (same : Keeps Eq (runAll observer cap body) round) (count : Nat)
    : Keeps Eq (runAll observer cap (List.replicate count body).flatten)
        (Run.times round count) := by
  induction count with
  | zero =>
      intro run other h going
      exact h
  | succ count ih =>
      rintro run _ rfl going
      rw [List.replicate_succ, List.flatten_cons, runAll_append cap _ _ going, Run.times]
      exact (Run.Lockstep.equal observer).andThen (same rfl going) ih

/-- Guards inside each other are rounds that are guarded, by induction over their number. With
none left nothing is run, whether or not the condition still holds.
-/
theorem runAll_guardRounds {cap : Nat} {body : Script} {round : Run Memory → Run Memory}
    (same : Keeps Eq (runAll observer cap body) round) (condition : String) (rounds : Nat)
    : Keeps Eq (runAll observer cap (Script.guardRounds condition body rounds))
        (Run.loop condition round rounds) := by
  induction rounds with
  | zero =>
      intro run other h going
      exact h
  | succ rounds ih =>
      rintro run _ rfl going
      rw [Script.guardRounds, runAll_singleton, Statement.run, Run.loop]
      cases holds : run.holds condition with
      | false => rfl
      | true =>
          rw [if_pos rfl, if_pos rfl, runAll_append cap _ _ going]
          exact (Run.Lockstep.equal observer).andThen (same rfl going) ih

mutual

/-- What a statement comes to without loops runs like the statement, by recursion on it. -/
theorem Statement.runAll_unroll (cap : Nat) (statement : Statement)
    : Keeps Eq (runAll observer cap (statement.unroll cap))
        (statement.run observer cap) := by
  rintro run _ rfl going
  match statement with
  | .act action => exact runAll_singleton cap _ run
  | .times count body =>
      exact runAll_replicate (Script.runAll_unroll cap body) count.toNat rfl going
  | .when condition body =>
      rw [Statement.unroll, runAll_singleton, Statement.run, Statement.run,
        Script.runAll_unroll cap body rfl going]
  | .loop condition body =>
      exact runAll_guardRounds (Script.runAll_unroll cap body) condition cap rfl going

/-- A script and its unrolled form run in step, one statement at a time. -/
theorem Script.runAll_unroll (cap : Nat) (script : Script)
    : Keeps Eq (runAll observer cap (script.unroll cap)) (runAll observer cap script) := by
  rintro run _ rfl going
  match script with
  | [] => rfl
  | head :: tail =>
      rw [Script.unroll, runAll_append cap _ _ going]
      exact (Run.Lockstep.equal observer).andThen
        (Statement.runAll_unroll cap head rfl going) (Script.runAll_unroll cap tail)

end

/-- A script and what it comes to without loops, up to the cap of the executor, give the same
reply: they have the same outcome, leave the same world, and show whoever watches the same.
-/
theorem perform_unroll (observer : Observer Memory) (script : Script) (executor : Executor)
    (memory : Memory)
    : let unrolled := script.unroll executor.settings.loopCap.toNat
      unrolled.loopFree = true
      ∧ executor.perform observer unrolled memory
        = executor.perform observer script memory := by
  refine ⟨Script.loopFree_unroll _ script, ?_⟩
  unfold Executor.perform
  split
  · rfl
  · rw [Script.runAll_unroll _ script rfl rfl]

/-- A loop that may go round twice asks twice, and not a third time. -/
example
    : Script.unroll 2 [.loop "pathClear" [.times 2 [.act .move]]]
      = [.when "pathClear"
          [.act .move, .act .move, .when "pathClear" [.act .move, .act .move]]] := by
  decide

end RobotPuzzle
