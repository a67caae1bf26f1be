import RobotPuzzle.Proofs.Executor.SavedFunctions
import RobotPuzzle.Proofs.Script.StrictReader
import RobotPuzzle.Proofs.Script.TokenText

/-! Texts of scripts that are joined by a line break are run as the texts one after the other
would be, where a failure of the first keeps the second from being run.
-/

namespace RobotPuzzle

variable {Memory : Type}

-----------------------------------------------------------------------------------------
-- Reading joined texts
-----------------------------------------------------------------------------------------

/-- Two texts with a line break between them are read as the script of the first with that of
the second behind it: no token reaches over the line break.
-/
theorem Script.readStrict_lines {first second : List Char} {before after : Script}
    (first_read : readStrict first = .ok before) (second_read : readStrict second = .ok after)
    : readStrict (first ++ '\n' :: second) = .ok (before ++ after) := by
  rw [readStrict_eq_ok_iff] at *
  have ends : Text.EndsRun Text.isWordChar ('\n' :: second) :=
    Text.endsRun_cons (by decide +kernel) second
  rw [tokens_append first ends, tokens_of_isLayout rfl]
  exact first_read.append second_read

-----------------------------------------------------------------------------------------
-- Running joined scripts
-----------------------------------------------------------------------------------------

/-- The run was stopped, or there was no script to run. -/
def Reply.failed (reply : Reply Memory Outcome) : Bool :=
  match reply.answer with
  | .ok (.failed _) => true
  | _ => false

/-- A run that has come to its end has failed if it was stopped. -/
theorem Executor.failed_finish (run : Run Memory)
    : (finish run).failed = run.halted.isSome := by
  simp only [Reply.failed, finish, Run.outcome]
  cases run.halted with
  | some error => rfl
  | none => cases run.executor.world.goalMet <;> rfl

/-- An executor that is done takes a run up again where that came to its end. -/
theorem Executor.perform_finish (observer : Observer Memory) (script : Script)
    {run : Run Memory} (running : run.executor.state = .running) (going : run.halted = none)
    : (finish run).executor.perform observer script (finish run).memory
      = finish (runAll observer run.executor.settings.loopCap.toNat script run) := by
  obtain ⟨⟨world, state, settings⟩, memory, halted⟩ := run
  obtain rfl := running
  obtain rfl := going
  rfl

/-- Two parts of a script are run one after the other, unless the first is stopped. Nothing is
lost between the parts: the second finds the world and the settings that it would find within
one run.
-/
theorem Executor.perform_append (executor : Executor) (ready : executor.state ≠ .running)
    (first second : Script) (conduct : Executor → Memory → Conduct Memory)
    (diary : Diary Memory)
    : let before := executor.perform (.keeping conduct) first diary
      executor.perform (.keeping conduct) (first ++ second) diary
      = if before.failed then before
        else before.executor.perform (.keeping conduct) second before.memory := by
  intro before
  let start : Run (Diary Memory) := { executor := executor.enter .running, memory := diary }
  let cap := executor.settings.loopCap.toNat
  let last := runAll (.keeping conduct) cap first start
  have inside : last.Within executor :=
    runAll_keeps (fun action h _ => h.act conduct action) cap first ⟨rfl, rfl, rfl⟩ rfl
  have ended : before = finish last := if_neg ready
  have whole
      : executor.perform (.keeping conduct) (first ++ second) diary
        = finish (last.andThen (runAll (.keeping conduct) cap second)) := by
    rw [perform, if_neg ready, runAll_append cap first second rfl]
  rw [whole, ended, failed_finish]
  cases stopped : last.halted with
  | some error => simp [Run.andThen_of_stopped stopped]
  | none =>
      have same_cap : last.executor.settings.loopCap.toNat = cap := by
        rw [inside.setUp.settings]
      rw [perform_finish _ second inside.running stopped, same_cap]
      simp [Run.andThen_of_going stopped]

/-- Two texts that the strict reader accepts, joined by a line break, are run as the first and
then, unless that fails, the second, in the world and for the observer that the first leaves.
The reply is the one to the last text that was run.
-/
theorem performText_lines {first second : String} {before after : Script}
    (first_read : Script.Mode.strict.read first = .ok before)
    (second_read : Script.Mode.strict.read second = .ok after)
    (executor : Executor) (ready : executor.state ≠ .running)
    (conduct : Executor → Memory → Conduct Memory) (diary : Diary Memory)
    : let run (text : String) (executor : Executor) (diary : Diary Memory) :=
        executor.performText (.keeping conduct) .strict text diary
      let reply := run first executor diary
      let joined := run (first ++ "\n" ++ second) executor diary
      joined = (if reply.failed then reply else run second reply.executor reply.memory)
      ∧ ∃ outcome, joined.answer = .ok outcome := by
  have joined_read
      : Script.Mode.strict.read (first ++ "\n" ++ second) = .ok (before ++ after) := by
    simpa [Script.Mode.read] using Script.readStrict_lines first_read second_read
  obtain ⟨run, ended⟩ :=
    executor.perform_of_ready ready (.keeping conduct) (before ++ after) diary
  simp only [Executor.performText_of_read first_read, Executor.performText_of_read second_read,
    Executor.performText_of_read joined_read]
  refine ⟨executor.perform_append ready before after conduct diary, run.outcome, ?_⟩
  rw [ended]
  rfl

/-- The first text ends in a word that the second would go on with if it stood on the same line.
Joined they make the robot take a step for each, of which the second is stopped by the edge.
-/
theorem performText_lines_of_open_words
    : let executor : Executor := { world := .start { size := 2 } }
      let conduct : Executor → Nat → Conduct Nat := .silent fun _ count => count + 1
      let run (text : String) (executor : Executor) (diary : Diary Nat) :=
        executor.performText (.keeping conduct) .strict text diary
      let reply := run "turnRight;move" executor { memory := 0 }
      let joined := run ("turnRight;move" ++ "\n" ++ "move()") executor { memory := 0 }
      Script.Mode.strict.read "turnRight;move" = .ok [.act .turnRight, .act .move]
      ∧ Script.Mode.strict.read "move()" = .ok [.act .move]
      ∧ executor.state ≠ .running
      ∧ reply.failed = false
      ∧ joined.failed = true
      ∧ joined.memory.memory = 2
      ∧ joined = (if reply.failed then reply else run "move()" reply.executor reply.memory)
      ∧ ∃ outcome, joined.answer = .ok outcome := by
  have first_read
      : Script.Mode.strict.read "turnRight;move" = .ok [.act .turnRight, .act .move] := by
    decide +kernel
  have second_read : Script.Mode.strict.read "move()" = .ok [.act .move] := by decide +kernel
  exact ⟨first_read, second_read, by decide, by decide +kernel, by decide +kernel,
    by decide +kernel, performText_lines first_read second_read _ (by decide) _ _⟩

end RobotPuzzle
