import RobotPuzzle.Proofs.Executor.Conduct
import RobotPuzzle.Proofs.Executor.Lockstep

/-! Observers cannot interfere with a run: all that they ask for is refused, and the run goes as
if they had asked for nothing.
-/

namespace RobotPuzzle

variable {Memory Other : Type}

/-- The runs are the same for all but their observers, who have been shown the same, and every
request of the first observer has been refused.
-/
structure Run.Undisturbed (asked : Run (Diary Memory)) (silent : Run (Diary Other)) : Prop where
  executor : asked.executor = silent.executor
  running : asked.executor.state = .running
  halted : asked.halted = silent.halted
  seen : asked.memory.seen = silent.memory.seen
  refused : ∀ exchange ∈ asked.memory.exchanges, exchange.Refused

/-- An action that is completed keeps runs undisturbed, since neither observer moves the
executor; one that is refused is refused in both.
-/
theorem Run.Undisturbed.act {asked : Run (Diary Memory)} {silent : Run (Diary Other)}
    (h : Run.Undisturbed asked silent) (conduct : Executor → Memory → Conduct Memory)
    (remember : Executor → Other → Conduct Other) (action : Action)
    : Run.Undisturbed (asked.act (.keeping conduct) action)
        (silent.act (.keeping remember) action) := by
  cases acted : asked.executor.world.act action with
  | error error =>
      rw [Run.act_of_error acted, Run.act_of_error (h.executor ▸ acted)]
      exact ⟨h.executor, h.running, rfl, h.seen, h.refused⟩
  | ok world =>
      obtain ⟨moved, on, shown, later⟩ := Run.act_of_ok h.running acted conduct
      obtain ⟨moved', on', shown', -⟩ :=
        Run.act_of_ok (h.executor ▸ h.running) (h.executor ▸ acted) remember
      refine ⟨?_, ?_, on.trans on'.symm, ?_, later h.refused⟩
      · rw [moved, moved', h.executor]
      · rw [moved]
        exact h.running
      · rw [shown, shown', h.seen]

theorem Run.Undisturbed.lockstep (conduct : Executor → Memory → Conduct Memory)
    (remember : Executor → Other → Conduct Other)
    : Run.Lockstep (.keeping conduct) (.keeping remember) Run.Undisturbed where
  world h := congrArg Executor.world h.executor
  halted h := h.halted
  act action h _ := h.act conduct remember action

/-- The replies are the same for all but what their observers remember: they give the same
answer, leave the same executor, have shown the same snapshots, and every request of the first
observer has been refused.
-/
structure Reply.Undisturbed (asked : Reply (Diary Memory) Outcome)
    (silent : Reply (Diary Other) Outcome)
    : Prop where
  answer : asked.answer = silent.answer
  executor : asked.executor = silent.executor
  seen : asked.memory.seen = silent.memory.seen
  refused : ∀ exchange ∈ asked.memory.exchanges, exchange.Refused

/-- Whatever an observer asks of an executor in the course of a run, every request is refused
while the executor runs, for the reason due and without a trace; and the run comes to an end
and to all that it comes to with an observer that asks for nothing.
-/
theorem perform_undisturbed (executor : Executor) (ready : executor.state ≠ .running)
    (script : Script) (conduct : Executor → Memory → Conduct Memory) (memory : Memory)
    (remember : Executor → Other → Other) (other : Other)
    : let asked := executor.perform (.keeping conduct) script { memory }
      let silent := executor.perform (.keeping (.silent remember)) script { memory := other }
      asked.Undisturbed silent ∧ ∃ outcome, asked.answer = .ok outcome := by
  have start : Run.Undisturbed
      { executor := executor.enter .running, memory := ({ memory } : Diary Memory) }
      { executor := executor.enter .running, memory := ({ memory := other } : Diary Other) } :=
    ⟨rfl, rfl, rfl, rfl, by simp⟩
  have last := (Run.Undisturbed.lockstep conduct (.silent remember)).script
    executor.settings.loopCap.toNat script start rfl
  simp only [Executor.perform, if_neg ready, Executor.finish]
  refine ⟨⟨?_, ?_, last.seen, last.refused⟩, _, rfl⟩
  · simp only [Run.outcome, last.halted, last.executor]
  · simp only [last.executor]

/-- An observer that asks for everything there is, and counts how often one of its own
observers is told of an action.
-/
def Conduct.meddling (session : Session) (_ : Executor) (told : Nat) : Conduct Nat :=
  let count : Observer Nat := fun executor told => (executor, told + 1)
  .ask .reset told fun _ =>
    .ask (.perform count [.act .turnLeft]) told fun _ =>
      .ask (.performText count .flat "move") told fun _ =>
        .ask (.performSaved count session "home") told fun _ =>
          .leave told

/-- An observer that asks for everything after each of two actions is refused eight times. It
is told of those two, and none of its own observers of anything.
-/
theorem perform_undisturbed_by_meddling
    : let executor : Executor := { world := .start {} }
      let script : Script := [.times 2 [.act .move]]
      let asked := executor.perform (.keeping (.meddling {})) script { memory := 0 }
      let silent := executor.perform (.keeping (.silent fun _ (_ : Unit) => ())) script
        { memory := () }
      executor.state ≠ .running
      ∧ asked.memory.exchanges.length = 8
      ∧ asked.memory.seen.length = 2
      ∧ asked.memory.memory = 0
      ∧ asked.Undisturbed silent
      ∧ ∃ outcome, asked.answer = .ok outcome :=
  ⟨by decide, by decide +kernel, by decide +kernel, by decide +kernel,
    perform_undisturbed _ (by decide) _ _ _ _ _⟩

end RobotPuzzle
