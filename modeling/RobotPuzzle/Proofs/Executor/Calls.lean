import RobotPuzzle.Proofs.Executor.Conduct

/-! Calls that are made to an executor from outside any run, one after the other. However they
end, no run is left open, so that the next call does not find the executor busy.
-/

namespace RobotPuzzle

variable {Memory : Type}

/-- A call from outside any run. Who watches a run that it starts has a conduct, which may ask
the executor for more, and keeps a diary.
-/
inductive Call (Memory : Type) where
  | perform (conduct : Executor → Memory → Conduct Memory) (script : Script)
  | performText (conduct : Executor → Memory → Conduct Memory) (mode : Script.Mode)
    (text : String)
  | performSaved (conduct : Executor → Memory → Conduct Memory) (session : Session)
    (name : String)
  | reset

def Call.request : Call Memory → Request (Diary Memory)
  | .perform conduct script => .perform (.keeping conduct) script
  | .performText conduct mode text => .performText (.keeping conduct) mode text
  | .performSaved conduct session name => .performSaved (.keeping conduct) session name
  | .reset => .reset

/-- The executor and the diary as calls have left them, and what was exchanged in those. -/
structure Served (Memory : Type) where
  executor : Executor
  diary : Diary Memory
  exchanges : List (Exchange (Diary Memory))

/-- Calls made one after the other, each to what the one before it left. -/
def Executor.serve (executor : Executor) (diary : Diary Memory)
    : List (Call Memory) → Served Memory
  | [] => { executor, diary, exchanges := [] }
  | call :: calls =>
      let reply := call.request.make executor diary
      let later := reply.executor.serve reply.memory calls
      { later with exchanges := ⟨call.request, executor, diary, reply⟩ :: later.exchanges }

-----------------------------------------------------------------------------------------
-- One call
-----------------------------------------------------------------------------------------

/-- The state in which a request leaves an executor that it found in this one, and not running.
-/
def Request.stateAfter (state : RunState) : Request Memory → RunState
  | .perform _ _ | .performText _ _ _ => .done
  | .performSaved _ session name =>
      if (session.function? name).isSome then .done else state
  | .reset => .idle

/-- The reply says that nothing could be run: there is no function of that name, or the text is
no script.
-/
def Reply.FoundNothing (reply : Reply Memory (Option Outcome)) : Prop :=
  (∃ name, reply.answer = .error (.unknownFunction name))
  ∨ ∃ error, reply.answer = .ok (some (.failed (.unreadable error)))

/-- The exchange was with an executor that did not run. It was not refused as busy, left the
executor in the state that is due, and did nothing to the world and showed nobody anything if
there was nothing to run.
-/
structure Exchange.Orderly (exchange : Exchange (Diary Memory)) : Prop where
  ready : exchange.executor.state ≠ .running
  notBusy : exchange.reply.answer ≠ .error .busy
  state
    : exchange.reply.executor.state = exchange.request.stateAfter exchange.executor.state
  untouched
    : exchange.reply.FoundNothing
      → exchange.reply.executor.world = exchange.executor.world
        ∧ exchange.reply.memory = exchange.memory

theorem Request.stateAfter_ne_running {state : RunState} (ready : state ≠ .running)
    (request : Request Memory)
    : request.stateAfter state ≠ .running := by
  cases request with
  | performSaved observer session name =>
      rw [stateAfter]
      split
      · decide
      · exact ready
  | _ => exact nofun

/-- A run that has come to its end was one of a script that could be read. -/
theorem Run.outcome_ne_unreadable (run : Run Memory) (error : ScriptError)
    : run.outcome ≠ .failed (.unreadable error) := by
  unfold outcome
  split
  · simp
  · split <;> simp

theorem Executor.perform_of_ready (executor : Executor) (ready : executor.state ≠ .running)
    (observer : Observer Memory) (script : Script) (memory : Memory)
    : ∃ run, executor.perform observer script memory = finish run := by
  rw [perform, if_neg ready]
  exact ⟨_, rfl⟩

/-- A text that can be read is run as its script, or refused as that would be. -/
theorem Executor.performText_of_read {mode : Script.Mode} {text : String} {script : Script}
    (read : mode.read text = .ok script) (observer : Observer Memory) (executor : Executor)
    (memory : Memory)
    : executor.performText observer mode text memory
      = executor.perform observer script memory := by
  unfold performText
  split
  next running => rw [perform, if_pos running]
  next => rw [read]

/-- The executor with its world as the level starts it, and nothing run in that yet. -/
def Executor.restarted (executor : Executor) : Executor :=
  { executor with world := .start executor.world.level, state := .idle }

theorem Executor.reset_of_ready {executor : Executor} (ready : executor.state ≠ .running)
    : executor.reset = (.ok (), executor.restarted) := by
  rw [reset, if_neg ready]
  rfl

theorem Executor.restarted_ready (executor : Executor)
    : executor.restarted.state ≠ .running := by
  simp [restarted]

/-- A function that was saved is run in the world as its level starts it, and the arrows turn
from the heading that the robot has there.
-/
theorem Executor.performSaved_of_ready {executor : Executor}
    (ready : executor.state ≠ .running) (observer : Observer Memory) {session : Session}
    {name : String} {arrows : List Arrow} (saved : session.function? name = some arrows)
    (memory : Memory)
    : executor.performSaved observer session name memory
      = executor.restarted.perform observer
          (arrowScript executor.world.level.startDirection arrows) memory := by
  simp only [performSaved, saved, reset_of_ready ready]
  rfl

/-- The end of a run is not refused, leaves the executor done, and reports no text that could not
be read.
-/
theorem orderly_of_finish {exchange : Exchange (Diary Memory)} {run : Run (Diary Memory)}
    (ready : exchange.executor.state ≠ .running)
    (due : exchange.request.stateAfter exchange.executor.state = .done)
    (reply : exchange.reply = (Executor.finish run).map some)
    : exchange.Orderly where
  ready := ready
  notBusy := by
    rw [reply]
    exact nofun
  state := by
    rw [reply, due]
    rfl
  untouched := by
    rw [reply]
    rintro (⟨name, refused⟩ | ⟨error, unreadable⟩)
    · cases refused
    · have failed := Option.some.inj (Except.ok.inj unreadable)
      exact absurd failed (run.outcome_ne_unreadable error)

/-- A call to an executor that does not run is in order, by cases over the calls and over what
can keep one from being run.
-/
theorem Call.orderly {executor : Executor} (ready : executor.state ≠ .running)
    (diary : Diary Memory) (call : Call Memory)
    : Exchange.Orderly ⟨call.request, executor, diary, call.request.make executor diary⟩ := by
  cases call with
  | perform conduct script =>
      obtain ⟨run, performed⟩ := executor.perform_of_ready ready (.keeping conduct) script diary
      exact orderly_of_finish ready rfl (congrArg (Reply.map some) performed)
  | performText conduct mode text =>
      cases read : mode.read text with
      | ok script =>
          have same := Executor.performText_of_read read (.keeping conduct) executor diary
          obtain ⟨run, performed⟩ :=
            executor.perform_of_ready ready (.keeping conduct) script diary
          exact orderly_of_finish ready rfl (congrArg (Reply.map some) (same.trans performed))
      | error error =>
          simp only [request, Request.make, Executor.performText, if_neg ready, read]
          refine ⟨ready, ?_, rfl, fun _ => ⟨rfl, rfl⟩⟩
          simp [Reply.map, Except.map]
  | performSaved conduct session name =>
      cases found : session.function? name with
      | some arrows =>
          have same := Executor.performSaved_of_ready ready (.keeping conduct) found diary
          obtain ⟨run, performed⟩ :=
            executor.restarted.perform_of_ready executor.restarted_ready (.keeping conduct)
              (arrowScript executor.world.level.startDirection arrows) diary
          refine orderly_of_finish ready ?_ (congrArg (Reply.map some) (same.trans performed))
          simp [request, Request.stateAfter, found]
      | none =>
          simp only [request, Request.make, Executor.performSaved, found]
          refine ⟨ready, ?_, ?_, fun _ => ⟨rfl, rfl⟩⟩
          · simp [Reply.map, Reply.refuse, Except.map]
          · simp [Request.stateAfter, found, Reply.map, Reply.refuse]
  | reset =>
      simp only [request, Request.make, Executor.reset_of_ready ready]
      refine ⟨ready, by simp [Except.map], rfl, ?_⟩
      rintro (⟨name, refused⟩ | ⟨error, unreadable⟩)
      · cases refused
      · cases unreadable

/-- A call leaves no run open. -/
theorem Call.leaves_ready {executor : Executor} (ready : executor.state ≠ .running)
    (diary : Diary Memory) (call : Call Memory)
    : (call.request.make executor diary).executor.state ≠ .running := by
  rw [(call.orderly ready diary).state]
  exact Request.stateAfter_ne_running ready call.request

-----------------------------------------------------------------------------------------
-- Calls one after the other
-----------------------------------------------------------------------------------------

/-- Whatever calls are made to an executor that does not run, each of them is answered and in
order, and it does not run afterwards. By induction over the calls.
-/
theorem serve_orderly (executor : Executor) (ready : executor.state ≠ .running)
    (diary : Diary Memory) (calls : List (Call Memory))
    : let served := executor.serve diary calls
      served.executor.state ≠ .running
      ∧ served.exchanges.map (·.request) = calls.map Call.request
      ∧ ∀ exchange ∈ served.exchanges, exchange.Orderly := by
  induction calls generalizing executor diary with
  | nil => exact ⟨ready, rfl, by simp [Executor.serve]⟩
  | cons call calls ih =>
      obtain ⟨last, requests, later⟩ :=
        ih _ (call.leaves_ready ready diary) (call.request.make executor diary).memory
      refine ⟨last, congrArg _ requests, ?_⟩
      intro exchange member
      rcases List.mem_cons.mp member with rfl | behind
      · exact call.orderly ready diary
      · exact later exchange behind

/-- A text that is no script, a function that nobody saved, a run that is stopped at the edge,
and a reset: only the run moves the robot and shows anything.
-/
theorem serve_orderly_through_failures
    : let executor : Executor := { world := .start {} }
      let conduct : Executor → Nat → Conduct Nat := .silent fun _ count => count + 1
      let calls : List (Call Nat) :=
        [.performText conduct .strict "fly()", .performSaved conduct {} "dance",
          .perform conduct [.loop "pathClear" [.act .move], .act .move], .reset]
      let served := executor.serve { memory := 0 } calls
      executor.state ≠ .running
      ∧ served.exchanges.map (·.reply.executor.state) = [.done, .done, .done, .idle]
      ∧ served.diary.seen.length = 4
      ∧ served.executor.state ≠ .running
      ∧ served.exchanges.map (·.request) = calls.map Call.request
      ∧ ∀ exchange ∈ served.exchanges, exchange.Orderly :=
  ⟨by decide, by decide +kernel, by decide +kernel, serve_orderly _ (by decide) _ _⟩

end RobotPuzzle
