import RobotPuzzle.Executor.Perform

/-! Observers that call the executor back while it runs. A conduct says what an observer asks,
one thing after the other, where each may depend on the replies before it; a diary keeps what
the observer was shown and what came of its requests.
-/

namespace RobotPuzzle

/-- Something that an executor can be asked for. A run that is asked for has an observer of its
own.
-/
inductive Request (Memory : Type) where
  | perform (observer : Observer Memory) (script : Script)
  | performText (observer : Observer Memory) (mode : Script.Mode) (text : String)
  | performSaved (observer : Observer Memory) (session : Session) (name : String)
  | reset

variable {Memory : Type}

def Reply.map {α β : Type} (change : α → β) (reply : Reply Memory α) : Reply Memory β where
  answer := reply.answer.map change
  executor := reply.executor
  memory := reply.memory

/-- What the executor does about a request. A reset has no outcome. -/
def Request.make (executor : Executor) (memory : Memory)
    : Request Memory → Reply Memory (Option Outcome)
  | .perform observer script => (executor.perform observer script memory).map some
  | .performText observer mode text =>
      (executor.performText observer mode text memory).map some
  | .performSaved observer session name =>
      (executor.performSaved observer session name memory).map some
  | .reset =>
      let (answer, executor) := executor.reset
      { answer := answer.map fun _ => none, executor, memory }

/-- Why a request is refused during a run: a function that nobody saved is unknown first. -/
def Request.refusal : Request Memory → Refusal
  | .performSaved _ session name =>
      if (session.function? name).isSome then .busy else .unknownFunction name
  | _ => .busy

/-- An executor that runs refuses every request and stays as it is, and so does the memory that
an observer of the request would have changed. By cases over the requests.
-/
theorem Request.make_of_running {executor : Executor} (running : executor.state = .running)
    (memory : Memory) (request : Request Memory)
    : request.make executor memory = .refuse request.refusal executor memory := by
  cases request with
  | perform observer script =>
      simp [make, refusal, Executor.perform, running, Reply.map, Reply.refuse, Except.map]
  | performText observer mode text =>
      simp [make, refusal, Executor.performText, running, Reply.map, Reply.refuse, Except.map]
  | performSaved observer session name =>
      cases found : session.function? name <;>
        simp [make, refusal, Executor.performSaved, found, Executor.reset, running, Reply.map,
          Reply.refuse, Except.map]
  | reset => simp [make, refusal, Executor.reset, running, Reply.refuse, Except.map]

/-- What an observer does when it is told of an action: it asks for something, sees the reply,
and goes on, or it leaves. Each branch ends, so finitely many things are asked.
-/
inductive Conduct (Memory : Type) where
  | leave (memory : Memory)
  | ask (request : Request Memory) (memory : Memory)
    (next : Reply Memory (Option Outcome) → Conduct Memory)

/-- A request, the executor and the memory to which it was made, and the reply. -/
structure Exchange (Memory : Type) where
  request : Request Memory
  executor : Executor
  memory : Memory
  reply : Reply Memory (Option Outcome)

/-- The request met a run, was refused for the reason due, and changed nothing. -/
def Exchange.Refused (exchange : Exchange Memory) : Prop :=
  exchange.executor.state = .running
  ∧ exchange.reply = .refuse exchange.request.refusal exchange.executor exchange.memory

/-- How a conduct leaves the executor and the memory, and what was exchanged. -/
def Conduct.follow (executor : Executor)
    : Conduct Memory → Executor × Memory × List (Exchange Memory)
  | .leave memory => (executor, memory, [])
  | .ask request memory next =>
      let reply := request.make executor memory
      let (last, remembered, exchanges) := (next reply).follow reply.executor
      (last, remembered, ⟨request, executor, memory, reply⟩ :: exchanges)

/-- Whatever an observer asks of an executor that runs, the executor stays as it is and every
request is refused. By induction over the conduct.
-/
theorem Conduct.follow_of_running {executor : Executor}
    (running : executor.state = .running) (conduct : Conduct Memory)
    : (conduct.follow executor).1 = executor
      ∧ ∀ exchange ∈ (conduct.follow executor).2.2, exchange.Refused := by
  induction conduct with
  | leave memory => exact ⟨rfl, by simp [follow]⟩
  | ask request memory next ih =>
      have refused := request.make_of_running running memory
      have later := ih (request.make executor memory)
      -- The refusal leaves the executor running, so what follows is asked of the same one.
      have same : (request.make executor memory).executor = executor := by rw [refused]; rfl
      simp only [follow, same]
      refine ⟨later.1, ?_⟩
      intro exchange member
      rcases List.mem_cons.mp member with rfl | member
      · exact ⟨running, refused⟩
      · exact later.2 exchange member

/-- What an observer remembers, the snapshots that it was shown, and what it asked for. -/
structure Diary (Memory : Type) where
  memory : Memory
  seen : List Snapshot := []
  exchanges : List (Exchange Memory) := []

/-- The observer with this conduct, who keeps a diary. -/
def Observer.keeping (conduct : Executor → Memory → Conduct Memory) : Observer (Diary Memory) :=
  fun executor diary =>
    let (last, memory, exchanges) := (conduct executor diary.memory).follow executor
    (last,
      {
        memory
        seen := diary.seen ++ [executor.world.toSnapshot]
        exchanges := diary.exchanges ++ exchanges
      })

def Conduct.silent (remember : Executor → Memory → Memory) (executor : Executor)
    (memory : Memory) : Conduct Memory :=
  .leave (remember executor memory)

/-- During a run an observer leaves the executor as it is and adds to its diary what it was
shown and refused requests.
-/
theorem Observer.keeping_of_running {executor : Executor}
    (running : executor.state = .running) (conduct : Executor → Memory → Conduct Memory)
    (diary : Diary Memory)
    : (Observer.keeping conduct executor diary).1 = executor
      ∧ (Observer.keeping conduct executor diary).2.seen
        = diary.seen ++ [executor.world.toSnapshot]
      ∧ ((∀ exchange ∈ diary.exchanges, exchange.Refused)
        → ∀ exchange ∈ (Observer.keeping conduct executor diary).2.exchanges,
            exchange.Refused) := by
  obtain ⟨same, refused⟩ := (conduct executor diary.memory).follow_of_running running
  refine ⟨same, rfl, ?_⟩
  intro earlier exchange member
  rcases List.mem_append.mp member with before | now
  · exact earlier exchange before
  · exact refused exchange now

/-- An action that is refused stops a run where it is, and nobody is told of it. -/
theorem Run.act_of_error {observer : Observer Memory} {run : Run Memory} {action : Action}
    {error : MoveError} (refused : run.executor.world.act action = .error error)
    : run.act observer action = { run with halted := some error } := by
  rw [Run.act, refused]

/-- An action that is completed moves the executor of a run to the world after it and nowhere
else, as the observer leaves it alone, and the run goes on. The observer has been shown that
world, and all that it asked for was refused.
-/
theorem Run.act_of_ok {run : Run (Diary Memory)} {action : Action} {world : World}
    (running : run.executor.state = .running)
    (acted : run.executor.world.act action = .ok world)
    (conduct : Executor → Memory → Conduct Memory)
    : let after := run.act (.keeping conduct) action
      after.executor = { run.executor with world }
      ∧ after.halted = none
      ∧ after.memory.seen = run.memory.seen ++ [world.toSnapshot]
      ∧ ((∀ exchange ∈ run.memory.exchanges, exchange.Refused)
        → ∀ exchange ∈ after.memory.exchanges, exchange.Refused) := by
  have still : ({ run.executor with world } : Executor).state = .running := running
  obtain ⟨same, shown, later⟩ := Observer.keeping_of_running still conduct run.memory
  simp only [Run.act, acted, true_and]
  exact ⟨same, shown, later⟩

end RobotPuzzle
