import RobotPuzzle.Proofs.Executor.Calls
import RobotPuzzle.Proofs.Executor.Lockstep
import RobotPuzzle.Proofs.World.History

/-! Saved functions do not remember what was run before them. All that calls leave of an executor
for good is how it was set up, and a function is run in the world as its level starts it.
-/

namespace RobotPuzzle

variable {Memory Earlier : Type}

/-- The executor has the settings of another one, and its world the same level. -/
structure Executor.SetUpLike (first executor : Executor) : Prop where
  settings : executor.settings = first.settings
  level : executor.world.level = first.world.level

namespace Executor.SetUpLike

variable {first executor : Executor}

theorem refl (executor : Executor) : SetUpLike executor executor :=
  ⟨rfl, rfl⟩

theorem trans {middle last : Executor} (h : SetUpLike first middle)
    (later : SetUpLike middle last)
    : SetUpLike first last :=
  ⟨later.settings.trans h.settings, later.level.trans h.level⟩

/-- Executors that were set up alike are the same when they are restarted. -/
theorem restarted_eq (h : SetUpLike first executor) : executor.restarted = first.restarted := by
  rw [restarted, restarted, h.level, h.settings]

end Executor.SetUpLike

/-- The run is going on in an executor that was set up like the one in which it began. -/
structure Run.Within (first : Executor) (run : Run (Diary Memory)) : Prop where
  running : run.executor.state = .running
  setUp : first.SetUpLike run.executor

/-- An action changes the world within its level and nothing else of the executor. -/
theorem Run.Within.act {first : Executor} {run : Run (Diary Memory)} (h : Run.Within first run)
    (conduct : Executor → Memory → Conduct Memory) (action : Action)
    : Run.Within first (run.act (.keeping conduct) action) := by
  cases acted : run.executor.world.act action with
  | error error =>
      rw [Run.act_of_error acted]
      exact ⟨h.running, h.setUp⟩
  | ok world =>
      obtain ⟨moved, -⟩ := Run.act_of_ok h.running acted conduct
      have kept : world.level = run.executor.world.level := (World.primitive_of_act acted).level
      refine ⟨?_, ?_⟩
      · rw [moved]
        exact h.running
      · rw [moved]
        exact ⟨h.setUp.settings, kept.trans h.setUp.level⟩

/-- A run leaves level and settings as they were, whatever the observer calls meanwhile. -/
theorem Executor.setUpLike_perform (executor : Executor) (ready : executor.state ≠ .running)
    (conduct : Executor → Memory → Conduct Memory) (script : Script) (diary : Diary Memory)
    : executor.SetUpLike (executor.perform (.keeping conduct) script diary).executor := by
  have start
      : Run.Within executor { executor := executor.enter .running, memory := diary } :=
    ⟨rfl, rfl, rfl⟩
  have last := runAll_keeps (fun action h _ => h.act conduct action)
    executor.settings.loopCap.toNat script start rfl
  rw [perform, if_neg ready]
  exact ⟨last.setUp.settings, last.setUp.level⟩

/-- No call changes how an executor was set up, by cases over the calls. -/
theorem Call.setUpLike {executor : Executor} (ready : executor.state ≠ .running)
    (diary : Diary Memory) (call : Call Memory)
    : executor.SetUpLike (call.request.make executor diary).executor := by
  cases call with
  | perform conduct script => exact executor.setUpLike_perform ready conduct script diary
  | performText conduct mode text =>
      simp only [request, Request.make, Executor.performText, if_neg ready]
      cases mode.read text with
      | ok script => exact executor.setUpLike_perform ready conduct script diary
      | error error => exact ⟨rfl, rfl⟩
  | performSaved conduct session name =>
      cases found : session.function? name with
      | some arrows =>
          have again : executor.SetUpLike executor.restarted := ⟨rfl, rfl⟩
          simp only [request, Request.make,
            Executor.performSaved_of_ready ready (.keeping conduct) found diary]
          exact again.trans
            (executor.restarted.setUpLike_perform executor.restarted_ready conduct _ diary)
      | none =>
          simp only [request, Request.make, Executor.performSaved, found]
          exact .refl executor
  | reset =>
      simp only [request, Request.make, Executor.reset_of_ready ready]
      exact ⟨rfl, rfl⟩

/-- Whatever calls are made to an executor that does not run, it does not run afterwards and is
set up as before. By induction over the calls.
-/
theorem Executor.setUpLike_serve (executor : Executor) (ready : executor.state ≠ .running)
    (diary : Diary Memory) (calls : List (Call Memory))
    : let served := executor.serve diary calls
      served.executor.state ≠ .running ∧ executor.SetUpLike served.executor := by
  induction calls generalizing executor diary with
  | nil => exact ⟨ready, .refl executor⟩
  | cons call calls ih =>
      obtain ⟨free, later⟩ :=
        ih _ (call.leaves_ready ready diary) (call.request.make executor diary).memory
      exact ⟨free, (call.setUpLike ready diary).trans later⟩

/-- After whatever calls, a saved function runs as its arrows do in a new executor: it comes to
the same outcome, shows whoever watches the same, and leaves the same executor.
-/
theorem performSaved_forgets {level : Level} {world : World}
    (built : World.ofLevel level = .ok world) (settings : Settings)
    (calls : List (Call Earlier)) (diary : Diary Earlier) {session : Session} {name : String}
    {arrows : List Arrow} (saved : session.function? name = some arrows)
    (observer : Observer Memory) (memory : Memory)
    : let new : Executor := { world, settings }
      let used := (new.serve diary calls).executor
      let reply := used.performSaved observer session name memory
      reply = new.perform observer (arrowScript level.startDirection arrows) memory
      ∧ ∃ outcome, reply.answer = .ok outcome := by
  obtain ⟨-, rfl⟩ := World.ofLevel_eq_ok_iff.mp built
  intro new used reply
  obtain ⟨free, setUp⟩ := new.setUpLike_serve nofun diary calls
  have again : used.restarted = new := setUp.restarted_eq
  have same_level : used.world.level = level := setUp.level
  have same : reply = new.perform observer (arrowScript level.startDirection arrows) memory := by
    rw [← again, ← same_level]
    exact Executor.performSaved_of_ready free observer saved memory
  obtain ⟨run, performed⟩ := new.perform_of_ready nofun observer
    (arrowScript level.startDirection arrows) memory
  refine ⟨same, run.outcome, ?_⟩
  rw [same, performed]
  rfl

/-- A robot that took a gem, ran into the wall behind it and turned away does what a new one
does, gem and all.
-/
theorem performSaved_forgets_a_taken_gem
    : let level : Level := { elements := [⟨.gem, ⟨1, 0⟩⟩, ⟨.wall, ⟨2, 0⟩⟩] }
      let session : Session := { functions := Std.TreeMap.empty.insert "step" [.right] }
      let conduct : Executor → Nat → Conduct Nat := .silent fun _ count => count + 1
      let calls : List (Call Nat) :=
        [.perform conduct [.times 2 [.act .move]], .perform conduct [.act .turnLeft]]
      let new : Executor := { world := .start level }
      let used := (new.serve { memory := 0 } calls).executor
      let reply := used.performSaved (.keeping conduct) session "step" { memory := 0 }
      World.ofLevel level = .ok (.start level)
      ∧ session.function? "step" = some [.right]
      ∧ used.world.gems = 1
      ∧ used.world.robot = ⟨1, 0, .north⟩
      ∧ reply.executor.world.robot = ⟨1, 0, .east⟩
      ∧ reply = new.perform (.keeping conduct) (arrowScript level.startDirection [.right])
          { memory := 0 }
      ∧ ∃ outcome, reply.answer = .ok outcome :=
  ⟨by rfl, by decide +kernel, by decide +kernel, by decide +kernel, by decide +kernel,
    performSaved_forgets (by rfl) _ _ _ (by decide +kernel) _ _⟩

end RobotPuzzle
