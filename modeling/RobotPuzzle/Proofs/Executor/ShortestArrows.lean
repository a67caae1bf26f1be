import RobotPuzzle.Proofs.Executor.ArrowScripts

/-! Arrow scripts are as short as can be. The headings of moves are followed through any actions:
each action other than a move can save no more than one turn on the way to the next heading.
-/

namespace RobotPuzzle

-----------------------------------------------------------------------------------------
-- The headings in which moves are made
-----------------------------------------------------------------------------------------

/-- The heading of the robot after an action. -/
def Direction.after (heading : Direction) : Action → Direction
  | .turnLeft => heading.left
  | .turnRight => heading.right
  | .move | .pickUp => heading

/-- The headings of the moves among these actions, for a robot that begins with this heading. -/
def moveHeadings (heading : Direction) : List Action → List Direction
  | [] => []
  | action :: actions =>
      if action = .move then heading :: moveHeadings heading actions
      else moveHeadings (heading.after action) actions

/-- The headings in which the robot makes its moves, as far as it comes in this world. -/
def World.movesMade (world : World) : List Action → List Direction
  | [] => []
  | action :: actions =>
      match world.act action with
      | .error _ => []
      | .ok next =>
          if action = .move then world.robot.direction :: next.movesMade actions
          else next.movesMade actions

theorem World.direction_act {before after : World} {action : Action}
    (acted : before.act action = .ok after)
    : after.robot.direction = before.robot.direction.after action := by
  cases action with
  | move => exact World.direction_moveForward acted
  | pickUp =>
      rw [← Except.ok.inj acted, World.robot_pickUp]
      rfl
  | turnLeft =>
      rw [← Except.ok.inj acted]
      rfl
  | turnRight =>
      rw [← Except.ok.inj acted]
      rfl

/-- The robot makes the moves among its actions in their headings, one after the other, and all of
them unless it is stopped. By induction over the actions.
-/
theorem World.movesMade_append (world : World) (actions : List Action)
    : ∃ unmade,
        world.movesMade actions ++ unmade = moveHeadings world.robot.direction actions
        ∧ ((world.actAll actions).stopped = none → unmade = []) := by
  induction actions generalizing world with
  | nil => exact ⟨[], rfl, fun _ => rfl⟩
  | cons action actions ih =>
      rw [movesMade, moveHeadings, actAll]
      cases acted : world.act action with
      | error error =>
          refine ⟨_, rfl, ?_⟩
          intro done
          cases done
      | ok next =>
          obtain ⟨unmade, whole, done⟩ := ih next
          rw [World.direction_act acted] at whole
          refine ⟨unmade, ?_, done⟩
          by_cases move : action = .move
          · subst move
            exact congrArg (List.cons _) whole
          · simpa only [if_neg move] using whole

-----------------------------------------------------------------------------------------
-- The length of an arrow script
-----------------------------------------------------------------------------------------

/-- The turns between two headings lead from the one to the other without a move. By cases over
how many there are.
-/
theorem moveHeadings_turnsBetween (heading target : Direction) (actions : List Action)
    : moveHeadings heading (turnsBetween heading target ++ actions)
      = moveHeadings target actions := by
  unfold turnsBetween
  split
  next same => rw [same]; rfl
  next turned =>
    split
    next left => rw [← left]; rfl
    next left =>
      split
      next right => rw [← right]; rfl
      next right => rw [← Direction.right_right_eq turned left right]; rfl

/-- The moves in the script of a sequence of arrows have the headings of the arrows. -/
theorem moveHeadings_arrowActions (heading : Direction) (arrows : List Arrow)
    : moveHeadings heading (arrowActions heading arrows) = arrows.map Arrow.heading := by
  induction arrows generalizing heading with
  | nil => rfl
  | cons arrow arrows ih =>
      rw [arrowActions, moveHeadings_turnsBetween, moveHeadings, if_pos rfl, ih, List.map_cons]

/-- No action saves more than one turn. -/
theorem length_turnsBetween_le (heading target : Direction) (action : Action)
    : (turnsBetween heading target).length
      ≤ (turnsBetween (heading.after action) target).length + 1 := by
  cases heading <;> cases target <;> cases action <;> decide

/-- Another heading changes only the turns to the first arrow, so one action saves no more than one.
-/
theorem length_arrowActions_le_after (heading : Direction) (action : Action)
    (arrows : List Arrow)
    : (arrowActions heading arrows).length
      ≤ (arrowActions (heading.after action) arrows).length + 1 := by
  cases arrows with
  | nil => exact Nat.zero_le _
  | cons arrow arrows =>
      have turns := length_turnsBetween_le heading arrow.heading action
      simp only [arrowActions, List.length_append, List.length_cons]
      omega

/-- Actions whose moves have the headings of the arrows are no fewer than those in the script of
the arrows. By induction over the actions: a move takes an arrow off, and any other action
brings the script of the arrows nearer to its end by no more than itself.
-/
theorem length_arrowActions_le {heading : Direction} {arrows : List Arrow}
    {others : List Action}
    (same : moveHeadings heading others = arrows.map Arrow.heading)
    : (arrowActions heading arrows).length ≤ others.length := by
  induction others generalizing heading arrows with
  | nil =>
      obtain rfl := List.map_eq_nil_iff.mp same.symm
      exact Nat.le_refl _
  | cons action others ih =>
      rw [moveHeadings] at same
      split at same
      next =>
        cases arrows with
        | nil => cases same
        | cons arrow arrows =>
            obtain ⟨ahead, rest⟩ := List.cons.inj same
            have shorter := ih (ahead ▸ rest)
            simpa [arrowActions, turnsBetween, ahead] using shorter
      next =>
        have shorter := ih same
        have saved := length_arrowActions_le_after heading action arrows
        rw [List.length_cons]
        omega

/-- The script of a sequence of arrows is made of actions only. Its moves have the headings of the
arrows, and in whatever world it is run the robot makes them so, all of them unless it is
stopped; and no actions whose moves have those headings are fewer.
-/
theorem arrowScript_shortest (heading : Direction) (arrows : List Arrow)
    : ∃ actions,
        arrowScript heading arrows = actions.map .act
        ∧ moveHeadings heading actions = arrows.map Arrow.heading
        ∧ (∀ world : World,
          world.robot.direction = heading
          → ∃ unmade,
              world.movesMade actions ++ unmade = arrows.map Arrow.heading
              ∧ ((world.actAll actions).stopped = none → unmade = []))
        ∧ ∀ others,
          moveHeadings heading others = arrows.map Arrow.heading
          → actions.length ≤ others.length := by
  refine ⟨arrowActions heading arrows, arrowScript_eq_map heading arrows,
    moveHeadings_arrowActions heading arrows, ?_, fun _ => length_arrowActions_le⟩
  intro world faces
  have made := world.movesMade_append (arrowActions heading arrows)
  rwa [faces, moveHeadings_arrowActions] at made

/-- A robot that looks east and is to go west and then north can turn about the other way round,
and reach for a gem meanwhile, but not with fewer actions.
-/
theorem arrowScript_shortest_about_turn
    : let arrows : List Arrow := [.left, .up]
      let others : List Action := [.turnLeft, .turnLeft, .pickUp, .move, .turnRight, .move]
      let world : World := .start { startPosition := ⟨1, 1⟩ }
      moveHeadings .east others = arrows.map Arrow.heading
      ∧ world.robot.direction = .east
      ∧ ∃ actions,
          arrowScript .east arrows = actions.map .act
          ∧ moveHeadings .east actions = arrows.map Arrow.heading
          ∧ (∀ world : World,
            world.robot.direction = .east
            → ∃ unmade,
                world.movesMade actions ++ unmade = arrows.map Arrow.heading
                ∧ ((world.actAll actions).stopped = none → unmade = []))
          ∧ ∀ others,
            moveHeadings .east others = arrows.map Arrow.heading
            → actions.length ≤ others.length :=
  ⟨by decide, rfl, arrowScript_shortest _ _⟩

end RobotPuzzle
