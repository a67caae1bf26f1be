import Mathlib.Data.List.DropRight
import RobotPuzzle.Proofs.Executor.Conduct

/-! What a session holds, by all that its player has done. The player pushes, clears and saves,
and asks the executor for runs in between.
-/

namespace RobotPuzzle

variable {Memory : Type}

-----------------------------------------------------------------------------------------
-- Turns of a player
-----------------------------------------------------------------------------------------

/-- One thing that a player does. What is asked of the executor may be about the session. -/
inductive Turn (Memory : Type) where
  | push (arrow : Arrow)
  | clear
  | save (name : String)
  | ask (request : Session → Request Memory)

/-- A player's session beside the executor, and the memory of whoever watches that. -/
structure Desk (Memory : Type) where
  session : Session := {}
  executor : Executor
  memory : Memory

/-- The desk after a turn. A save that is refused leaves it as it is. -/
def Desk.take (desk : Desk Memory) : Turn Memory → Desk Memory
  | .push arrow => { desk with session := desk.session.push arrow }
  | .clear => { desk with session := desk.session.clear }
  | .save name =>
      match desk.session.save name with
      | .ok session => { desk with session }
      | .error _ => desk
  | .ask request =>
      let reply := (request desk.session).make desk.executor desk.memory
      { desk with executor := reply.executor, memory := reply.memory }

-----------------------------------------------------------------------------------------
-- What the turns come to
-----------------------------------------------------------------------------------------

def Turn.isClear : Turn Memory → Bool
  | .clear => true
  | _ => false

def Turn.pushed? : Turn Memory → Option Arrow
  | .push arrow => some arrow
  | _ => none

/-- The arrows that were pushed since the last clear. -/
def pushedSinceClear (turns : List (Turn Memory)) : List Arrow :=
  (turns.rtakeWhile (!·.isClear)).filterMap Turn.pushed?

/-- There were such arrows to save under the name, and whenever the name was used for a save
after that, there were none.
-/
def SavedLast (turns : List (Turn Memory)) (name : String) (arrows : List Arrow) : Prop :=
  ∃ before after,
    turns = before ++ .save name :: after
    ∧ pushedSinceClear before = arrows
    ∧ arrows ≠ []
    ∧ ∀ earlier later,
        after = earlier ++ .save name :: later
        → pushedSinceClear (before ++ .save name :: earlier) = []

theorem pushedSinceClear_push (turns : List (Turn Memory)) (arrow : Arrow)
    : pushedSinceClear (turns ++ [.push arrow]) = pushedSinceClear turns ++ [arrow] := by
  rw [pushedSinceClear, List.rtakeWhile_concat_pos _ _ _ rfl, List.filterMap_append]
  rfl

theorem pushedSinceClear_clear (turns : List (Turn Memory))
    : pushedSinceClear (turns ++ [.clear]) = [] := by
  rw [pushedSinceClear, List.rtakeWhile_concat_neg _ _ _ (by simp [Turn.isClear])]
  rfl

/-- Other turns do not change what was pushed. -/
theorem pushedSinceClear_of_neither (turns : List (Turn Memory)) {turn : Turn Memory}
    (no_clear : turn.isClear = false) (no_push : turn.pushed? = none)
    : pushedSinceClear (turns ++ [turn]) = pushedSinceClear turns := by
  rw [pushedSinceClear, List.rtakeWhile_concat_pos _ _ _ (by simp [no_clear]),
    List.filterMap_append]
  simp [no_push, pushedSinceClear]

/-- A save that finds arrows is the last one that did. -/
theorem savedLast_save {turns : List (Turn Memory)} {name : String} {arrows : List Arrow}
    (nonempty : pushedSinceClear turns ≠ [])
    : SavedLast (turns ++ [.save name]) name arrows ↔ arrows = pushedSinceClear turns := by
  constructor
  · rintro ⟨before, after, same, found, -, later⟩
    cases after using List.reverseRecOn with
    | nil =>
        obtain ⟨rfl, -⟩ := List.append_inj' same rfl
        exact found.symm
    | append_singleton after last =>
        -- An earlier save has this one behind it, and that would have found nothing.
        rw [← List.cons_append, ← List.append_assoc] at same
        obtain ⟨rfl, ends⟩ := List.append_inj' same rfl
        obtain rfl : Turn.save name = last := by simpa using ends
        exact absurd (later after [] rfl) nonempty
  · rintro rfl
    exact ⟨turns, [], rfl, rfl, nonempty, by simp⟩

/-- A turn that is no such save, or one that finds nothing, does not change what was saved. -/
theorem savedLast_concat {turns : List (Turn Memory)} {turn : Turn Memory} {name : String}
    {arrows : List Arrow} (other : turn = .save name → pushedSinceClear turns = [])
    : SavedLast (turns ++ [turn]) name arrows ↔ SavedLast turns name arrows := by
  constructor
  · rintro ⟨before, after, same, found, nonempty, later⟩
    cases after using List.reverseRecOn with
    | nil =>
        obtain ⟨rfl, ends⟩ := List.append_inj' same rfl
        have nothing := other (by simpa using ends)
        exact absurd (found.symm.trans nothing) nonempty
    | append_singleton after last =>
        rw [← List.cons_append, ← List.append_assoc] at same
        obtain ⟨rfl, -⟩ := List.append_inj' same rfl
        refine ⟨before, after, rfl, found, nonempty, ?_⟩
        rintro earlier rest rfl
        exact later earlier (rest ++ [last]) (by simp)
  · rintro ⟨before, after, rfl, found, nonempty, later⟩
    refine ⟨before, after ++ [turn], by simp, found, nonempty, ?_⟩
    intro earlier rest same
    cases rest using List.reverseRecOn with
    | nil =>
        obtain ⟨rfl, ends⟩ := List.append_inj' same rfl
        exact other (by simpa using ends)
    | append_singleton rest last =>
        rw [← List.cons_append, ← List.append_assoc] at same
        obtain ⟨rfl, -⟩ := List.append_inj' same rfl
        exact later earlier rest rfl

/-- Something was saved last wherever any save found arrows, by induction over the turns. -/
theorem exists_savedLast_iff {turns : List (Turn Memory)} {name : String}
    : (∃ arrows, SavedLast turns name arrows)
      ↔ ∃ before after, turns = before ++ .save name :: after ∧ pushedSinceClear before ≠ [] := by
  constructor
  · rintro ⟨arrows, before, after, same, rfl, nonempty, -⟩
    exact ⟨before, after, same, nonempty⟩
  · rintro ⟨before, after, same, nonempty⟩
    induction turns using List.reverseRecOn generalizing after with
    | nil => simp at same
    | append_singleton turns turn ih =>
        by_cases replaced : turn = .save name ∧ pushedSinceClear turns ≠ []
        · obtain ⟨rfl, found⟩ := replaced
          exact ⟨_, (savedLast_save found).mpr rfl⟩
        · have other : turn = .save name → pushedSinceClear turns = [] := by
            intro save
            by_contra found
            exact replaced ⟨save, found⟩
          cases after using List.reverseRecOn with
          | nil =>
              obtain ⟨rfl, ends⟩ := List.append_inj' same rfl
              exact absurd (other (by simpa using ends)) nonempty
          | append_singleton after last =>
              rw [← List.cons_append, ← List.append_assoc] at same
              obtain ⟨earlier, -⟩ := List.append_inj' same rfl
              obtain ⟨arrows, saved⟩ := ih after earlier
              exact ⟨arrows, (savedLast_concat other).mpr saved⟩

-----------------------------------------------------------------------------------------
-- One turn
-----------------------------------------------------------------------------------------

namespace Session

variable {session : Session}

theorem save_of_empty (empty : session.sequence = []) (name : String)
    : session.save name = .error .emptySequence := by
  rw [save, if_pos (List.isEmpty_iff.mpr empty)]

theorem save_of_nonempty (nonempty : session.sequence ≠ []) (name : String)
    : session.save name
      = .ok { session with functions := session.functions.insert name session.sequence } := by
  rw [save, if_neg (mt List.isEmpty_iff.mp nonempty)]

theorem mem_functionNames_iff {name : String}
    : name ∈ session.functionNames ↔ ∃ arrows, session.function? name = some arrows := by
  rw [functionNames, Std.TreeMap.mem_keys, Std.TreeMap.mem_iff_isSome_getElem?,
    Option.isSome_iff_exists]
  rfl

end Session

/-- The session on the desk is what the turns come to. -/
structure Desk.Recounts (desk : Desk Memory) (turns : List (Turn Memory)) : Prop where
  sequence : desk.session.sequence = pushedSinceClear turns
  functions
    : ∀ name arrows,
        desk.session.function? name = some arrows ↔ SavedLast turns name arrows

/-- A turn that only adds to the sequence, takes it away or lets it be saves nothing. -/
theorem Desk.Recounts.unsaved {desk next : Desk Memory} {turns : List (Turn Memory)}
    (h : desk.Recounts turns) {turn : Turn Memory} (no_save : ∀ name, turn ≠ .save name)
    (sequence : next.session.sequence = pushedSinceClear (turns ++ [turn]))
    (functions : next.session.functions = desk.session.functions)
    : next.Recounts (turns ++ [turn]) where
  sequence := sequence
  functions name arrows := by
    rw [savedLast_concat fun save => absurd save (no_save name), ← h.functions]
    rw [Session.function?, Session.function?, functions]

/-- A save puts the sequence in place of what had the name, unless there is nothing to save. -/
theorem Desk.Recounts.save {desk : Desk Memory} {turns : List (Turn Memory)}
    (h : desk.Recounts turns) (name : String)
    : (desk.take (.save name)).Recounts (turns ++ [.save name]) := by
  have kept : pushedSinceClear (turns ++ [.save name]) = pushedSinceClear turns :=
    pushedSinceClear_of_neither turns rfl rfl
  by_cases empty : pushedSinceClear turns = []
  · have refused : desk.take (.save name) = desk := by
      rw [take, Session.save_of_empty (h.sequence.trans empty)]
    rw [refused]
    refine ⟨h.sequence.trans kept.symm, ?_⟩
    intro other arrows
    rw [savedLast_concat fun _ => empty]
    exact h.functions other arrows
  · have nonempty : desk.session.sequence ≠ [] := h.sequence ▸ empty
    rw [take, Session.save_of_nonempty nonempty]
    refine ⟨h.sequence.trans kept.symm, ?_⟩
    intro other arrows
    rw [Session.function?, Std.TreeMap.getElem?_insert]
    by_cases same : name = other
    · subst same
      rw [if_pos Std.ReflOrd.compare_self, savedLast_save empty, h.sequence, Option.some_inj]
      exact eq_comm
    · rw [if_neg (mt Std.LawfulEqOrd.eq_of_compare same), savedLast_concat ?_]
      · exact h.functions other arrows
      · intro save
        exact absurd (Turn.save.inj save) same

/-- Whatever the turn is, the session still is what the turns come to. -/
theorem Desk.Recounts.take {desk : Desk Memory} {turns : List (Turn Memory)}
    (h : desk.Recounts turns) (turn : Turn Memory)
    : (desk.take turn).Recounts (turns ++ [turn]) := by
  cases turn with
  | push arrow =>
      apply h.unsaved
      · exact fun _ => nofun
      · rw [pushedSinceClear_push, ← h.sequence]
        rfl
      · rfl
  | clear =>
      apply h.unsaved
      · exact fun _ => nofun
      · rw [pushedSinceClear_clear]
        rfl
      · rfl
  | save name => exact h.save name
  | ask request =>
      apply h.unsaved
      · exact fun _ => nofun
      · exact h.sequence.trans (pushedSinceClear_of_neither turns rfl rfl).symm
      · rfl

-----------------------------------------------------------------------------------------
-- All turns
-----------------------------------------------------------------------------------------

/-- With nothing done yet there is nothing in the session. -/
theorem Desk.recounts_nil (executor : Executor) (memory : Memory)
    : Recounts { executor, memory } [] := by
  refine ⟨rfl, ?_⟩
  intro name arrows
  constructor
  · intro found
    simp [Session.function?] at found
  · rintro ⟨before, after, same, -⟩
    simp at same

/-- By induction over the turns. -/
theorem Desk.recounts_foldl (executor : Executor) (memory : Memory)
    (turns : List (Turn Memory))
    : (turns.foldl Desk.take { executor, memory }).Recounts turns := by
  induction turns using List.reverseRecOn with
  | nil => exact recounts_nil executor memory
  | append_singleton turns turn ih =>
      rw [List.foldl_append]
      exact ih.take turn

/-- The first name comes before the second one: at the first difference its character has the
lower code, or it ends there.
-/
def NameBefore (first second : String) : Prop :=
  List.Lex (fun c d : Char => c.toNat < d.toNat) first.toList second.toList

theorem nameBefore_of_compare {first second : String} (h : compare first second = .lt)
    : NameBefore first second := by
  have before : first < second := compareOfLessAndEq_eq_lt.mp h
  exact List.lex_lt.mpr (String.lt_iff.mp before)

theorem Session.functionNames_ascending (session : Session)
    : session.functionNames.Nodup ∧ session.functionNames.Pairwise NameBefore := by
  refine ⟨Std.TreeMap.nodup_keys, ?_⟩
  apply Std.TreeMap.ordered_keys.imp
  intro first second before
  exact nameBefore_of_compare before

/-- Whatever a player does, and whatever is asked of the executor in between: the sequence is what
was pushed since the last clear, and a function is what the sequence was when it was last saved
under its name. Nothing empty is saved, and the names are listed once each, in ascending order.
-/
theorem session_recounts_turns (executor : Executor) (memory : Memory)
    (turns : List (Turn Memory))
    : let desk := turns.foldl Desk.take { executor, memory }
      desk.session.sequence = pushedSinceClear turns
      ∧ (∀ name arrows,
          desk.session.function? name = some arrows ↔ SavedLast turns name arrows)
      ∧ (∀ name,
          desk.session.function? name = none
          ↔ ∀ before after, turns = before ++ .save name :: after → pushedSinceClear before = [])
      ∧ (∀ name,
          pushedSinceClear turns = []
          → desk.session.save name = .error .emptySequence ∧ desk.take (.save name) = desk)
      ∧ (∀ name, desk.session.function? name ≠ some [])
      ∧ (∀ name, name ∈ desk.session.functionNames ↔ ∃ arrows, SavedLast turns name arrows)
      ∧ desk.session.functionNames.Nodup
      ∧ desk.session.functionNames.Pairwise NameBefore := by
  intro desk
  have recounts : desk.Recounts turns := Desk.recounts_foldl executor memory turns
  have ascending := desk.session.functionNames_ascending
  refine ⟨recounts.sequence, recounts.functions, ?_, ?_, ?_, ?_, ascending⟩
  · intro name
    have known : (∃ arrows, desk.session.function? name = some arrows)
        ↔ ∃ before after,
            turns = before ++ .save name :: after ∧ pushedSinceClear before ≠ [] := by
      rw [← exists_savedLast_iff]
      exact exists_congr fun arrows => recounts.functions name arrows
    rw [← Option.not_isSome_iff_eq_none, Option.isSome_iff_exists, known]
    simp only [not_exists, not_and, not_not]
  · intro name nothing
    have refused := Session.save_of_empty (recounts.sequence.trans nothing) name
    refine ⟨refused, ?_⟩
    rw [Desk.take, refused]
  · intro name empty
    obtain ⟨-, -, -, -, nonempty, -⟩ := (recounts.functions name []).mp empty
    exact nonempty rfl
  · intro name
    rw [Session.mem_functionNames_iff]
    exact exists_congr fun arrows => recounts.functions name arrows

/-- A save too early, two functions of which one is saved again, a run in between, and a save
behind a clear.
-/
theorem session_recounts_a_function_saved_again
    : let executor : Executor := { world := .start {} }
      let run : Session → Request Nat := fun session =>
        .performSaved (fun executor count => (executor, count + 1)) session "b"
      let turns : List (Turn Nat) :=
        [.save "b", .push .right, .save "b", .save "a", .ask run, .push .down, .save "b", .clear,
          .save "a"]
      let desk := turns.foldl Desk.take { executor, memory := 0 }
      desk.memory = 1
      ∧ desk.session.function? "a" = some [.right]
      ∧ desk.session.function? "b" = some [.right, .down]
      ∧ desk.session.functionNames = ["a", "b"]
      ∧ SavedLast turns "b" [.right, .down]
      ∧ desk.session.save "c" = .error .emptySequence := by
  intro executor run turns desk
  have recounted := session_recounts_turns executor 0 turns
  have again : desk.session.function? "b" = some [.right, .down] := by decide +kernel
  refine ⟨by decide +kernel, by decide +kernel, again, by decide +kernel, ?_, ?_⟩
  · exact (recounted.2.1 "b" _).mp again
  · exact (recounted.2.2.2.1 "c" (by rfl)).1

end RobotPuzzle
