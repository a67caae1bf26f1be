import Mathlib.Data.List.Basic
import RobotPuzzle.Level.Validity

/-! What is known of a level that is valid. Coordinates are compared with the size as a signed
word reads it, which is never more than the size itself.
-/

namespace RobotPuzzle

/-- A number is read as no more than it is, since only its high bits are dropped. -/
theorem signed32_le (n : Nat) : signed32 n ≤ n := by
  unfold signed32
  rw [Int.bmod_def]
  split <;> omega

theorem signed32_lt (n : Nat) : signed32 n < 0x80000000 := by
  unfold signed32
  have := Int.bmod_lt (x := n) (m := 0x100000000) (by decide)
  omega

theorem Level.span_lt (level : Level) : level.span < 0x80000000 :=
  signed32_lt level.size.toNat

/-- The column and the row lie within the grid of the level. -/
def Level.Covers (level : Level) (x y : Int) : Prop :=
  (0 ≤ x ∧ x < level.size.toNat) ∧ (0 ≤ y ∧ y < level.size.toNat)

/-- A place within the reach of coordinates is a place of the grid, since the reach is never wider.
-/
theorem Level.covers_of_onGrid {level : Level} {place : Position}
    (h : level.onGrid place = true)
    : level.Covers place.x.toInt place.y.toInt := by
  have reach : level.span ≤ level.size.toNat := signed32_le level.size.toNat
  simp only [onGrid, Bool.and_eq_true, decide_eq_true_eq] at h
  obtain ⟨⟨⟨left, right⟩, top⟩, bottom⟩ := h
  refine ⟨⟨left, ?_⟩, ⟨top, ?_⟩⟩
  · omega
  · omega

/-- The level is fit to be played: all that it lists lies on the grid, and the robot starts on
the grid and on no wall.
-/
structure Level.Sound (level : Level) : Prop where
  elements
    : ∀ element ∈ level.elements,
        level.Covers element.place.x.toInt element.place.y.toInt
  start : level.Covers level.startPosition.x.toInt level.startPosition.y.toInt
  noWall : ⟨.wall, level.startPosition⟩ ∉ level.elements

/-- A level passes validation if it passes each check: there is a grid, all that is listed and the
start lie on it, and no wall is listed at the start.
-/
theorem Level.validate_eq_ok_iff {level : Level}
    : level.validate = .ok ()
      ↔ level.size ≠ 0
        ∧ (∀ element ∈ level.elements, level.onGrid element.place = true)
        ∧ level.onGrid level.startPosition = true
        ∧ ⟨.wall, level.startPosition⟩ ∉ level.elements := by
  unfold validate
  split
  next empty => simp [empty]
  next sized =>
    split
    next element found =>
      have off := List.find?_some found
      have member := List.mem_of_find?_eq_some found
      constructor
      · exact nofun
      · rintro ⟨-, inside, -⟩
        simp [inside element member] at off
    next inside =>
      have all := List.find?_eq_none.mp inside
      simp only [Bool.not_eq_true', Bool.not_eq_false] at all
      split
      next off => simp_all
      next startsOn =>
        split
        next wall => simp_all
        next noWall => simp_all

/-- A level that passes validation is fit to be played. -/
theorem Level.sound_of_validate {level : Level} (h : level.validate = .ok ())
    : level.Sound := by
  obtain ⟨-, inside, startsOn, noWall⟩ := validate_eq_ok_iff.mp h
  exact {
    elements := fun element member => covers_of_onGrid (inside element member)
    start := covers_of_onGrid startsOn
    noWall
  }

end RobotPuzzle
