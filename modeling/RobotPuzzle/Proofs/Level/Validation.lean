import RobotPuzzle.Proofs.Level.Soundness

/-! What validation accepts, and what it reports of a level that it refuses. It checks places
against the size as a signed word reads it, which is the size itself below 2147483648 only.
-/

namespace RobotPuzzle

theorem signed32_of_lt {n : Nat} (h : n < 0x80000000) : signed32 n = n := by
  unfold signed32
  rw [Int.bmod_def]
  split <;> omega

theorem signed32_lt_of_le {n : Nat} (h : 0x80000000 ≤ n) : signed32 n < n := by
  have fits := signed32_lt n
  omega

namespace Level

/-- The place is as far within the grid as validation wants it. -/
def Reaches (level : Level) (place : Position) : Prop :=
  (0 ≤ place.x.toInt ∧ place.x.toInt < level.span)
  ∧ (0 ≤ place.y.toInt ∧ place.y.toInt < level.span)

theorem onGrid_iff {level : Level} {place : Position}
    : level.onGrid place = true ↔ level.Reaches place := by
  simp only [onGrid, Reaches, Bool.and_eq_true, decide_eq_true_eq]
  exact and_assoc

/-- There is a grid, all that is listed and the start lie within it, and no wall is listed at the
start. What it is to lie within is left open.
-/
structure Playable (level : Level) (within : Position → Prop) : Prop where
  size : level.size ≠ 0
  elements : ∀ element ∈ level.elements, within element.place
  start : within level.startPosition
  noWall : ⟨.wall, level.startPosition⟩ ∉ level.elements

/-- The error names a defect of the level. -/
inductive Blamed (level : Level) (within : Position → Prop) : LevelError → Prop
  | emptyGrid (empty : level.size = 0) : Blamed level within .emptyGrid
  | elementOffGrid {before element after}
    (listed : level.elements = before ++ element :: after)
    (first : ∀ earlier ∈ before, within earlier.place) (off : ¬ within element.place)
    : Blamed level within (.elementOffGrid element)
  | startOffGrid (off : ¬ within level.startPosition)
    : Blamed level within (.startOffGrid level.startPosition)
  | startOnWall (wall : ⟨.wall, level.startPosition⟩ ∈ level.elements)
    : Blamed level within (.startOnWall level.startPosition)

/-- A level passes exactly if it is playable as far as coordinates reach. -/
theorem validate_eq_ok_iff_playable {level : Level}
    : level.validate = .ok () ↔ level.Playable level.Reaches := by
  rw [validate_eq_ok_iff]
  simp only [onGrid_iff]
  constructor
  · rintro ⟨size, elements, start, noWall⟩
    exact ⟨size, elements, start, noWall⟩
  · rintro ⟨size, elements, start, noWall⟩
    exact ⟨size, elements, start, noWall⟩

/-- By cases over the checks, in their order. -/
theorem blamed_of_validate {level : Level} {error : LevelError}
    (h : level.validate = .error error)
    : level.Blamed level.Reaches error := by
  unfold validate at h
  split at h
  next empty =>
    cases h
    exact .emptyGrid empty
  next sized =>
    split at h
    next element found =>
      cases h
      obtain ⟨off, before, after, listed, first⟩ := List.find?_eq_some_iff_append.mp found
      refine .elementOffGrid listed ?_ ?_
      · intro earlier member
        apply onGrid_iff.mp
        simpa using first earlier member
      · intro reached
        rw [onGrid_iff.mpr reached] at off
        cases off
    next =>
      split at h
      next off =>
        cases h
        refine .startOffGrid ?_
        intro reached
        rw [onGrid_iff.mpr reached] at off
        cases off
      next =>
        split at h
        next wall =>
          cases h
          exact .startOnWall (List.contains_iff_mem.mp wall)
        next => cases h

/-- From a size of 2147483648 on, some place on the grid is out of reach: the first one of a row
that a signed word does not count.
-/
theorem exists_covered_of_large {level : Level} (large : 0x80000000 ≤ level.size.toNat)
    : ∃ place : Position,
        level.Covers place.x.toInt place.y.toInt ∧ ¬ level.Reaches place := by
  have less : level.span < level.size.toNat := signed32_lt_of_le large
  have fits := level.span_lt
  have column : (Int32.ofInt (max level.span 0)).toInt = max level.span 0 := by
    apply Int32.toInt_ofInt_of_le
    · omega
    · omega
  refine ⟨⟨Int32.ofInt (max level.span 0), 0⟩, ⟨?_, ?_⟩, ?_⟩
  · rw [column]
    omega
  · rw [Int32.toInt_zero]
    omega
  · rintro ⟨⟨-, right⟩, -⟩
    rw [column] at right
    omega

/-- Validation accepts the levels that can be played within its reach, and reports a defect of
any other. Its reach is the whole grid for the sizes below 2147483648 and for no other.
-/
theorem validate_accounts (level : Level)
    : (level.validate = .ok () ↔ level.Playable level.Reaches)
      ∧ (∀ error, level.validate = .error error → level.Blamed level.Reaches error)
      ∧ ((∀ place : Position,
            level.Reaches place ↔ level.Covers place.x.toInt place.y.toInt)
          ↔ level.size.toNat < 0x80000000) := by
  refine ⟨validate_eq_ok_iff_playable, fun error h => blamed_of_validate h, ?_⟩
  constructor
  · intro same
    by_contra large
    obtain ⟨place, covered, out⟩ := exists_covered_of_large (Nat.le_of_not_lt large)
    exact out ((same place).mpr covered)
  · intro small place
    rw [Reaches, Covers, span, signed32_of_lt small]

/-- The smallest grid that is too large: the robot starts in its corner and nothing is listed, but
the start is said to be off the grid.
-/
theorem validate_refuses_a_large_grid
    : let level : Level := { size := 0x80000000 }
      level.Playable (fun place => level.Covers place.x.toInt place.y.toInt)
      ∧ level.validate = .error (.startOffGrid ⟨0, 0⟩) := by
  intro level
  have corner : level.Covers 0 0 := by
    have size : level.size.toNat = 0x80000000 := rfl
    rw [Covers, size]
    omega
  refine ⟨⟨?_, ?_, corner, ?_⟩, ?_⟩
  · decide
  · intro element member
    cases member
  · exact List.not_mem_nil
  · decide +kernel

end Level

end RobotPuzzle
