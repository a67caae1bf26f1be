import Mathlib.Tactic.SplitIfs
import Std.Data.String.ToInt
import RobotPuzzle.Proofs.Level.Validation
import RobotPuzzle.Proofs.World.Layout
import RobotPuzzle.Snapshot.Drawing

/-! What a drawing gives away. Where coordinates reach all of the grid, the rows of a drawing show
a heading in one place only, and the numbers of the status line are read back as its words: so
worlds that are drawn alike are in the same situation.
-/

namespace RobotPuzzle

-----------------------------------------------------------------------------------------
-- The characters of the rows
-----------------------------------------------------------------------------------------

theorem Direction.mark_inj {a b : Direction} : a.mark = b.mark ↔ a = b := by
  cases a <;> cases b <;> decide

/-- The character in column `x` of row `y`. -/
def charAt? (rows : List (List Char)) (x y : Nat) : Option Char :=
  rows[y]?.bind (·[x]?)

namespace Snapshot

variable (snapshot : Snapshot)

/-- The rows of the drawing. -/
def picture : List (List Char) :=
  snapshot.grid.rows.mapIdx snapshot.drawRow

theorem charAt?_picture (x y : Nat)
    : charAt? snapshot.picture x y = (snapshot.grid.tile? x y).map (snapshot.glyph x y) := by
  simp only [charAt?, picture, Grid.tile?, List.getElem?_mapIdx]
  cases snapshot.grid.rows[y]? with
  | none => rfl
  | some row => simp [drawRow]

/-- A tile shows a heading if the robot covers it, for no tile looks like one. -/
theorem glyph_eq_mark_iff {x y : Nat} {tile : Tile} {direction : Direction}
    : snapshot.glyph x y tile = direction.mark
      ↔ (snapshot.robot.x = signed32 x ∧ snapshot.robot.y = signed32 y)
        ∧ direction = snapshot.robot.direction := by
  unfold glyph
  split
  case isTrue here => rw [Direction.mark_inj, and_iff_right here, eq_comm]
  case isFalse away =>
    simp only [away, false_and, iff_false]
    split_ifs <;> cases direction <;> decide

theorem glyph_ne_newline (x y : Nat) (tile : Tile) : snapshot.glyph x y tile ≠ '\n' := by
  unfold glyph
  split_ifs
  case pos => cases snapshot.robot.direction <;> decide
  all_goals decide

theorem newline_notMem_picture {row : List Char} (h : row ∈ snapshot.picture) : '\n' ∉ row := by
  intro member
  obtain ⟨y, _, rfl⟩ := List.mem_mapIdx.mp h
  obtain ⟨x, _, same⟩ := List.mem_mapIdx.mp member
  exact snapshot.glyph_ne_newline _ _ _ same

end Snapshot

-----------------------------------------------------------------------------------------
-- Lines and words
-----------------------------------------------------------------------------------------

/-- A number is written without any character that is neither a digit nor a minus sign. -/
theorem notMem_toString_int {n : Int} {c : Char} (noDigit : c.isDigit = false) (noSign : c ≠ '-')
    : c ∉ (toString n).toList := by
  have digits (k : Nat) : c ∉ k.repr.toList := by
    rw [Nat.toList_repr]
    intro member
    rw [Nat.isDigit_of_mem_toDigits (by decide) (by decide) member] at noDigit
    contradiction
  rw [Int.toString_eq_repr, Int.repr_eq_if]
  split
  · exact digits _
  · rw [String.toList_append, List.mem_append, not_or]
    exact ⟨by simpa using noSign, digits _⟩

theorem notMem_toString_nat {n : Nat} {c : Char} (noDigit : c.isDigit = false) (noSign : c ≠ '-')
    : c ∉ (toString n).toList :=
  @notMem_toString_int n c noDigit noSign

/-- Parts that are each ended, and one behind them, are all of these with ends between them. -/
theorem flatten_map_append {α : Type} (stop : List α) (parts : List (List α)) (last : List α)
    : (parts.map (· ++ stop)).flatten ++ last = stop.intercalate (parts ++ [last]) := by
  induction parts with
  | nil => simp
  | cons part parts ih =>
      rw [List.cons_append, List.intercalate_cons_of_ne_nil (by simp), ← ih]
      simp

namespace Snapshot

variable (snapshot : Snapshot)

theorem newline_notMem_statusLine : '\n' ∉ snapshot.statusLine.toList := by
  simp only [statusLine, String.toList_append, List.mem_append, not_or]
  exact ⟨⟨⟨by decide, notMem_toString_int (by decide) (by decide)⟩, by decide⟩,
    notMem_toString_nat (by decide) (by decide)⟩

/-- The lines of a drawing are its rows and the status line, whatever it shows. -/
theorem lines_draw
    : snapshot.draw.toList.splitOn '\n' = snapshot.picture ++ [snapshot.statusLine.toList] := by
  have joined
      : snapshot.draw.toList
        = ['\n'].intercalate (snapshot.picture ++ [snapshot.statusLine.toList]) := by
    simp only [draw, String.toList_ofList, ← flatten_map_append, picture,
      List.mapIdx_eq_zipIdx_map, List.map_map, Function.comp_def]
  rw [joined]
  refine List.splitOn_intercalate '\n' ?_ (by simp)
  intro line member
  rcases List.mem_append.mp member with member | member
  · exact snapshot.newline_notMem_picture member
  · obtain rfl := List.mem_singleton.mp member
    exact snapshot.newline_notMem_statusLine

theorem words_statusLine
    : snapshot.statusLine.toList.splitOn ' '
      = ["energy:".toList, (toString snapshot.energy).toList, [], "gems:".toList,
          (toString snapshot.gems).toList] := by
  have joined
      : snapshot.statusLine.toList
        = [' '].intercalate
            ["energy:".toList, (toString snapshot.energy).toList, [], "gems:".toList,
              (toString snapshot.gems).toList] := by
    simp [statusLine]
  rw [joined]
  refine List.splitOn_intercalate ' ' ?_ (by simp)
  simp only [List.forall_mem_cons, List.not_mem_nil, IsEmpty.forall_iff, implies_true, and_true]
  exact ⟨by decide, notMem_toString_int (by decide) (by decide), by decide, by decide,
    notMem_toString_nat (by decide) (by decide)⟩

end Snapshot

/-- The status line tells energy and gems apart from all others, as its words do. -/
theorem Snapshot.numbers_of_statusLine {a b : Snapshot} (h : a.statusLine = b.statusLine)
    : a.energy = b.energy ∧ a.gems = b.gems := by
  have words := congrArg (·.toList.splitOn ' ') h
  simp only [words_statusLine, List.cons.injEq, String.toList_inj, Int.toString_eq_repr,
    Int.repr_inj, Nat.toString_eq_repr, Nat.repr_inj] at words
  exact ⟨words.2.1, words.2.2.2.2.1⟩

-----------------------------------------------------------------------------------------
-- The robot on its grid
-----------------------------------------------------------------------------------------

/-- The rows are `n` of `n` characters, and of these only the one in the column and row of the
robot is the mark of a heading, namely of its own.
-/
structure Robot.IsPictured (n : Nat) (robot : Robot) (rows : List (List Char)) : Prop where
  height : rows.length = n
  width : ∀ row ∈ rows, row.length = n
  mark
    : ∃ column row : Nat,
        robot.x = column
        ∧ robot.y = row
        ∧ ∀ x y (direction : Direction),
            charAt? rows x y = some direction.mark
            ↔ x = column ∧ y = row ∧ direction = robot.direction

/-- Rows picture one robot on one grid. -/
theorem Robot.IsPictured.unique {n n' : Nat} {robot robot' : Robot} {rows : List (List Char)}
    (h : robot.IsPictured n rows) (h' : robot'.IsPictured n' rows)
    : n = n' ∧ robot = robot' := by
  refine ⟨h.height.symm.trans h'.height, ?_⟩
  obtain ⟨column, row, left, top, mark⟩ := h.mark
  obtain ⟨column', row', left', top', mark'⟩ := h'.mark
  have there := (mark column row robot.direction).mpr ⟨rfl, rfl, rfl⟩
  obtain ⟨rfl, rfl, heading⟩ := (mark' column row robot.direction).mp there
  calc
    robot = ⟨column, row, robot.direction⟩ := by rw [← left, ← top]
    _ = robot' := by rw [heading, ← left', ← top']

/-- A world of a level whose size is a signed word pictures its robot. With a larger size the
robot would be shown again wherever a column and a row wrap around to its own.
-/
theorem World.Shows.isPictured {level : Level} {world : World} (h : World.Shows level world)
    (small : level.size.toNat < 0x80000000)
    : world.robot.IsPictured world.grid.size world.picture where
  height := by simp [Snapshot.picture, Grid.size]
  width := by
    intro row member
    obtain ⟨y, bottom, rfl⟩ := List.mem_mapIdx.mp member
    rw [Snapshot.drawRow, List.length_mapIdx, h.square.rows]
    exact h.square.columns _ (List.getElem_mem bottom)
  mark := by
    obtain ⟨column, row, standing, left, top, found, -⟩ := h.robot
    -- A column or row of the grid is read back from a signed word as it is.
    have fits {x y : Nat} {tile : Tile} (there : world.grid.tile? x y = some tile)
        : signed32 x = x ∧ signed32 y = y := by
      obtain ⟨right, bottom⟩ := h.square.lt_of_tile? there
      exact ⟨signed32_of_lt (by omega), signed32_of_lt (by omega)⟩
    refine ⟨column, row, left, top, ?_⟩
    intro x y direction
    rw [Snapshot.charAt?_picture, Option.map_eq_some_iff]
    constructor
    · rintro ⟨tile, there, same⟩
      obtain ⟨⟨across, down⟩, heading⟩ := world.glyph_eq_mark_iff.mp same
      obtain ⟨wide, high⟩ := fits there
      rw [left, wide, Int.natCast_inj] at across
      rw [top, high, Int.natCast_inj] at down
      exact ⟨across.symm, down.symm, heading⟩
    · rintro ⟨rfl, rfl, heading⟩
      obtain ⟨wide, high⟩ := fits found
      refine ⟨standing, found, world.glyph_eq_mark_iff.mpr ⟨⟨?_, ?_⟩, heading⟩⟩
      · rw [left, wide]
      · rw [top, high]

-----------------------------------------------------------------------------------------
-- Worlds that are drawn alike
-----------------------------------------------------------------------------------------

/-- The world was built from a level and has gone through any commands since. -/
def World.Reachable (world : World) : Prop :=
  ∃ (level : Level) (begun : World) (commands : List Command),
    World.ofLevel level = .ok begun ∧ commands.foldl World.after begun = world

theorem World.Reachable.of_ofLevel {level : Level} {world : World}
    (built : World.ofLevel level = .ok world) (commands : List Command)
    : (commands.foldl World.after world).Reachable :=
  ⟨level, world, commands, built, rfl⟩

theorem World.Reachable.shows {world : World} (h : world.Reachable)
    : World.Shows world.level world := by
  obtain ⟨level, begun, commands, built, rfl⟩ := h
  have played := History.played_of_ofLevel built commands
  have shows := World.Shows.of_played played
  rwa [← played.level_eq, History.world_follow] at shows

/-- The robot is the same on grids of one size, with as much energy and as many gems. -/
structure Snapshot.SameSituation (a b : Snapshot) : Prop where
  size : a.grid.size = b.grid.size
  robot : a.robot = b.robot
  energy : a.energy = b.energy
  gems : a.gems = b.gems

/-- The drawing of a world whose size is a signed word is a picture of its robot above the status
line, and no such world in another situation is drawn alike.
-/
theorem drawing_tells_situation {world : World} (reachable : world.Reachable)
    (small : world.level.size.toNat < 0x80000000)
    : (∃ rows,
        world.draw.toList.splitOn '\n' = rows ++ [world.statusLine.toList]
        ∧ world.robot.IsPictured world.grid.size rows)
      ∧ ∀ other : World,
          other.Reachable
          → other.level.size.toNat < 0x80000000
          → world.draw = other.draw
          → world.SameSituation other.toSnapshot := by
  have pictured := reachable.shows.isPictured small
  refine ⟨⟨world.picture, world.lines_draw, pictured⟩, ?_⟩
  intro other reachable' small' same
  have lines := congrArg (·.toList.splitOn '\n') same
  simp only [Snapshot.lines_draw] at lines
  obtain ⟨picture, status⟩ := List.append_inj' lines rfl
  have pictured' := reachable'.shows.isPictured small'
  rw [← picture] at pictured'
  obtain ⟨size, robot⟩ := pictured.unique pictured'
  obtain ⟨energy, gems⟩ :=
    Snapshot.numbers_of_statusLine (String.toList_inj.mp (List.singleton_inj.mp status))
  exact { size, robot, energy, gems }

/-- Two robots that have come to one place in different ways. What a wall hides is not drawn, so
the grids need not be the same.
-/
theorem drawing_tells_situation_beside_a_wall
    : let things : List Element := [⟨.gem, ⟨1, 0⟩⟩, ⟨.wall, ⟨0, 1⟩⟩]
      let level : Level := { size := 2, elements := things }
      let level' : Level :=
        { size := 2, startPosition := ⟨1, 0⟩, startDirection := .south, startEnergy := 9,
          elements := ⟨.gem, ⟨0, 1⟩⟩ :: things }
      let world := [Command.move].foldl World.after (.start level)
      let other := [Command.pickUp, .turnLeft].foldl World.after (.start level')
      world.Reachable
      ∧ other.Reachable
      ∧ world.draw = ".>\n#.\nenergy: 9  gems: 1"
      ∧ world.draw = other.draw
      ∧ world.grid ≠ other.grid
      ∧ (∃ rows,
          world.draw.toList.splitOn '\n' = rows ++ [world.statusLine.toList]
          ∧ world.robot.IsPictured world.grid.size rows)
      ∧ world.SameSituation other.toSnapshot := by
  intro things level level' world other
  have valid : level.validate = .ok () := by decide +kernel
  have valid' : level'.validate = .ok () := by decide +kernel
  have reachable : world.Reachable := .of_ofLevel (World.ofLevel_eq_ok_iff.mpr ⟨valid, rfl⟩) _
  have reachable' : other.Reachable := .of_ofLevel (World.ofLevel_eq_ok_iff.mpr ⟨valid', rfl⟩) _
  have same : world.draw = other.draw := by decide +kernel
  obtain ⟨pictured, alike⟩ := drawing_tells_situation reachable (by decide +kernel)
  exact ⟨reachable, reachable', by decide +kernel, same, by decide +kernel, pictured,
    alike other reachable' (by decide +kernel) same⟩

end RobotPuzzle
