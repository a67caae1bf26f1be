import Mathlib.Data.Finset.Card
import RobotPuzzle.Proofs.World.Layout

/-! Energy and gems are accounted for: each move has cost one unit of energy, and each place at
which the level lists a gem has a gem on it or one in the hands of the robot.
-/

namespace RobotPuzzle

-----------------------------------------------------------------------------------------
-- Gems on a grid
-----------------------------------------------------------------------------------------

/-- How many tiles have a gem. -/
def Grid.gemCount (grid : Grid) : Nat :=
  grid.rows.flatten.countP (·.hasGem)

/-- Changing one item of a list changes a count by whether that item is counted. By induction
over the list and the place of the item.
-/
theorem countP_modify {α : Type} (p : α → Bool) (change : α → α) {items : List α} {i : Nat}
    {item : α} (found : items[i]? = some item)
    : (items.modify i change).countP p + (p item).toNat
      = items.countP p + (p (change item)).toNat := by
  induction items generalizing i with
  | nil => simp at found
  | cons head items ih =>
      cases i with
      | zero =>
          obtain rfl := Option.some.inj found
          rw [List.modify_zero_cons, List.countP_cons, List.countP_cons]
          cases p head <;> cases p (change head) <;> simp
      | succ i =>
          have rest := ih found
          rw [List.modify_succ_cons, List.countP_cons, List.countP_cons]
          omega

/-- Changing one row changes a count over all rows by what it does to that row. -/
theorem countP_flatten_modify {α : Type} (p : α → Bool) (change : List α → List α)
    {rows : List (List α)} {i : Nat} {row : List α} (found : rows[i]? = some row)
    : (rows.modify i change).flatten.countP p + row.countP p
      = rows.flatten.countP p + (change row).countP p := by
  induction rows generalizing i with
  | nil => simp at found
  | cons head rows ih =>
      cases i with
      | zero =>
          obtain rfl := Option.some.inj found
          simp only [List.modify_zero_cons, List.flatten_cons, List.countP_append]
          omega
      | succ i =>
          have rest := ih found
          simp only [List.modify_succ_cons, List.flatten_cons, List.countP_append]
          omega

/-- Changing a tile changes the number of gems by what it does to the gem of that tile. -/
theorem Grid.gemCount_update {grid : Grid} {x y : Nat} {tile : Tile} (change : Tile → Tile)
    (found : grid.tile? x y = some tile)
    : (grid.update x y change).gemCount + tile.hasGem.toNat
      = grid.gemCount + (change tile).hasGem.toNat := by
  obtain ⟨row, inGrid, inRow⟩ := Option.bind_eq_some_iff.mp found
  have rows := countP_flatten_modify (·.hasGem) (·.modify x change) inGrid
  have tiles := countP_modify (·.hasGem) change inRow
  simp only [gemCount, update]
  omega

theorem Grid.gemCount_square (n : Nat) : (square n).gemCount = 0 := by
  rw [gemCount, List.countP_eq_zero]
  intro tile member
  obtain ⟨row, inGrid, inRow⟩ := List.mem_flatten.mp member
  rw [List.eq_of_mem_replicate inGrid] at inRow
  rw [List.eq_of_mem_replicate inRow]
  exact Bool.false_ne_true

/-- The places at which gems are listed, once for each time. -/
def gemPlaces (elements : List Element) : List Position :=
  (elements.filter (·.kind == .gem)).map (·.place)

theorem gemPlaces_snoc (elements : List Element) (element : Element)
    : gemPlaces (elements ++ [element])
      = gemPlaces elements ++ if element.kind = .gem then [element.place] else [] := by
  by_cases gem : element.kind = .gem <;> simp [gemPlaces, gem]

/-- Where coordinates are not negative, elements on one tile are at one place. -/
theorem Element.isAt_toNat_iff {element other : Element}
    (left : 0 ≤ other.place.x.toInt) (top : 0 ≤ other.place.y.toInt)
    : element.isAt other.place.x.toInt.toNat other.place.y.toInt.toNat = true
      ↔ element.place = other.place := by
  obtain ⟨_, ⟨x, y⟩⟩ := element
  obtain ⟨_, ⟨i, j⟩⟩ := other
  simp only [isAt, Bool.and_eq_true, beq_iff_eq, Int.toNat_of_nonneg left,
    Int.toNat_of_nonneg top, Int32.toInt_inj, Position.mk.injEq]

/-- A tile of a level has a gem where one is listed. -/
theorem gem_mem_kindsAt_iff {elements : List Element} {element : Element}
    (left : 0 ≤ element.place.x.toInt) (top : 0 ≤ element.place.y.toInt)
    : .gem ∈ kindsAt elements element.place.x.toInt.toNat element.place.y.toInt.toNat
      ↔ element.place ∈ gemPlaces elements := by
  simp only [mem_kindsAt_iff, Element.isAt_toNat_iff left top, gemPlaces, List.mem_map,
    List.mem_filter, beq_iff_eq]
  constructor
  · rintro ⟨other, member, same, gem⟩
    exact ⟨other, ⟨member, gem⟩, same⟩
  · rintro ⟨other, ⟨member, gem⟩, same⟩
    exact ⟨other, member, same, gem⟩

/-- No coordinate of these elements is off a grid of `n` rows and columns. -/
def Within (n : Nat) (elements : List Element) : Prop :=
  ∀ element ∈ elements,
    (0 ≤ element.place.x.toInt ∧ element.place.x.toInt < n)
    ∧ (0 ≤ element.place.y.toInt ∧ element.place.y.toInt < n)

/-- A tile has a gem after all elements have been put exactly if one of them is a gem at its place.
-/
theorem hasGem_of_foldl_put {n : Nat} {elements : List Element} {element : Element}
    {tile : Tile} (inside : Within n elements)
    (left : 0 ≤ element.place.x.toInt) (top : 0 ≤ element.place.y.toInt)
    (found
      : (elements.foldl Grid.put (.square n)).tile? element.place.x.toInt.toNat
          element.place.y.toInt.toNat
        = some tile)
    : tile.hasGem = decide (element.place ∈ gemPlaces elements) := by
  rw [tile?_foldl_put _ _ _ fun other member =>
    ⟨(inside other member).1.1, (inside other member).2.1⟩] at found
  obtain ⟨plain, fresh, rfl⟩ := Option.map_eq_some_iff.mp found
  rw [Grid.tile?_square, Option.ite_none_right_eq_some, Option.some.injEq] at fresh
  obtain ⟨-, rfl⟩ := fresh
  rw [hasGem_foldl_put, Bool.false_or, List.contains_eq_mem]
  exact decide_eq_decide.mpr (gem_mem_kindsAt_iff left top)

/-- Elements put as many gems on a grid as there are places at which they list one. By
induction over the elements from the last: another gem at a place makes no difference.
-/
theorem gemCount_foldl_put {n : Nat} {elements : List Element} (inside : Within n elements)
    : (elements.foldl Grid.put (.square n)).gemCount
      = (gemPlaces elements).toFinset.card := by
  induction elements using List.reverseRecOn with
  | nil => exact Grid.gemCount_square n
  | append_singleton elements element ih =>
      obtain ⟨earlier, here⟩ := List.forall_mem_append.mp inside
      obtain ⟨⟨left, right⟩, ⟨top, bottom⟩⟩ := here element (by simp)
      obtain ⟨tile, found⟩ := ((Grid.isSquare_square n).foldl_put elements).tile?_eq_some
        (x := element.place.x.toInt.toNat) (y := element.place.y.toInt.toNat)
        (by omega) (by omega)
      have counted := Grid.gemCount_update (·.put element.kind) found
      rw [ih earlier, hasGem_put, hasGem_of_foldl_put earlier left top found] at counted
      rw [List.foldl_append, List.foldl_cons, List.foldl_nil, Grid.put, gemPlaces_snoc]
      by_cases gem : element.kind = .gem
      · by_cases listed : element.place ∈ gemPlaces elements
        · simpa [gem, listed] using counted
        · simpa [gem, listed] using counted
      · rw [beq_eq_false_iff_ne.mpr gem, Bool.or_false] at counted
        rw [if_neg gem, List.append_nil]
        exact Nat.add_right_cancel counted

-----------------------------------------------------------------------------------------
-- The books of a world
-----------------------------------------------------------------------------------------

/-- Reaching for a gem moves one from the grid into the hands of the robot, or none. -/
theorem World.gems_pickUp (world : World)
    : world.pickUp.gems + world.pickUp.grid.gemCount = world.gems + world.grid.gemCount := by
  cases gem : world.here.hasGem with
  | false => rw [pickUp_of_no_gem gem]
  | true =>
      -- There is a tile, since the one that is assumed elsewhere has no gem.
      cases found : world.grid.tile? world.robot.x.toNat world.robot.y.toNat with
      | none => simp [here, found] at gem
      | some tile =>
          have has : tile.hasGem = true := by simpa [here, found] using gem
          have counted := Grid.gemCount_update ({ · with hasGem := false }) found
          rw [has] at counted
          simp only [Bool.toNat_true, Bool.toNat_false] at counted
          rw [pickUp_of_gem gem]
          simp only
          omega

/-- After so many moves in a level, energy and gems are all accounted for. -/
structure World.Accounts (level : Level) (moves : Nat) (world : World) : Prop where
  energy : world.energy = level.startEnergy.toInt - moves
  rested : level.startEnergy.toInt ≤ 0 → moves = 0
  gems : world.gems + world.grid.gemCount = (gemPlaces level.elements).toFinset.card

namespace World.Accounts

variable {level : Level} {moves : Nat} {world : World}

/-- At the start nothing has been spent, and the gems that lie on the grid are those that are
listed.
-/
theorem start (sound : level.Sound) : World.Accounts level 0 (.start level) where
  energy := by simp [World.start]
  rested _ := rfl
  gems := (Nat.zero_add _).trans (gemCount_foldl_put sound.elements)

theorem face (h : World.Accounts level moves world) (direction : Direction)
    : World.Accounts level moves (world.face direction) where
  energy := h.energy
  rested := h.rested
  gems := h.gems

theorem pickUp (h : World.Accounts level moves world)
    : World.Accounts level moves world.pickUp where
  energy := (World.energy_pickUp world).trans h.energy
  rested := h.rested
  gems := (World.gems_pickUp world).trans h.gems

/-- A step forward takes a unit of energy that is there, so there was some at the start. -/
theorem move (h : World.Accounts level moves world) {next : World}
    (moved : world.moveForward = .ok next)
    : World.Accounts level (moves + 1) next := by
  obtain ⟨left, x, y, -, -, rfl⟩ := World.arrives_of_moveForward moved
  have arrived : World.Accounts level (moves + 1) (world.arrive x y) := {
    energy := by
      have spent := h.energy
      simp only [World.arrive]
      omega
    rested := by
      intro none
      have spent := h.energy
      omega
    gems := h.gems
  }
  exact arrived.pickUp

/-- Whatever has come from a level is accounted for, by induction over how it has. -/
theorem of_played (h : World.Played level moves world)
    : World.Accounts level moves world := by
  induction h with
  | start sound => exact .start sound
  | face _ direction ih => exact ih.face direction
  | pickUp _ ih => exact ih.pickUp
  | move _ moved ih => exact ih.move moved

end World.Accounts

/-- Whatever is done with a world, its energy is what the level applied last starts with less one
for each move since, of which there are none without energy to start with; and the gems in the
hands of the robot and on the grid are as many as the places at which that level lists one.
-/
theorem energy_and_gems_accounted {level : Level} {world : World}
    (built : World.ofLevel level = .ok world) (commands : List Command)
    : let last := History.follow { world, level, moves := 0 } commands
      last.world = commands.foldl World.after world
      ∧ last.world.Accounts last.level last.moves := by
  have played := History.played_of_ofLevel built commands
  exact ⟨History.world_follow _ commands, .of_played played⟩

/-- Two gems on one tile are one, the gem under the wall stays there, and steps that are refused
and a level that is not applied cost nothing.
-/
theorem energy_and_gems_accounted_in_a_crowd
    : let world := World.start .crowded
      let commands : List Command :=
        [.move, .move, .pickUp, .load { size := 0 }, .turnRight, .move]
      let last := History.follow { world, level := .crowded, moves := 0 } commands
      World.ofLevel .crowded = .ok world
      ∧ (gemPlaces Level.crowded.elements).toFinset.card = 2
      ∧ (last.moves, last.world.energy, last.world.gems, last.world.grid.gemCount)
        = (2, 8, 1, 1)
      ∧ last.world = commands.foldl World.after world
      ∧ last.world.Accounts last.level last.moves :=
  ⟨by rfl, by decide +kernel, by decide +kernel, energy_and_gems_accounted (by rfl) _⟩

end RobotPuzzle
