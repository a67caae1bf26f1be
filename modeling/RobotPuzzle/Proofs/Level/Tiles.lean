import Mathlib.Data.List.Basic
import RobotPuzzle.Proofs.Level.Soundness
import RobotPuzzle.World

/-! What a level makes of each tile. All that matters for a tile are the kinds that the level
lists at its place, in their order.
-/

namespace RobotPuzzle

-----------------------------------------------------------------------------------------
-- A tile and the kinds that are put on it
-----------------------------------------------------------------------------------------

/-- A mark says whether a tile is safe, and takes back what an earlier mark said. -/
def ElementKind.isMark : ElementKind → Bool
  | .safe | .danger => true
  | .gem | .flag | .wall => false

theorem hasGem_put (tile : Tile) (next : ElementKind)
    : (tile.put next).hasGem = (tile.hasGem || next == .gem) := by
  cases next <;> simp [Tile.put]

theorem hasFlag_put (tile : Tile) (next : ElementKind)
    : (tile.put next).hasFlag = (tile.hasFlag || next == .flag) := by
  cases next <;> simp [Tile.put]

theorem isWall_put (tile : Tile) (next : ElementKind)
    : (tile.put next).isWall = (tile.isWall || next == .wall) := by
  cases next <;> simp [Tile.put]

/-- Something that a tile has as soon as one kind is put on it, and keeps, it has after many
kinds if it had it before or the kind is among them. By induction over the kinds.
-/
theorem foldl_put_keeps {has : Tile → Bool} {kind : ElementKind}
    (put : ∀ tile next, has (tile.put next) = (has tile || next == kind))
    (kinds : List ElementKind) (tile : Tile)
    : has (kinds.foldl Tile.put tile) = (has tile || kinds.contains kind) := by
  induction kinds generalizing tile with
  | nil => simp
  | cons next kinds ih =>
      rw [List.foldl_cons, ih, put, List.contains_cons, Bool.or_assoc,
        BEq.comm (a := kind) (b := next)]

@[simp] theorem hasGem_foldl_put (kinds : List ElementKind) (tile : Tile)
    : (kinds.foldl Tile.put tile).hasGem = (tile.hasGem || kinds.contains .gem) :=
  foldl_put_keeps hasGem_put kinds tile

@[simp] theorem hasFlag_foldl_put (kinds : List ElementKind) (tile : Tile)
    : (kinds.foldl Tile.put tile).hasFlag = (tile.hasFlag || kinds.contains .flag) :=
  foldl_put_keeps hasFlag_put kinds tile

@[simp] theorem isWall_foldl_put (kinds : List ElementKind) (tile : Tile)
    : (kinds.foldl Tile.put tile).isWall = (tile.isWall || kinds.contains .wall) :=
  foldl_put_keeps isWall_put kinds tile

/-- The last mark decides about danger, by induction over the kinds; without a mark the tile
stays what it was.
-/
theorem isDanger_foldl_put (kinds : List ElementKind) (tile : Tile)
    : (kinds.foldl Tile.put tile).isDanger
      = ((kinds.filter (·.isMark)).getLast?.map (· == .danger)).getD tile.isDanger := by
  induction kinds generalizing tile with
  | nil => rfl
  | cons next kinds ih =>
      rw [List.foldl_cons, ih]
      -- A mark at the head counts only if there is none behind it.
      cases next with
      | gem | flag | wall => rfl
      | safe | danger =>
          rw [List.filter_cons_of_pos rfl, List.getLast?_cons]
          cases (kinds.filter (·.isMark)).getLast? <;> rfl

/-- Marks keep safety and danger apart, by induction over the kinds. -/
theorem isSafe_foldl_put (kinds : List ElementKind) {tile : Tile}
    (apart : tile.isSafe = !tile.isDanger)
    : (kinds.foldl Tile.put tile).isSafe = !(kinds.foldl Tile.put tile).isDanger := by
  induction kinds generalizing tile with
  | nil => exact apart
  | cons next kinds ih =>
      apply ih
      cases next with
      | gem | flag | wall => exact apart
      | safe | danger => rfl

-----------------------------------------------------------------------------------------
-- The kinds that a level lists at a place
-----------------------------------------------------------------------------------------

/-- The element is put on the tile in this column and row. -/
def Element.isAt (element : Element) (x y : Nat) : Bool :=
  element.place.x.toInt == x && element.place.y.toInt == y

/-- The kinds of the elements at a place, in their order. -/
def kindsAt (elements : List Element) (x y : Nat) : List ElementKind :=
  (elements.filter (·.isAt x y)).map (·.kind)

/-- What is put on a tile is what the elements at its place are. -/
theorem mem_kindsAt_iff {elements : List Element} {x y : Nat} {kind : ElementKind}
    : kind ∈ kindsAt elements x y
      ↔ ∃ element ∈ elements, element.isAt x y = true ∧ element.kind = kind := by
  simp [kindsAt, and_assoc]

/-- An element whose coordinates are not negative is put on the tile at its place and leaves
any other tile as it was.
-/
theorem tile?_put {element : Element} (grid : Grid) (x y : Nat)
    (inside : 0 ≤ element.place.x.toInt ∧ 0 ≤ element.place.y.toInt)
    : (grid.put element).tile? x y
      = if element.isAt x y then (grid.tile? x y).map (·.put element.kind)
        else grid.tile? x y := by
  have same
      : (x = element.place.x.toInt.toNat ∧ y = element.place.y.toInt.toNat)
        ↔ element.isAt x y = true := by
    simp only [Element.isAt, Bool.and_eq_true, beq_iff_eq]
    omega
  rw [Grid.put, Grid.tile?_update]
  exact if_congr same rfl rfl

/-- Each tile gets the kinds that are listed at its place, by induction over the elements. -/
theorem tile?_foldl_put {elements : List Element} (grid : Grid) (x y : Nat)
    (inside
      : ∀ element ∈ elements, 0 ≤ element.place.x.toInt ∧ 0 ≤ element.place.y.toInt)
    : (elements.foldl Grid.put grid).tile? x y
      = (grid.tile? x y).map ((kindsAt elements x y).foldl Tile.put) := by
  induction elements generalizing grid with
  | nil => simp [kindsAt]
  | cons element elements ih =>
      obtain ⟨first, rest⟩ := List.forall_mem_cons.mp inside
      rw [List.foldl_cons, ih _ rest, tile?_put grid x y first]
      cases here : element.isAt x y with
      | false => simp [kindsAt, here]
      | true => simp [kindsAt, here, Function.comp_def]

/-- The tiles of a world that has just been started. -/
theorem tile?_start {level : Level} (sound : level.Sound) (x y : Nat)
    : (World.start level).grid.tile? x y
      = if x < level.size.toNat ∧ y < level.size.toNat then
          some ((kindsAt level.elements x y).foldl Tile.put {})
        else
          none := by
  have inside
      : ∀ element ∈ level.elements,
          0 ≤ element.place.x.toInt ∧ 0 ≤ element.place.y.toInt := by
    intro element member
    obtain ⟨⟨left, -⟩, ⟨top, -⟩⟩ := sound.elements element member
    exact ⟨left, top⟩
  rw [World.start, tile?_foldl_put _ x y inside, Grid.tile?_square]
  split <;> rfl

end RobotPuzzle
