/-! Square grids of tiles. -/

namespace RobotPuzzle

/-- A cell of the grid. Tiles that a level does not mention are safe and otherwise empty. -/
structure Tile where
  hasGem : Bool := false
  hasFlag : Bool := false
  isWall : Bool := false
  isSafe : Bool := true
  isDanger : Bool := false
deriving DecidableEq, Repr, Inhabited

/-- Rows of tiles, from north to south, each from west to east. -/
structure Grid where
  rows : List (List Tile)
deriving DecidableEq, Repr

/-- The number as a signed 32-bit word reads its low bits. Coordinates are such words, so
this is how far the coordinates of a grid of `n` rows reach.
-/
def signed32 (n : Nat) : Int :=
  Int.bmod n 0x100000000

namespace Grid

/-- A grid of `n` rows of `n` tiles that nothing has been put on. -/
def square (n : Nat) : Grid :=
  ⟨.replicate n (.replicate n {})⟩

def size (grid : Grid) : Nat :=
  grid.rows.length

def tile? (grid : Grid) (x y : Nat) : Option Tile :=
  grid.rows[y]?.bind (·[x]?)

/-- The grid with the tile in column `x` of row `y` changed, if there is one. -/
def update (grid : Grid) (x y : Nat) (change : Tile → Tile) : Grid :=
  ⟨grid.rows.modify y (·.modify x change)⟩

@[simp] theorem size_update (grid : Grid) (x y : Nat) (change : Tile → Tile)
    : (grid.update x y change).size = grid.size := by
  simp [update, size]

/-- Changing a tile changes that tile and no other. -/
theorem tile?_update (grid : Grid) (x y i j : Nat) (change : Tile → Tile)
    : (grid.update x y change).tile? i j
      = if i = x ∧ j = y then (grid.tile? i j).map change else grid.tile? i j := by
  simp only [update, tile?, List.getElem?_modify]
  by_cases hj : y = j
  · by_cases hi : x = i
    · subst hi hj
      cases grid.rows[y]? <;> simp
    · subst hj
      cases grid.rows[y]? <;> simp [hi, Ne.symm hi]
  · simp [hj, Ne.symm hj]

/-- Every place of a fresh square holds the plain tile. -/
theorem tile?_square (n i j : Nat)
    : (square n).tile? i j = if i < n ∧ j < n then some {} else none := by
  simp only [square, tile?, List.getElem?_replicate]
  by_cases hj : j < n <;> simp [hj, List.getElem?_replicate]

end Grid

end RobotPuzzle
