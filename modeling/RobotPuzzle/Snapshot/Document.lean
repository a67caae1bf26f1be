import RobotPuzzle.Json.Layout
import RobotPuzzle.Snapshot.Basic

/-! Snapshots as indented JSON. -/

namespace RobotPuzzle

open Json

def Tile.layout (tile : Tile) : List String :=
  Layout.object [
    ("has_gem", Layout.bool tile.hasGem),
    ("has_flag", Layout.bool tile.hasFlag),
    ("is_wall", Layout.bool tile.isWall),
    ("is_safe", Layout.bool tile.isSafe),
    ("is_danger", Layout.bool tile.isDanger)
  ]

def Robot.layout (robot : Robot) : List String :=
  Layout.object [
    ("x", Layout.number robot.x),
    ("y", Layout.number robot.y),
    ("direction", Layout.word robot.direction.name)
  ]

def Snapshot.layout (snapshot : Snapshot) : List String :=
  Layout.object [
    ("grid",
      Layout.array (snapshot.grid.rows.map fun row => Layout.array (row.map Tile.layout))),
    ("robot", snapshot.robot.layout),
    ("variables",
      Layout.object [
        ("energy", Layout.number snapshot.energy),
        ("gems_collected", Layout.number snapshot.gems)
      ])
  ]

def Snapshot.document (snapshot : Snapshot) : String :=
  Layout.text snapshot.layout

end RobotPuzzle
